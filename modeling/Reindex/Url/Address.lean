import Reindex.Text.Numeral
import Reindex.Url.Pieces

/-!
# Numeric addresses

The addresses a host can be instead of a name. An IPv4 address may have one to four parts, each in
decimal, octal after `0` or hexadecimal after `0x`; the last part fills all the octets that remain.
An IPv6 address is eight pieces of 16 bits, a run of zeros abbreviated by `::`, the last two
pieces possibly in IPv4 form. Printing gives each address one form.
-/

namespace Reindex.Url

open Reindex.Text

/-! ### IPv4 -/

/-- The value of digits of the given base, which must all be such. -/
def radixValue (base : Nat) (acc : Nat) : List Char → Option Nat
  | [] => some acc
  | c :: rest =>
    match hexDigit? c with
    | some d => if d < base then radixValue base (acc * base + d) rest else none
    | none => none

def ipv4Part? : List Char → Option Nat
  | [] => none
  | '0' :: 'x' :: rest | '0' :: 'X' :: rest => radixValue 16 0 rest
  | '0' :: c :: rest => radixValue 8 0 (c :: rest)
  | cs => radixValue 10 0 cs

/-- The parts of a host name, without the empty one behind a final dot. -/
def hostParts (cs : List Char) : List (List Char) :=
  let parts := cutAt (· = '.') cs
  if parts.getLast? = some [] then parts.dropLast else parts

/-- A host whose last part is a number has to be an IPv4 address. -/
def endsInNumber (cs : List Char) : Bool :=
  match (hostParts cs).getLast? with
  | none => false
  | some last => (!last.isEmpty && last.all Char.isDigit) || (ipv4Part? last).isSome

/-- The 32 bits of an IPv4 address. -/
def ipv4? (cs : List Char) : Option Nat := do
  let parts := hostParts cs
  if parts.length > 4 then none
  else
    let numbers ← parts.mapM ipv4Part?
    let last ← numbers.getLast?
    let front := numbers.dropLast
    if front.any (· > 255) || last ≥ 1 <<< (8 * (4 - front.length)) then none
    else
      let high := front.foldl (fun acc n => acc * 256 + n) 0
      some (high <<< (8 * (4 - front.length)) + last)

/-- An IPv4 address in its dotted form. -/
def ipv4Text (n : Nat) : List Char :=
  ['.'].intercalate ([n / 0x1000000 % 256, n / 0x10000 % 256, n / 0x100 % 256, n % 256].map
    (Nat.toDigits 10))

/-! ### IPv6 -/

/-- Up to four hexadecimal digits: their value, how many there are, and the rest. -/
def hexRun : (limit count acc : Nat) → List Char → Nat × Nat × List Char
  | 0, count, acc, cs => (acc, count, cs)
  | _ + 1, count, acc, [] => (acc, count, [])
  | limit + 1, count, acc, c :: rest =>
    match hexDigit? c with
    | some d => hexRun limit (count + 1) (acc * 16 + d) rest
    | none => (acc, count, c :: rest)

/-- The rest behind a run of digits is no longer than the text. -/
theorem length_hexRun (limit count acc : Nat) (cs : List Char) :
    (hexRun limit count acc cs).2.2.length ≤ cs.length := by
  induction limit generalizing count acc cs with
  | zero => simp [hexRun]
  | succ limit ih =>
    cases cs with
    | nil => simp [hexRun]
    | cons c rest =>
      simp only [hexRun]
      split
      · exact Nat.le_trans (ih ..) (Nat.le_succ _)
      · exact Nat.le_refl _

/-- One part of the IPv4 form at the end of an IPv6 address: at most 255, without leading zeros. -/
def plainOctet? (cs : List Char) : Option Nat :=
  match cs with
  | [] => none
  | '0' :: _ :: _ => none
  | _ => (digits? cs).filter (· ≤ 255)

/-- The two pieces that four octets in dotted form stand for. -/
def dottedPieces? (cs : List Char) : Option (List Nat) :=
  match cutAt (· = '.') cs with
  | [a, b, c, d] => do
    let a ← plainOctet? a
    let b ← plainOctet? b
    let c ← plainOctet? c
    let d ← plainOctet? d
    some [a * 256 + b, c * 256 + d]
  | _ => none

/-- The pieces from here to the end of the text, and the place of the `::` among all pieces, of
which `count` came before. -/
def ipv6Pieces (count : Nat) (gap : Option Nat) : List Char → Option (List Nat × Option Nat)
  | [] => some ([], gap)
  | ':' :: rest =>
    if count ≥ 8 || gap.isSome then none else ipv6Pieces count (some count) rest
  | c :: rest =>
    if count ≥ 8 then none
    else
      let run := hexRun 4 0 0 (c :: rest)
      match hr : run.2.2 with
      | [] => if run.2.1 = 0 then none else some ([run.1], gap)
      | '.' :: _ =>
        if run.2.1 = 0 || count > 6 then none
        else (dottedPieces? (c :: rest)).map fun ps => (ps, gap)
      | ':' :: more =>
        if run.2.1 = 0 || more.isEmpty then none
        else (ipv6Pieces (count + 1) gap more).map fun r => (run.1 :: r.1, r.2)
      | _ => none
termination_by cs => cs.length
decreasing_by
  · exact Nat.lt_succ_self _
  · have h := length_hexRun 4 0 0 (c :: rest)
    have h' : (hexRun 4 0 0 (c :: rest)).2.2.length = more.length + 1 := by
      have := congrArg List.length hr
      simpa [run] using this
    omega

/-- The eight pieces of an IPv6 address. -/
def ipv6? (cs : List Char) : Option (List Nat) := do
  let (pieces, gap) ← match cs with
    | ':' :: ':' :: rest => ipv6Pieces 0 (some 0) rest
    | ':' :: _ => none
    | _ => ipv6Pieces 0 none cs
  match gap with
  | none => if pieces.length = 8 then some pieces else none
  | some place =>
    if pieces.length ≤ 7 then
      some (pieces.take place ++ List.replicate (8 - pieces.length) 0 ++ pieces.drop place)
    else none

/-- The length of the run of zeros at the front. -/
def zeroRun (pieces : List Nat) : Nat := (pieces.takeWhile (· = 0)).length

/-- The first of the longest runs of at least two zero pieces: where it starts and how long it
is. -/
def longestZeros (pieces : List Nat) : Option (Nat × Nat) :=
  let runs := (List.range pieces.length).map fun i => (i, zeroRun (pieces.drop i))
  runs.foldl (fun best r =>
    if r.2 ≥ 2 && r.2 > (best.map (·.2)).getD 0 then some r else best) none

/-- Pieces in hexadecimal, joined by colons. -/
def piecesText (pieces : List Nat) : List Char :=
  [':'].intercalate (pieces.map (Nat.toDigits 16))

/-- An IPv6 address, without brackets. -/
def ipv6Text (pieces : List Nat) : List Char :=
  match longestZeros pieces with
  | none => piecesText pieces
  | some (start, count) =>
    piecesText (pieces.take start) ++ [':', ':'] ++ piecesText (pieces.drop (start + count))

end Reindex.Url
