/-!
# UTF-8

Texts as octets and back. Writing gives the one form every character has. Reading goes one
character at a time: `next` takes either a whole character or the longest run of octets that could
still have begun one, so that a lenient reader replaces each such run by one U+FFFD and a strict
reader refuses at the first of them.
-/

namespace Reindex.Text.Utf8

def encodeList (cs : List Char) : List UInt8 := cs.flatMap String.utf8EncodeChar

def encode (s : String) : List UInt8 := encodeList s.toList

/-- What a first octet announces: how many more follow, the range the next of them must lie in,
and the bits it contributes itself. -/
structure Lead where
  count : Nat
  /-- The least value of the first of them. -/
  low : Nat
  /-- The greatest value of the first of them. -/
  high : Nat
  /-- The bits the first octet contributes. -/
  bits : Nat

/-- The first octets that can begin a character. -/
def lead? (b : Nat) : Option Lead :=
  if b < 0x80 then some ⟨0, 0x80, 0xBF, b⟩
  else if 0xC2 ≤ b ∧ b ≤ 0xDF then some ⟨1, 0x80, 0xBF, b - 0xC0⟩
  else if b = 0xE0 then some ⟨2, 0xA0, 0xBF, 0⟩
  else if b = 0xED then some ⟨2, 0x80, 0x9F, 0xD⟩
  else if 0xE1 ≤ b ∧ b ≤ 0xEF then some ⟨2, 0x80, 0xBF, b - 0xE0⟩
  else if b = 0xF0 then some ⟨3, 0x90, 0xBF, 0⟩
  else if 0xF1 ≤ b ∧ b ≤ 0xF3 then some ⟨3, 0x80, 0xBF, b - 0xF0⟩
  else if b = 0xF4 then some ⟨3, 0x80, 0x8F, 4⟩
  else none

/-- Read `count` further octets, the first of them between `low` and `high`. The bits are there
if all of them were; the rest begins at the first octet that does not belong. -/
def tails : (count low high bits : Nat) → List UInt8 → Option Nat × List UInt8
  | 0, _, _, bits, rest => (some bits, rest)
  | _ + 1, _, _, _, [] => (none, [])
  | count + 1, low, high, bits, b :: rest =>
    if low ≤ b.toNat ∧ b.toNat ≤ high then
      tails count 0x80 0xBF (bits * 64 + (b.toNat - 0x80)) rest
    else (none, b :: rest)

/-- What is left after `tails` is no longer than what it was given. -/
theorem length_tails (count low high bits : Nat) (bytes : List UInt8) :
    (tails count low high bits bytes).2.length ≤ bytes.length := by
  induction count generalizing low high bits bytes with
  | zero => simp [tails]
  | succ count ih =>
    cases bytes with
    | nil => simp [tails]
    | cons b rest =>
      rw [tails]
      split
      · exact Nat.le_trans (ih ..) (Nat.le_succ _)
      · exact Nat.le_refl _

/-- The character that begins with octet `b`, or `none` for a run that begins none, and the octets
behind it. -/
def next (b : UInt8) (rest : List UInt8) : Option Char × List UInt8 :=
  match lead? b.toNat with
  | none => (none, rest)
  | some l =>
    let read := tails l.count l.low l.high l.bits rest
    (read.1.map Char.ofNat, read.2)

/-- `next` takes at least the first octet. -/
theorem length_next (b : UInt8) (rest : List UInt8) : (next b rest).2.length ≤ rest.length := by
  unfold next
  split
  · exact Nat.le_refl _
  · exact length_tails ..

/-- The characters of an octet sequence, `none` for each run that is part of no character. -/
def scan : List UInt8 → List (Option Char)
  | [] => []
  | b :: rest => (next b rest).1 :: scan (next b rest).2
termination_by bytes => bytes.length
decreasing_by exact Nat.lt_succ_of_le (length_next b rest)

/-- The text of an octet sequence, if it is well formed. -/
def decodeList? (bytes : List UInt8) : Option (List Char) := (scan bytes).mapM id

/-- The text of an octet sequence, if it is well formed. -/
def decode? (bytes : List UInt8) : Option String := (decodeList? bytes).map String.ofList

/-- The text of an octet sequence, with U+FFFD for each run that is part of no character. -/
def decodeLossy (bytes : List UInt8) : String :=
  String.ofList ((scan bytes).map fun c => c.getD '\uFFFD')

/-- The number of octets of a text. -/
def length (s : String) : Nat := s.utf8ByteSize

end Reindex.Text.Utf8
