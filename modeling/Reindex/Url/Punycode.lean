/-!
# Punycode

A label with characters beyond ASCII, written in ASCII: the ASCII characters in front, then a hyphen
if there are any, then one variable-length number per other character that says how far to advance
a pair (code point, position) until it points at the place where the character belongs.
-/

namespace Reindex.Url.Punycode

/-- How the thresholds of the digits adapt to the size of the last step. -/
def adapt (delta count : Nat) (first : Bool) : Nat :=
  let scaled := if first then delta / 700 else delta / 2
  go (scaled + scaled / count) 0 (scaled + scaled / count)
where
  /-- Divide by 35 until the step is small; the fuel is the step itself. -/
  go (d k : Nat) : Nat → Nat
    | 0 => k + 36 * d / (d + 38)
    | fuel + 1 => if d > 455 then go (d / 35) (k + 36) fuel else k + 36 * d / (d + 38)

/-- The threshold of the digit at distance `k` under the given bias. -/
def threshold (k bias : Nat) : Nat :=
  if k ≤ bias then 1 else if k ≥ bias + 26 then 26 else k - bias

def digitChar (n : Nat) : Char :=
  if n < 26 then Char.ofNat ('a'.toNat + n) else Char.ofNat ('0'.toNat + (n - 26))

def digitValue? (c : Char) : Option Nat :=
  if 'a' ≤ c ∧ c ≤ 'z' then some (c.toNat - 'a'.toNat)
  else if 'A' ≤ c ∧ c ≤ 'Z' then some (c.toNat - 'A'.toNat)
  else if '0' ≤ c ∧ c ≤ '9' then some (c.toNat - '0'.toNat + 26)
  else none

/-- A number as digits, each below or at its threshold; the fuel is the number itself. -/
def numberDigits (bias : Nat) (q k : Nat) : Nat → List Char
  | 0 => [digitChar q]
  | fuel + 1 =>
    let t := threshold k bias
    if q < t then [digitChar q]
    else digitChar (t + (q - t) % (36 - t)) :: numberDigits bias ((q - t) / (36 - t)) (k + 36) fuel

/-- The state of a writer: the step so far, the number of characters placed, the bias. -/
structure Writer where
  /-- The step since the last character placed. -/
  delta : Nat
  placed : Nat
  bias : Nat
  digits : List (List Char)

/-- Walk over the label once, placing every occurrence of code point `m`. -/
def placeAll (basic m : Nat) (w : Writer) : List Char → Writer
  | [] => w
  | c :: rest =>
    let n := c.toNat
    if n < m then placeAll basic m { w with delta := w.delta + 1 } rest
    else if n = m then
      placeAll basic m
        { delta := 0, placed := w.placed + 1,
          bias := adapt w.delta (w.placed + 1) (w.placed == basic),
          digits := numberDigits w.bias w.delta 36 (w.delta + 1) :: w.digits } rest
    else placeAll basic m w rest

/-- Insert into an increasing list without repetition. -/
def insertSorted (n : Nat) : List Nat → List Nat
  | [] => [n]
  | m :: rest => if n < m then n :: m :: rest else if n = m then m :: rest
    else m :: insertSorted n rest

/-- The ASCII form of a label, without the `xn--` in front. -/
def encode (label : List Char) : List Char :=
  let basic := label.filter (·.toNat < 0x80)
  let others := label.foldl
    (fun acc c => if c.toNat < 0x80 then acc else insertSorted c.toNat acc) []
  let start : Writer := ⟨0, basic.length, 72, []⟩
  let last := others.foldl (fun (s : Nat × Writer) m =>
    let w := { s.2 with delta := s.2.delta + (m - s.1) * (s.2.placed + 1) }
    let w := placeAll basic.length m w label
    (m + 1, { w with delta := w.delta + 1 })) (0x80, start)
  basic ++ (if basic.isEmpty then [] else ['-']) ++ last.2.digits.reverse.flatten

/-- Read one number: its value added to `i`, and the rest. -/
def readNumber (bias : Nat) (i w k : Nat) : List Char → Option (Nat × List Char)
  | [] => none
  | c :: rest =>
    match digitValue? c with
    | none => none
    | some d =>
      let i := i + d * w
      if i ≥ UInt32.size then none
      else
        let t := threshold k bias
        if d < t then some (i, rest)
        else if w * (36 - t) ≥ UInt32.size then none
        else readNumber bias i (w * (36 - t)) (k + 36) rest

/-- A number takes at least one digit. -/
theorem length_readNumber {bias i w k : Nat} {cs : List Char} {r : Nat × List Char}
    (h : readNumber bias i w k cs = some r) : r.2.length < cs.length := by
  induction cs generalizing i w k with
  | nil => simp [readNumber] at h
  | cons c rest ih =>
    simp only [readNumber] at h
    split at h
    · simp at h
    · split at h
      · simp at h
      · split at h
        · simp only [Option.some.injEq] at h; subst h; exact Nat.lt_succ_self _
        · split at h
          · simp at h
          · exact Nat.lt_succ_of_lt (ih h)

/-- Put the characters that the digits describe into place. -/
def placeNumbers (bias i n : Nat) (first : Bool) (out : List Char) (digits : List Char) :
    Option (List Char) :=
  match digits with
  | [] => some out
  | c :: rest =>
    match _h : readNumber bias i 1 36 (c :: rest) with
    | none => none
    | some (j, more) =>
      let count := out.length + 1
      let n := n + j / count
      let place := j % count
      if n.isValidChar then
        placeNumbers (adapt (j - i) count first) (place + 1) n false
          (out.take place ++ Char.ofNat n :: out.drop place) more
      else none
termination_by digits.length
decreasing_by exact length_readNumber _h

/-- The label that an ASCII form without its `xn--` stands for. -/
def decode? (cs : List Char) : Option (List Char) :=
  let tail := (cs.reverse.takeWhile (· ≠ '-')).reverse
  let basic := cs.take (cs.length - tail.length - 1)
  let tail := if basic.isEmpty then cs else tail
  if cs.all (·.toNat < 0x80) then placeNumbers 72 0 0x80 true basic tail else none

end Reindex.Url.Punycode
