/-!
# Decimal numerals

Whole numbers as people write them in settings: ASCII digits, an optional `+`, and an optional `-`
where negative numbers make sense. There are no blanks, separators or other bases, and a number
beyond the bound is refused.
-/

namespace Reindex.Text

def digit? (c : Char) : Option Nat :=
  if '0' ≤ c ∧ c ≤ '9' then some (c.toNat - '0'.toNat) else none

/-- The value of a run of decimal digits read after `acc`; every character must be a digit. -/
def digitsValue (acc : Nat) : List Char → Option Nat
  | [] => some acc
  | c :: rest =>
    match digit? c with
    | some d => digitsValue (acc * 10 + d) rest
    | none => none

/-- The value of a nonempty run of decimal digits. -/
def digits? : List Char → Option Nat
  | [] => none
  | cs => digitsValue 0 cs

/-- A number below `bound`, with an optional `+`. -/
def natBelow? (bound : Nat) (cs : List Char) : Option Nat :=
  let value := match cs with
    | '+' :: rest => digits? rest
    | _ => digits? cs
  value.filter (· < bound)

/-- A number in the signed range of `bits` bits, with an optional sign. -/
def intOfBits? (bits : Nat) (cs : List Char) : Option Int :=
  let half := Int.ofNat (1 <<< (bits - 1))
  let value : Option Int := match cs with
    | '+' :: rest => (digits? rest).map Int.ofNat
    | '-' :: rest => (digits? rest).map fun n => -Int.ofNat n
    | _ => (digits? cs).map Int.ofNat
  value.filter fun n => -half ≤ n ∧ n < half

def uint16? (s : String) : Option UInt16 := (natBelow? UInt16.size s.toList).map UInt16.ofNat

def uint32? (s : String) : Option UInt32 := (natBelow? UInt32.size s.toList).map UInt32.ofNat

def uint64? (s : String) : Option UInt64 := (natBelow? UInt64.size s.toList).map UInt64.ofNat

def int64? (s : String) : Option Int := intOfBits? 64 s.toList

/-- The decimal digits of a number, padded with zeros to at least `width`. -/
def padded (width n : Nat) : String :=
  let digits := Nat.toDigits 10 n
  String.ofList (List.replicate (width - digits.length) '0' ++ digits)

/-- The value of a hexadecimal digit. -/
def hexDigit? (c : Char) : Option Nat :=
  if '0' ≤ c ∧ c ≤ '9' then some (c.toNat - '0'.toNat)
  else if 'a' ≤ c ∧ c ≤ 'f' then some (c.toNat - 'a'.toNat + 10)
  else if 'A' ≤ c ∧ c ≤ 'F' then some (c.toNat - 'A'.toNat + 10)
  else none

/-- The character of a hexadecimal digit, in capitals. -/
def upperHex (n : Nat) : Char :=
  if n < 10 then Char.ofNat ('0'.toNat + n) else Char.ofNat ('A'.toNat + (n - 10))

end Reindex.Text
