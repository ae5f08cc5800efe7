import Reindex.Text.Numeral

/-!
# Seconds with two decimals

A span of time as seconds in a binary number of double precision, written with two decimals. Every
step rounds to the nearest number there is, and a tie goes to the even one: first the part of a
second, then the sum with the whole seconds, then the decimals.
-/

namespace Reindex.Text

/-- A quotient rounded to the nearest whole number; a tie goes to the even one. -/
def roundDiv (num den : Nat) : Nat :=
  let q := num / den
  let twice := 2 * (num % den)
  if twice < den then q else if den < twice then q + 1 else q + q % 2

/-- A number of the form `mantissa * 2 ^ exponent`. -/
structure Binary where
  mantissa : Nat
  exponent : Int
  deriving DecidableEq, Repr

namespace Binary

/-- The number of binary digits of a mantissa. -/
def precision : Nat := 53

/-- A quotient in double precision. The exponent is chosen such that the mantissa has the right
number of digits, which takes one more try if the first digit of the quotient is a zero. -/
def ofQuotient (num den : Nat) : Binary :=
  if num = 0 then ⟨0, 0⟩
  else
    let scaled (e : Int) : Nat × Nat :=
      if e < 0 then (num <<< (-e).toNat, den) else (num, den <<< e.toNat)
    let guess : Int := (Nat.log2 num : Int) - Nat.log2 den - (precision - 1)
    let (n, d) := scaled guess
    let e := if n / d < 1 <<< (precision - 1) then guess - 1 else guess
    let (n, d) := scaled e
    ⟨roundDiv n d, e⟩

def add (a b : Binary) : Binary :=
  let e := min a.exponent b.exponent
  let sum := a.mantissa <<< (a.exponent - e).toNat + b.mantissa <<< (b.exponent - e).toNat
  if e < 0 then ofQuotient sum (1 <<< (-e).toNat) else ofQuotient (sum <<< e.toNat) 1

/-- The number of hundredths, rounded. -/
def hundredths (a : Binary) : Nat :=
  if a.exponent < 0 then roundDiv (a.mantissa * 100) (1 <<< (-a.exponent).toNat)
  else (a.mantissa * 100) <<< a.exponent.toNat

end Binary

/-- A span of nanoseconds as seconds with two decimals. -/
def secondsText (nanos : Nat) : String :=
  let seconds := Binary.ofQuotient (nanos / 1000000000) 1
  let part := Binary.ofQuotient (nanos % 1000000000) 1000000000
  let h := (seconds.add part).hundredths
  toString (h / 100) ++ "." ++ padded 2 (h % 100)

end Reindex.Text
