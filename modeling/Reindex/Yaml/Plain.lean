import Reindex.Text.Numeral
import Reindex.Yaml.Node
import Reindex.Yaml.Token

/-!
# Plain scalars

What a scalar without quotes stands for: nothing, a truth value, a whole number, or a number with a
fraction or an exponent. A text that stands for one of them needs quotes to be read as a text.
-/

namespace Reindex.Yaml

open Reindex.Text

def isNull (cs : List Char) : Bool :=
  ["null", "Null", "NULL", "~"].any (·.toList = cs)

/-- The spellings of truth values. -/
def bool? (cs : List Char) : Option Bool :=
  if ["true", "True", "TRUE"].any (·.toList = cs) then some true
  else if ["false", "False", "FALSE"].any (·.toList = cs) then some false
  else none

/-! ### Whole numbers -/

/-- The value of a nonempty run of digits in a base up to 16. -/
def digitsIn? (base : Nat) (cs : List Char) : Option Nat :=
  if cs.isEmpty then none
  else cs.foldlM (fun acc c => ((hexDigit? c).filter (· < base)).map (acc * base + ·)) 0

/-- A zero that is followed by further digits, behind an optional sign: no number at all. -/
def isZeroPadded (cs : List Char) : Bool :=
  let digits := match cs with
    | '+' :: rest | '-' :: rest => rest
    | _ => cs
  match digits with
  | '0' :: d :: rest => (d :: rest).all fun c => (digit? c).isSome
  | _ => false

/-- The value of digits behind a mark for their base, or of decimal digits. -/
def magnitude? (cs : List Char) : Option Nat :=
  match cs with
  | '0' :: 'x' :: rest => digitsIn? 16 rest
  | '0' :: 'o' :: rest => digitsIn? 8 rest
  | '0' :: 'b' :: rest => digitsIn? 2 rest
  | _ => if isZeroPadded cs then none else digitsIn? 10 cs

def nat? (cs : List Char) : Option Nat :=
  match cs with
  | '+' :: rest => magnitude? rest
  | _ => magnitude? cs

/-- A whole number of at most 128 bits, with its sign. -/
def isInteger (cs : List Char) : Bool :=
  match cs with
  | '-' :: rest => (magnitude? rest).any (· ≤ 1 <<< 127)
  | _ => (nat? cs).any (· < 1 <<< 128)

/-! ### Fractions and exponents -/

/-- A decimal number: the digits before and behind the point and the exponent. -/
structure Decimal where
  digits : List Char
  /-- The power of ten that they are to be multiplied by. -/
  exponent : Int

/-- The digits in front, and what is behind them. -/
def spanDigits (cs : List Char) : List Char × List Char :=
  (cs.takeWhile fun c => (digit? c).isSome, cs.dropWhile fun c => (digit? c).isSome)

def exponent? (cs : List Char) : Option Int :=
  match cs with
  | '+' :: rest => (digits? rest).map Int.ofNat
  | '-' :: rest => (digits? rest).map fun n => -Int.ofNat n
  | _ => (digits? cs).map Int.ofNat

/-- A decimal number without a sign. -/
def decimal? (cs : List Char) : Option Decimal :=
  let (whole, rest) := spanDigits cs
  let (fraction, rest) := match rest with
    | '.' :: rest => spanDigits rest
    | _ => ([], rest)
  if whole.isEmpty && fraction.isEmpty then none
  else
    let digits := whole ++ fraction
    let scale : Int := -fraction.length
    match rest with
    | [] => some ⟨digits, scale⟩
    | e :: rest =>
      if e = 'e' || e = 'E' then (exponent? rest).map fun n => ⟨digits, scale + n⟩ else none

/-- The number is small enough to be rounded to a binary number of double precision: it lies below
the middle between the greatest such number and the next power of two. -/
def Decimal.isFinite (d : Decimal) : Bool :=
  let digits := d.digits.dropWhile (· = '0')
  let limit : Nat := 1 <<< 1024 - 1 <<< 970
  let length : Int := digits.length + d.exponent
  if digits.isEmpty || length < 309 then true
  else if 309 < length then false
  else
    let value := (digits? digits).getD 0
    if d.exponent < 0 then value < limit * Nat.pow 10 (-d.exponent).toNat
    else value * Nat.pow 10 d.exponent.toNat < limit

/-- The number behind an optional sign is finite. -/
def isFiniteDecimal (cs : List Char) : Bool :=
  let digits := match cs with
    | '+' :: rest | '-' :: rest => rest
    | _ => cs
  (decimal? digits).any Decimal.isFinite

/-- The spellings of the infinities and of what is no number. -/
def isSpecialFloat (cs : List Char) : Bool :=
  ([".inf", ".Inf", ".INF", "+.inf", "+.Inf", "+.INF", "-.inf", "-.Inf", "-.INF",
    ".nan", ".NaN", ".NAN"] : List String).any (·.toList = cs)

/-- Written plain, the text would not be read as a text, or not by everyone. -/
def looksTyped (cs : List Char) : Bool :=
  cs.isEmpty || isNull cs || (bool? cs).isSome || isInteger cs || isZeroPadded cs ||
    isSpecialFloat cs || isFiniteDecimal cs

end Reindex.Yaml
