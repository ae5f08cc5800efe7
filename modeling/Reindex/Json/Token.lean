import Reindex.Text.Utf8
import Reindex.Text.Numeral

/-!
# Tokens of JSON

The first half of reading: octets become brackets, separators, literals, numbers and strings. White
space between tokens is dropped. A string is checked for its form here (no control characters, only
known escapes); whether it stands for a text is noted in the token.
-/

namespace Reindex.Json

open Reindex.Text

inductive Token where
  | leftBrace
  | rightBrace
  | leftBracket
  | rightBracket
  | comma
  | colon
  | null
  | bool (b : Bool)
  | number (spelling : List Char)
  /-- A string; `none` if it stands for no text. -/
  | string (text : Option String)

/-! ### Strings -/

/-- One element of a string as written. -/
inductive Piece where
  | octet (b : UInt8)
  | unit (n : Nat)

/-- The octet that an escape with a letter stands for. -/
def letterEscape? (c : Char) : Option UInt8 :=
  if c = '"' || c = '\\' || c = '/' then some (UInt8.ofNat c.toNat)
  else if c = 'b' then some 0x08
  else if c = 'f' then some 0x0C
  else if c = 'n' then some 0x0A
  else if c = 'r' then some 0x0D
  else if c = 't' then some 0x09
  else none

def asChar (b : UInt8) : Char := Char.ofNat b.toNat

/-- The pieces of a string up to its closing quote, and the octets behind it. -/
def pieces? : List UInt8 → Option (List Piece × List UInt8)
  | [] => none
  | b :: rest =>
    if asChar b = '"' then some ([], rest)
    else if asChar b = '\\' then
      match rest with
      | [] => none
      | e :: more =>
        if asChar e = 'u' then
          match more with
          | h1 :: h2 :: h3 :: h4 :: tail =>
            match hexDigit? (asChar h1), hexDigit? (asChar h2), hexDigit? (asChar h3),
                hexDigit? (asChar h4) with
            | some a, some b, some c, some d =>
              (pieces? tail).map fun r => (.unit (((a * 16 + b) * 16 + c) * 16 + d) :: r.1, r.2)
            | _, _, _, _ => none
          | _ => none
        else
          match letterEscape? (asChar e) with
          | some o => (pieces? more).map fun r => (.octet o :: r.1, r.2)
          | none => none
    else if b.toNat < 0x20 then none
    else (pieces? rest).map fun r => (.octet b :: r.1, r.2)

/-- The octets behind a string are fewer than those from its opening quote on. -/
theorem length_pieces {bytes : List UInt8} {r : List Piece × List UInt8}
    (h : pieces? bytes = some r) : r.2.length < bytes.length := by
  fun_induction pieces? bytes generalizing r <;>
    simp_all only [Option.map_eq_some_iff, List.length_cons, reduceCtorEq, Option.some.injEq]
  all_goals first
    | (subst h; exact Nat.lt_succ_self _)
    | (obtain ⟨s, hs, rfl⟩ := h
       rename_i ih
       have := ih hs
       simp only at *
       omega)

/-- The octets of a string's text; a surrogate that is not half of a pair makes none. -/
def pieceOctets? : List Piece → Option (List UInt8)
  | [] => some []
  | .octet b :: rest => (pieceOctets? rest).map (b :: ·)
  | .unit n :: rest =>
    if 0xD800 ≤ n ∧ n < 0xDC00 then
      match rest with
      | .unit m :: more =>
        if 0xDC00 ≤ m ∧ m < 0xE000 then
          let c := Char.ofNat (0x10000 + (n - 0xD800) * 0x400 + (m - 0xDC00))
          (pieceOctets? more).map (String.utf8EncodeChar c ++ ·)
        else none
      | _ => none
    else if 0xDC00 ≤ n ∧ n < 0xE000 then none
    else (pieceOctets? rest).map (String.utf8EncodeChar (Char.ofNat n) ++ ·)

/-- The text that the pieces of a string stand for. -/
def pieceText? (ps : List Piece) : Option String := (pieceOctets? ps).bind Utf8.decode?

/-! ### Numbers -/

/-- A nonempty run of digits in front, dropped. -/
def dropDigits? (cs : List Char) : Option (List Char) :=
  match cs with
  | c :: rest => if c.isDigit then some (rest.dropWhile Char.isDigit) else none
  | [] => none

/-- The exponent of a number, or nothing. -/
def isExponent (cs : List Char) : Bool :=
  match cs with
  | [] => true
  | e :: rest =>
    (e = 'e' || e = 'E') &&
      (match rest with
        | '+' :: digits | '-' :: digits => dropDigits? digits = some []
        | digits => dropDigits? digits = some [])

/-- The fraction and exponent of a number, or nothing. -/
def isFraction (cs : List Char) : Bool :=
  match cs with
  | '.' :: rest =>
    match dropDigits? rest with
    | some rest => isExponent rest
    | none => false
  | _ => isExponent cs

/-- The spelling of a number: no leading zeros, digits on both sides of a point. -/
def isNumber (cs : List Char) : Bool :=
  let unsigned := match cs with
    | '-' :: rest => rest
    | _ => cs
  match unsigned with
  | '0' :: rest => isFraction rest
  | _ =>
    match dropDigits? unsigned with
    | some rest => isFraction rest
    | none => false

/-- A character that occurs in numbers. -/
def isNumberChar (c : Char) : Bool :=
  c.isDigit || c = '-' || c = '+' || c = '.' || c = 'e' || c = 'E'

/-- The whole number of an unsigned spelling, below a bound. -/
def natBelow? (bound : Nat) (spelling : List Char) : Option Nat :=
  (digits? spelling).filter (· < bound)

/-- The whole number of a spelling, in the signed range of 64 bits. A negative zero is no whole
number. -/
def int64? (spelling : List Char) : Option Int :=
  if spelling = ['-', '0'] then none
  else if spelling.head? = some '+' then none
  else intOfBits? 64 spelling

/-! ### The tokens of a text -/

def isSpace (b : UInt8) : Bool := b == 0x20 || b == 0x0A || b == 0x0D || b == 0x09

/-- The octets behind a word, if they begin with it. -/
def dropWord? (word : List Char) (bytes : List UInt8) : Option (List UInt8) :=
  match word, bytes with
  | [], rest => some rest
  | c :: cs, b :: rest => if asChar b = c then dropWord? cs rest else none
  | _ :: _, [] => none

/-- What is left behind a word is no longer than what there was. -/
theorem length_dropWord {word : List Char} {bytes rest : List UInt8}
    (h : dropWord? word bytes = some rest) : rest.length ≤ bytes.length := by
  induction word generalizing bytes with
  | nil => simp [dropWord?] at h; subst h; exact Nat.le_refl _
  | cons c cs ih =>
    cases bytes with
    | nil => simp [dropWord?] at h
    | cons b more =>
      simp only [dropWord?] at h
      split at h
      · exact Nat.le_succ_of_le (ih h)
      · simp at h

def mark? (c : Char) : Option Token :=
  if c = '\x7b' then some .leftBrace
  else if c = '\x7d' then some .rightBrace
  else if c = '[' then some .leftBracket
  else if c = ']' then some .rightBracket
  else if c = ',' then some .comma
  else if c = ':' then some .colon
  else none

/-- The literals, by their first character: how they go on, and their tokens. -/
def word? (c : Char) : Option (List Char × Token) :=
  if c = 't' then some (['r', 'u', 'e'], .bool true)
  else if c = 'f' then some (['a', 'l', 's', 'e'], .bool false)
  else if c = 'n' then some (['u', 'l', 'l'], .null)
  else none

/-- The number at octet `b`, and the octets behind it. -/
def number? (b : UInt8) (rest : List UInt8) : Option (Token × List UInt8) :=
  let belongs (b : UInt8) : Bool := isNumberChar (asChar b)
  let spelling := asChar b :: (rest.takeWhile belongs).map asChar
  if isNumber spelling then some (.number spelling, rest.dropWhile belongs) else none

/-- The first token and the octets behind it, from octet `b` on, which is no white space. -/
def first? (b : UInt8) (rest : List UInt8) : Option (Token × List UInt8) :=
  match mark? (asChar b) with
  | some t => some (t, rest)
  | none =>
    if asChar b = '"' then (pieces? rest).map fun r => (.string (pieceText? r.1), r.2)
    else
      match word? (asChar b) with
      | some (word, t) => (dropWord? word rest).map fun r => (t, r)
      | none => number? b rest

/-- A token takes at least one octet. -/
theorem length_first {b : UInt8} {rest : List UInt8} {r : Token × List UInt8}
    (h : first? b rest = some r) : r.2.length ≤ rest.length := by
  unfold first? at h
  split at h
  · cases h; exact Nat.le_refl _
  · split at h
    · obtain ⟨s, hs, rfl⟩ := Option.map_eq_some_iff.1 h
      exact Nat.le_of_lt (length_pieces hs)
    · split at h
      · obtain ⟨s, hs, rfl⟩ := Option.map_eq_some_iff.1 h
        exact length_dropWord hs
      · simp only [number?] at h
        split at h
        · cases h; exact (List.dropWhile_sublist _).length_le
        · cases h

def tokens? : List UInt8 → Option (List Token)
  | [] => some []
  | b :: rest =>
    if isSpace b then tokens? rest
    else
      match h : first? b rest with
      | none => none
      | some (t, more) =>
        have : more.length < rest.length + 1 := Nat.lt_succ_of_le (length_first h)
        (tokens? more).map (t :: ·)
termination_by bytes => bytes.length

end Reindex.Json
