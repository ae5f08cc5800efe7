import Reindex.Text.Printable

/-!
# Quoted texts

A text or a character inside quotes, unambiguous on one line of output: the quote and the backslash
are escaped, the usual controls have their letters, and whatever does not show as itself is written
by its code point.
-/

namespace Reindex.Text

/-- A number in hexadecimal, in small letters and without leading zeros. -/
def lowerHex (n : Nat) : List Char := Nat.toDigits 16 n

/-- A character by its code point. -/
def codePoint (c : Char) : List Char := ['\\', 'u', '\x7b'] ++ lowerHex c.toNat ++ ['\x7d']

/-- One character inside quotes of kind `quote`. -/
def quotedChar (quote c : Char) : List Char :=
  if c = '\x00' then ['\\', '0']
  else if c = '\t' then ['\\', 't']
  else if c = '\r' then ['\\', 'r']
  else if c = '\n' then ['\\', 'n']
  else if c = '\\' || c = quote then ['\\', c]
  else if isExtending c || !isPrintable c then codePoint c
  else [c]

def quoted (s : String) : String :=
  String.ofList (['"'] ++ s.toList.flatMap (quotedChar '"') ++ ['"'])

def quotedSingle (c : Char) : String :=
  String.ofList (['\''] ++ quotedChar '\'' c ++ ['\''])

/-- An optional text, as `Some(…)` or `None`. -/
def quotedOption (s : Option String) : String :=
  match s with
  | some s => "Some(" ++ quoted s ++ ")"
  | none => "None"

end Reindex.Text
