import Reindex.Text.Numeral
import Reindex.Yaml.Value

/-!
# Writing YAML

Records are written a field a line, inner records two columns further in, lists under their key and
in its column. Long texts are not folded.
-/

namespace Reindex.Yaml

open Reindex.Text

def spaces (n : Nat) : List Char := List.replicate n ' '

/-- A number in capital hexadecimal digits, exactly as many as asked for. -/
def hexOfWidth (width n : Nat) : List Char :=
  (List.range width).reverse.map fun i => upperHex (n >>> (4 * i) % 16)

/-- One character inside double quotes. -/
def escaped (c : Char) : List Char :=
  if c = '"' || c = '\\' then ['\\', c]
  else if isPrintable c && !isBreak c then [c]
  else '\\' :: match c.toNat with
    | 0x00 => ['0']
    | 0x07 => ['a']
    | 0x08 => ['b']
    | 0x09 => ['t']
    | 0x0A => ['n']
    | 0x0B => ['v']
    | 0x0C => ['f']
    | 0x0D => ['r']
    | 0x1B => ['e']
    | 0x85 => ['N']
    | 0x2028 => ['L']
    | 0x2029 => ['P']
    | n =>
      if n ≤ 0xFF then 'x' :: hexOfWidth 2 n
      else if n ≤ 0xFFFF then 'u' :: hexOfWidth 4 n
      else 'U' :: hexOfWidth 8 n

/-- The inside of single quotes; what follows a line break is indented. -/
def singleBody (indent : Nat) (afterBreak : Bool) : List Char → List Char
  | [] => if afterBreak then spaces indent else []
  | c :: rest =>
    if isBreak c then c :: singleBody indent true rest
    else
      (if afterBreak then spaces indent else []) ++ (if c = '\'' then ['\'', '\''] else [c]) ++
        singleBody indent false rest

/-- The lines of a text, each indented unless it is empty. -/
def literalBody (indent : Nat) (afterBreak : Bool) : List Char → List Char
  | [] => []
  | c :: rest =>
    if isBreak c then c :: literalBody indent true rest
    else (if afterBreak then spaces indent else []) ++ c :: literalBody indent false rest

/-- What is behind the bar: an indentation where the first line would hide it, and what becomes of
the line breaks at the end. -/
def literalHints (cs : List Char) : List Char :=
  (if cs.head?.any isSpaceOrBreak then ['2'] else []) ++
    match cs.reverse with
    | [] => ['-']
    | last :: before =>
      if !isBreak last then ['-']
      else match before with
        | [] => ['+']
        | c :: _ => if isBreak c then ['+'] else []

/-- A text behind a key or a hyphen, with the end of its line; further lines begin in column
`indent`. -/
def writeText (indent : Nat) (cs : List Char) : List Char :=
  match styleOf cs with
  | .plain => cs ++ ['\n']
  | .single => '\'' :: singleBody indent false cs ++ ['\'', '\n']
  | .double => '"' :: cs.flatMap escaped ++ ['"', '\n']
  | .literal =>
    '|' :: literalHints cs ++ '\n' :: literalBody indent true cs ++
      (if cs.getLast?.any isBreak then [] else ['\n'])

/-- A scalar behind a key or a hyphen, with the end of its line. -/
def writeScalar (indent : Nat) : Scalar → List Char
  | .null => "null\n".toList
  | .bool b => (if b then "true\n" else "false\n").toList
  | .number n => Nat.toDigits 10 n ++ ['\n']
  | .text s => writeText indent s.toList

mutual

/-- A value behind its key in column `column`. -/
def writeValue (column : Nat) : Value → List Char
  | .scalar s => ' ' :: writeScalar (column + 2) s
  | .texts [] => " []\n".toList
  | .texts items =>
    '\n' :: items.flatMap fun s => spaces column ++ '-' :: ' ' :: writeText (column + 2) s.toList
  | .record [] => " \x7b\x7d\n".toList
  | .record fields => '\n' :: writeFields (column + 2) fields

def writeFields (column : Nat) : List (String × Value) → List Char
  | [] => []
  | (key, v) :: rest =>
    spaces column ++ key.toList ++ ':' :: writeValue column v ++ writeFields column rest

end

def write (fields : List (String × Value)) : String := String.ofList (writeFields 0 fields)

end Reindex.Yaml
