/-!
# Tokens of YAML

What the scanner makes of a text: indicators, the properties and contents of nodes, and the starts
and ends of blocks that indentation implies.
-/

namespace Reindex.Yaml

inductive Token where
  | versionDirective (major minor : Nat)
  /-- A handle for tags and what it stands for. -/
  | tagDirective (handle meaning : List Char)
  | documentStart
  | documentEnd
  /-- The first entry of a block sequence follows. -/
  | blockSequenceStart
  /-- The first key of a block mapping follows. -/
  | blockMappingStart
  | blockEnd
  | flowSequenceStart
  | flowSequenceEnd
  | flowMappingStart
  | flowMappingEnd
  /-- A hyphen before an entry of a block sequence. -/
  | blockEntry
  /-- A comma between entries of a flow collection. -/
  | flowEntry
  | key
  | value
  | alias (name : List Char)
  | anchor (name : List Char)
  /-- The tag of the node that follows, as handle and rest. -/
  | tag (handle rest : List Char)
  /-- A scalar, and whether it is plain. -/
  | scalar (text : List Char) (plain : Bool)
  deriving DecidableEq, Repr

/-! ### Character classes -/

/-- A line break, after line ends have been made alike. -/
def isBreak (c : Char) : Bool := c = '\n' || c = '\u2028' || c = '\u2029'

def isBlank (c : Char) : Bool := c = ' ' || c = '\t'

/-- The text ends, or a blank or a line break follows. -/
def atBlank (cs : List Char) : Bool :=
  match cs with
  | [] => true
  | c :: _ => isBlank c || isBreak c

/-- A character of names: letters, digits, underscore and hyphen. -/
def isNameChar (c : Char) : Bool := c.isAlphanum || c = '_' || c = '-'

/-- The characters a text may hold. -/
def isAllowed (c : Char) : Bool :=
  let n := c.toNat
  n == 0x09 || n == 0x0A || n == 0x0D || (0x20 ≤ n && n ≤ 0x7E) || n == 0x85 ||
    (0xA0 ≤ n && n ≤ 0xD7FF) || (0xE000 ≤ n && n ≤ 0xFFFD) || 0x10000 ≤ n

/-- Make line ends alike: a carriage return with or without a line feed, and the next-line
character, become a line feed. -/
def normalLines : List Char → List Char
  | '\r' :: '\n' :: rest => '\n' :: normalLines rest
  | '\r' :: rest => '\n' :: normalLines rest
  | '\u0085' :: rest => '\n' :: normalLines rest
  | c :: rest => c :: normalLines rest
  | [] => []

/-- A document marker made of `c` stands here. -/
def atMarker (c : Char) (cs : List Char) : Bool :=
  match cs with
  | a :: b :: d :: rest => a = c && b = c && d = c && atBlank rest
  | _ => false

/-- Either document marker stands here. -/
def atAnyMarker (cs : List Char) : Bool := atMarker '-' cs || atMarker '.' cs

end Reindex.Yaml
