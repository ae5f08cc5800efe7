import Reindex.Yaml.Plain

/-!
# Values to be written as YAML

What settings are made of when they are written: records of named values, lists of texts, and
scalars. `Value.node` is the node that a reader should find in the written text.
-/

namespace Reindex.Yaml

inductive Scalar where
  | null
  | bool (b : Bool)
  | number (n : Nat)
  | text (s : String)
  deriving DecidableEq, Repr

inductive Value where
  | scalar (s : Scalar)
  | texts (items : List String)
  | record (fields : List (String × Value))

def Value.optional (s : Option String) : Value :=
  .scalar (match s with
    | some s => .text s
    | none => .null)

def Value.text (s : String) : Value := .scalar (.text s)

def Value.number (n : Nat) : Value := .scalar (.number n)

def Value.bool (b : Bool) : Value := .scalar (.bool b)

/-! ### How a text is written -/

inductive Style where
  | plain
  | single
  | double
  | literal
  deriving DecidableEq, Repr

/-- Stands for itself in every style. -/
def isPrintable (c : Char) : Bool :=
  let n := c.toNat
  n = 0x0A || (0x20 ≤ n && n ≤ 0x7E) || (0xA0 ≤ n && n ≠ 0xFEFF && n ≠ 0xFFFE && n ≠ 0xFFFF)

/-- A blank or a line break, or nothing at all. -/
def isGap (c : Option Char) : Bool :=
  match c with
  | some c => c = ' ' || c = '\t' || isBreak c || c = '\r' || c = '\x85' || c = '\x00'
  | none => true

/-- Begins something other than a plain text when it stands first. -/
def isLeadingIndicator (c : Char) (next : Option Char) : Bool :=
  "#,[]{}&*!|>'\"%@\x60".toList.contains c || (['?', ':', '-'].contains c && isGap next)

/-- Somewhere inside, a colon before a gap or a number sign behind one. -/
def hasInnerIndicator : List Char → Bool
  | a :: b :: rest =>
    (b = ':' && isGap rest.head?) || (b = '#' && isGap (some a)) || hasInnerIndicator (b :: rest)
  | _ => false

/-- A character for which `p` holds is followed at once by one for which `q` holds. -/
def hasPair (p q : Char → Bool) : List Char → Bool
  | a :: b :: rest => (p a && q b) || hasPair p q (b :: rest)
  | _ => false

/-- A space is followed by a line break. -/
def hasSpaceBreak (cs : List Char) : Bool := hasPair (· = ' ') isBreak cs

/-- A line break is followed by a space. -/
def hasBreakSpace (cs : List Char) : Bool := hasPair isBreak (· = ' ') cs

/-- Could be taken for the start of a collection, a comment, a document or the like. -/
def hasIndicator (cs : List Char) : Bool :=
  ['-', '-', '-'].isPrefixOf cs || ['.', '.', '.'].isPrefixOf cs ||
    (match cs with
      | c :: rest => isLeadingIndicator c rest.head?
      | [] => false) ||
    hasInnerIndicator cs

/-- Some character needs an escape, or lines would lose spaces at their ends. -/
def needsEscapes (cs : List Char) : Bool := cs.any (!isPrintable ·) || hasSpaceBreak cs

def isSpaceOrBreak (c : Char) : Bool := c = ' ' || isBreak c

/-- A text that can stand without quotes. -/
def canBePlain (cs : List Char) : Bool :=
  !needsEscapes cs && !hasIndicator cs && !cs.any isBreak &&
    !(cs.head?.any isSpaceOrBreak) && !(cs.getLast?.any isSpaceOrBreak)

/-- A text that can stand in single quotes. -/
def canBeSingle (cs : List Char) : Bool := !needsEscapes cs && !hasBreakSpace cs

/-- A text that can be written line by line. -/
def canBeLiteral (cs : List Char) : Bool :=
  !needsEscapes cs && !(cs.getLast? = some ' ') && !cs.isEmpty

/-- How a text is written: by lines if it has several, quoted if it would be read as something
else, and plain otherwise; double quotes where the wanted style cannot hold it. -/
def styleOf (cs : List Char) : Style :=
  if cs.contains '\n' then
    if canBeLiteral cs then .literal else .double
  else if canBePlain cs && !looksTyped cs then .plain
  else if canBeSingle cs then .single
  else .double

/-! ### What a reader finds -/

def Scalar.node : Scalar → Node
  | .null => .scalar "null" true none
  | .bool b => .scalar (if b then "true" else "false") true none
  | .number n => .scalar (toString n) true none
  | .text s => .scalar s (styleOf s.toList = .plain) none

mutual

def Value.node : Value → Node
  | .scalar s => s.node
  | .texts items => .sequence (items.map fun s => (Scalar.text s).node)
  | .record fields => .mapping (nodes fields)

def nodes : List (String × Value) → List (Node × Node)
  | [] => []
  | (key, v) :: rest => ((Scalar.text key).node, v.node) :: nodes rest

end

end Reindex.Yaml
