/-!
# YAML documents

A document is a tree of scalars, sequences and mappings. A node may be anchored, and an alias stands
for the node that carries its number, the last one if there are several.
-/

namespace Reindex.Yaml

inductive Node where
  /-- A scalar: its text, whether it is plain, and its tag. -/
  | scalar (text : String) (plain : Bool) (tag : Option String)
  | sequence (items : List Node)
  /-- A mapping, in the order of its entries. -/
  | mapping (entries : List (Node × Node))
  | anchored (number : Nat) (node : Node)
  | alias (number : Nat)

namespace Node

/-- The empty plain scalar, which stands where nothing is written. -/
def empty : Node := .scalar "" true none

mutual

/-- The last node anchored under a number. -/
def find? (n : Nat) : Node → Option Node
  | .scalar .. => none
  | .sequence items => findInItems? n items
  | .mapping entries => findInEntries? n entries
  | .anchored m node => (find? n node).or (if m = n then some node else none)
  | .alias _ => none

/-- The last node anchored under a number, in one of the nodes. -/
def findInItems? (n : Nat) : List Node → Option Node
  | [] => none
  | x :: rest => (findInItems? n rest).or (find? n x)

/-- The last node anchored under a number, in one of the entries. -/
def findInEntries? (n : Nat) : List (Node × Node) → Option Node
  | [] => none
  | (k, v) :: rest => (findInEntries? n rest).or ((find? n v).or (find? n k))

end

/-- The node itself: without its anchor, and what an alias stands for. -/
def resolve (node root : Node) : Node :=
  match node with
  | .anchored _ inner => inner
  | .alias n => (find? n root).getD .empty
  | _ => node

end Node

/-- The contents of a text: nothing at all, or one document. -/
inductive Document where
  | nothing
  | root (node : Node)

end Reindex.Yaml
