import Reindex.Yaml.Plain
import Reindex.Yaml.Node

/-!
# Settings from YAML

Reading the nodes of a document as texts, numbers, truth values, lists and records. Which scalars
are acceptable depends on what is asked for: as a text every scalar is, as a number or a truth value
only a plain one.
-/

namespace Reindex.Yaml

/-- A reader of nodes, given the root that aliases refer to. -/
abbrev Decoder (α : Type) := Node → Node → Option α

namespace Decoder

def text : Decoder String := fun root n =>
  match n.resolve root with
  | .scalar s _ _ => some s
  | _ => none

/-- A plain scalar, as `parse` reads it. -/
def plain {α : Type} (parse : List Char → Option α) : Decoder α := fun root n =>
  match n.resolve root with
  | .scalar s true _ => parse s.toList
  | _ => none

def natBelow (bound : Nat) : Decoder Nat := plain fun cs => (nat? cs).filter (· < bound)

def bool : Decoder Bool := plain bool?

/-- The tag of values that are none. -/
def nullTag : String := "tag:yaml.org,2002:null"

/-- A text, or nothing: an empty or null plain scalar, or one that is tagged as null. -/
def optionalText : Decoder (Option String) := fun root n =>
  match n.resolve root with
  | .scalar s true (some tag) =>
    if tag = nullTag then (if isNull s.toList then some none else none) else some (some s)
  | .scalar s true none => if s.isEmpty || isNull s.toList then some none else some (some s)
  | .scalar s false _ => some (some s)
  | _ => none

/-- A list, which may be left empty. -/
def list {α : Type} (item : Decoder α) : Decoder (List α) := fun root n =>
  match n.resolve root with
  | .sequence items => items.mapM (item root)
  | .scalar "" true _ => some []
  | _ => none

/-- The value of the only entry with this key; `none` if there are several. -/
def lookup (key : String) (entries : List (String × Node)) : Option (Option Node) :=
  match entries.filter (·.1 == key) with
  | [] => some none
  | [e] => some (some e.2)
  | _ => none

/-- The values of a record's fields, each present or not. Other entries do not matter, but every
key must be a scalar. A record may be left empty. -/
def fields (names : List String) : Decoder (List (Option Node)) := fun root n =>
  match n.resolve root with
  | .mapping entries => do
    let entries ← entries.mapM fun (k, v) => (text root k).map (·, v)
    names.mapM (lookup · entries)
  | .scalar "" true _ => some (names.map fun _ => none)
  | _ => none

/-- A field that has a value of its own if it is absent. -/
def orElse {α : Type} (default : α) (d : Decoder α) (root : Node) : Option Node → Option α
  | some n => d root n
  | none => some default

end Decoder

/-- The value of a document. A text without a document is read like an empty scalar. -/
def Document.decode? {α : Type} (d : Decoder α) : Document → Option α
  | .nothing => d .empty .empty
  | .root n => d n n

end Reindex.Yaml
