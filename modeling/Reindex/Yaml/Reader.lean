import Reindex.Yaml.Node
import Reindex.Yaml.Scanner

/-!
# Reading YAML

From tokens to a document. Block and flow collections may be nested to a fixed depth. The anchors of
a document are numbered as they come, and an alias is given the number that its name has where it
stands.
-/

namespace Reindex.Yaml

/-! ### Nodes by name -/

/-- A node whose anchors and aliases still have names. -/
inductive Named where
  | scalar (text : String) (plain : Bool) (tag : Option String)
  | sequence (items : List Named)
  | mapping (entries : List (Named × Named))
  | anchored (name : String) (node : Named)
  | alias (name : String)

/-- The names seen so far with their numbers, the latest first. -/
abbrev Names := List (String × Nat)

/-- The number of the next anchor: how many names there are so far. A name that is used again still
counts once, so two nodes may come to have the same number. -/
def Names.next (names : Names) : Nat := (names.map (·.1)).eraseDups.length

mutual

/-- Replace names by numbers, in the order of the text; none if an alias comes before its
anchor. -/
def Named.number? (names : Names) : Named → Option (Node × Names)
  | .scalar text plain tag => some (.scalar text plain tag, names)
  | .sequence items => (numberItems? names items).map fun r => (.sequence r.1, r.2)
  | .mapping entries => (numberEntries? names entries).map fun r => (.mapping r.1, r.2)
  | .anchored name node =>
    let n := names.next
    (Named.number? ((name, n) :: names) node).map fun r => (.anchored n r.1, r.2)
  | .alias name => (names.lookup name).map fun n => (.alias n, names)

/-- Replace names by numbers in the items of a sequence. -/
def numberItems? (names : Names) : List Named → Option (List Node × Names)
  | [] => some ([], names)
  | x :: rest =>
    match Named.number? names x with
    | some (n, names) => (numberItems? names rest).map fun r => (n :: r.1, r.2)
    | none => none

/-- Replace names by numbers in the entries of a mapping. -/
def numberEntries? (names : Names) : List (Named × Named) → Option (List (Node × Node) × Names)
  | [] => some ([], names)
  | (k, v) :: rest =>
    match Named.number? names k with
    | some (kn, names) =>
      match Named.number? names v with
      | some (vn, names) => (numberEntries? names rest).map fun r => ((kn, vn) :: r.1, r.2)
      | none => none
    | none => none

end

/-! ### Properties of a node -/

/-- The tag handles of a document, with what they stand for. -/
abbrev Handles := List (List Char × List Char)

/-- The handles every document has. -/
def defaultHandles : Handles := [(['!'], ['!']), (['!', '!'], "tag:yaml.org,2002:".toList)]

/-- The tag that a handle and its rest stand for; none if the handle is unknown. -/
def resolveTag? (handles : Handles) (handle rest : List Char) : Option String :=
  if handle.isEmpty then some (String.ofList rest)
  else (handles.lookup handle).map fun meaning => String.ofList (meaning ++ rest)

/-- Anchor and tag in front of a node, in either order, and the tokens behind them. -/
def properties? (handles : Handles) (ts : List Token) :
    Option (Option String × Option String × List Token) :=
  match ts with
  | .anchor a :: .tag h r :: rest => do
    return (some (String.ofList a), some (← resolveTag? handles h r), rest)
  | .anchor a :: rest => some (some (String.ofList a), none, rest)
  | .tag h r :: .anchor a :: rest => do
    return (some (String.ofList a), some (← resolveTag? handles h r), rest)
  | .tag h r :: rest => do return (none, some (← resolveTag? handles h r), rest)
  | _ => some (none, none, ts)

def anchoredAs (anchor : Option String) (node : Named) : Named :=
  match anchor with
  | some a => .anchored a node
  | none => node

/-- The empty scalar, which stands where nothing is written. -/
def Named.empty : Named := .scalar "" true none

/-! ### Collections

Each of these reads on from behind the token that begins the collection. The reader of the nodes
inside is a parameter: `node block indentless ts` reads one node, where `block` allows block
collections and `indentless` a block sequence at the indentation of the mapping around it. The fuel
is the number of tokens. -/

abbrev NodeReader := (block indentless : Bool) → List Token → Option (Named × List Token)

/-- What can stand in place of a node that is not written. -/
def optionalNode (node : NodeReader) (block indentless : Bool) (ends : Token → Bool)
    (ts : List Token) : Option (Named × List Token) :=
  match ts with
  | t :: _ => if ends t then some (.empty, ts) else node block indentless ts
  | [] => node block indentless ts

/-- The entries of a block sequence. -/
def blockItems? (node : NodeReader) : Nat → List Token → Option (List Named × List Token)
  | 0, _ => none
  | fuel + 1, ts =>
    match ts with
    | .blockEntry :: rest => do
      let ends (t : Token) : Bool := t = .blockEntry || t = .blockEnd
      let (x, rest) ← optionalNode node true false ends rest
      let (xs, rest) ← blockItems? node fuel rest
      return (x :: xs, rest)
    | .blockEnd :: rest => some ([], rest)
    | _ => none

/-- The entries of a block sequence at the indentation of the mapping around it. -/
def indentlessItems? (node : NodeReader) : Nat → List Token → Option (List Named × List Token)
  | 0, _ => none
  | fuel + 1, ts =>
    match ts with
    | .blockEntry :: rest => do
      let ends (t : Token) : Bool := t = .blockEntry || t = .key || t = .value || t = .blockEnd
      let (x, rest) ← optionalNode node true false ends rest
      let (xs, rest) ← indentlessItems? node fuel rest
      return (x :: xs, rest)
    | _ => some ([], ts)

/-- The entries of a block mapping. -/
def blockEntries? (node : NodeReader) : Nat → List Token →
    Option (List (Named × Named) × List Token)
  | 0, _ => none
  | fuel + 1, ts =>
    let ends (t : Token) : Bool := t = .key || t = .value || t = .blockEnd
    match ts with
    | .key :: rest => do
      let (k, rest) ← optionalNode node true true ends rest
      let (v, rest) ← match rest with
        | .value :: rest => optionalNode node true true ends rest
        | _ => some (.empty, rest)
      let (es, rest) ← blockEntries? node fuel rest
      return ((k, v) :: es, rest)
    | .blockEnd :: rest => some ([], rest)
    | _ => none

/-- A pair inside a flow sequence, from behind its key mark. -/
def flowPair? (node : NodeReader) (ts : List Token) : Option (Named × List Token) := do
  let (k, rest) ← match ts with
    | [] => none
    | t :: rest =>
      if t = .value || t = .flowEntry || t = .flowSequenceEnd then some (.empty, rest)
      else node false false ts
  let (v, rest) ← match rest with
    | .value :: rest =>
      optionalNode node false false (fun t => t = .flowEntry || t = .flowSequenceEnd) rest
    | _ => some (.empty, rest)
  return (.mapping [(k, v)], rest)

/-- The entries of a flow sequence. -/
def flowItems? (node : NodeReader) (first : Bool) : Nat → List Token →
    Option (List Named × List Token)
  | 0, _ => none
  | fuel + 1, ts =>
    match ts with
    | .flowSequenceEnd :: rest => some ([], rest)
    | _ => do
      let ts ← if first then some ts else match ts with
        | .flowEntry :: rest => some rest
        | _ => none
      match ts with
      | .flowSequenceEnd :: rest => return ([], rest)
      | .key :: rest =>
        let (x, rest) ← flowPair? node rest
        let (xs, rest) ← flowItems? node false fuel rest
        return (x :: xs, rest)
      | _ =>
        let (x, rest) ← node false false ts
        let (xs, rest) ← flowItems? node false fuel rest
        return (x :: xs, rest)

/-- The entries of a flow mapping. -/
def flowEntries? (node : NodeReader) (first : Bool) : Nat → List Token →
    Option (List (Named × Named) × List Token)
  | 0, _ => none
  | fuel + 1, ts =>
    match ts with
    | .flowMappingEnd :: rest => some ([], rest)
    | _ => do
      let ts ← if first then some ts else match ts with
        | .flowEntry :: rest => some rest
        | _ => none
      match ts with
      | .flowMappingEnd :: rest => return ([], rest)
      | .key :: rest =>
        let (k, rest) ← optionalNode node false false
          (fun t => t = .value || t = .flowEntry || t = .flowMappingEnd) rest
        let (v, rest) ← match rest with
          | .value :: rest =>
            optionalNode node false false (fun t => t = .flowEntry || t = .flowMappingEnd) rest
          | _ => some (.empty, rest)
        let (es, rest) ← flowEntries? node false fuel rest
        return ((k, v) :: es, rest)
      | _ =>
        let (k, rest) ← node false false ts
        let (es, rest) ← flowEntries? node false fuel rest
        return ((k, .empty) :: es, rest)

/-! ### Nodes and documents -/

/-- How deep collections may be nested. -/
def maxDepth : Nat := 128

/-- A node whose collections are nested no deeper than `depth`. -/
def node? (handles : Handles) : (depth : Nat) → NodeReader
  | 0 => fun _ _ ts =>
    match ts with
    | .alias a :: rest => some (.alias (String.ofList a), rest)
    | _ => do
      let (anchor, tag, ts) ← properties? handles ts
      match ts with
      | .scalar text plain :: rest =>
        return (anchoredAs anchor (.scalar (String.ofList text) plain tag), rest)
      | _ => none
  | depth + 1 => fun block indentless ts =>
    match ts with
    | .alias a :: rest => some (.alias (String.ofList a), rest)
    | _ => do
      let (anchor, tag, ts) ← properties? handles ts
      let inner := node? handles depth
      let fuel := ts.length + 1
      let put (n : Named) (rest : List Token) := (anchoredAs anchor n, rest)
      match ts with
      | .scalar text plain :: rest => return put (.scalar (String.ofList text) plain tag) rest
      | .flowSequenceStart :: rest =>
        let (xs, rest) ← flowItems? inner true fuel rest
        return put (.sequence xs) rest
      | .flowMappingStart :: rest =>
        let (es, rest) ← flowEntries? inner true fuel rest
        return put (.mapping es) rest
      | _ =>
        let unwritten : Option (Named × List Token) :=
          if anchor.isSome || tag.isSome then some (put (.scalar "" true tag) ts) else none
        match ts with
        | .blockEntry :: _ =>
          if indentless then
            let (xs, rest) ← indentlessItems? inner fuel ts
            return put (.sequence xs) rest
          else unwritten
        | .blockSequenceStart :: rest =>
          if block then
            let (xs, rest) ← blockItems? inner fuel rest
            return put (.sequence xs) rest
          else unwritten
        | .blockMappingStart :: rest =>
          if block then
            let (es, rest) ← blockEntries? inner fuel rest
            return put (.mapping es) rest
          else unwritten
        | _ => unwritten

/-- The directives in front of a document: at most one version, which must be known, and no handle
twice. -/
def directives? (version : Bool) (handles : Handles) : List Token → Option (Handles × List Token)
  | .versionDirective major minor :: rest =>
    if version || major ≠ 1 || (minor ≠ 1 && minor ≠ 2) then none
    else directives? true handles rest
  | .tagDirective handle meaning :: rest =>
    if (handles.lookup handle).isSome then none
    else directives? version ((handle, meaning) :: handles) rest
  | ts => some (handles, ts)

/-- Nothing but document ends is left. -/
def isOver (ts : List Token) : Bool := ts.all (· = .documentEnd)

/-- A document whose contents begin here. -/
def content? (handles : Handles) (ts : List Token) : Option (Named × List Token) :=
  match ts with
  | [] => some (.empty, [])
  | .versionDirective .. :: _ | .tagDirective .. :: _ | .documentStart :: _ | .documentEnd :: _ =>
    some (.empty, ts)
  | _ => node? handles maxDepth true false ts

/-- The document that the tokens spell; there can be only one. -/
def ofTokens? (ts : List Token) : Option Document := do
  match ts with
  | [] => return .nothing
  | t :: _ =>
    let explicit := match t with
      | .versionDirective .. | .tagDirective .. | .documentStart => true
      | _ => false
    let (named, rest) ← if explicit then
        match ← directives? false [] ts with
        | (handles, .documentStart :: rest) => content? (handles ++ defaultHandles) rest
        | _ => none
      else node? defaultHandles maxDepth true false ts
    if isOver rest then
      let (node, _) ← named.number? []
      return .root node
    else none

/-- The document that a text spells. -/
def read? (s : String) : Option Document := (tokens? s.toList).bind ofTokens?

end Reindex.Yaml
