import Reindex.Json.Basic
import Reindex.Json.Token

/-!
# Reading JSON

The second half of reading: a sequence of tokens becomes a value. The reader keeps the containers
that are still open on a stack, so values may be nested to any depth.
-/

namespace Reindex.Json

/-- A container that is still open, with what it holds so far, last first. -/
inductive Frame where
  | array (items : List Json)
  /-- An object, and the key whose value comes next. -/
  | object (members : List (Option String × Json)) (key : Option String)

inductive Expect where
  | value
  /-- A value, or the end of the array just opened. -/
  | valueOrEnd
  /-- A key of the object with these members. -/
  | key (members : List (Option String × Json))
  /-- A key, or the end of the object just opened. -/
  | keyOrEnd
  /-- The colon behind a key of the object with these members. -/
  | colon (members : List (Option String × Json)) (key : Option String)
  /-- A separator or the end of the innermost container; nothing, if there is none. -/
  | after (last : Json)

/-- The reader's state: the open containers, innermost first, and what may come next. -/
structure State where
  stack : List Frame
  expect : Expect

/-- The state behind a token that begins a value. -/
def beginValue? (stack : List Frame) : Token → Option State
  | .null => some ⟨stack, .after .null⟩
  | .bool b => some ⟨stack, .after (.bool b)⟩
  | .number spelling => some ⟨stack, .after (.number spelling)⟩
  | .string text => some ⟨stack, .after (.string text)⟩
  | .leftBracket => some ⟨.array [] :: stack, .valueOrEnd⟩
  | .leftBrace => some ⟨stack, .keyOrEnd⟩
  | _ => none

def step? (s : State) (t : Token) : Option State :=
  match s.expect with
  | .value => beginValue? s.stack t
  | .valueOrEnd =>
    match t, s.stack with
    | .rightBracket, .array items :: stack => some ⟨stack, .after (.array items.reverse)⟩
    | t, stack => beginValue? stack t
  | .keyOrEnd =>
    match t with
    | .rightBrace => some ⟨s.stack, .after (.object [])⟩
    | .string key => some ⟨s.stack, .colon [] key⟩
    | _ => none
  | .key members =>
    match t with
    | .string key => some ⟨s.stack, .colon members key⟩
    | _ => none
  | .colon members key =>
    match t with
    | .colon => some ⟨.object members key :: s.stack, .value⟩
    | _ => none
  | .after last =>
    match t, s.stack with
    | .comma, .array items :: stack => some ⟨.array (last :: items) :: stack, .value⟩
    | .comma, .object members key :: stack => some ⟨stack, .key ((key, last) :: members)⟩
    | .rightBracket, .array items :: stack =>
      some ⟨stack, .after (.array (last :: items).reverse)⟩
    | .rightBrace, .object members key :: stack =>
      some ⟨stack, .after (.object ((key, last) :: members).reverse)⟩
    | _, _ => none

/-- The state behind a sequence of tokens. -/
def run? (s : State) : List Token → Option State
  | [] => some s
  | t :: rest =>
    match step? s t with
    | some s => run? s rest
    | none => none

/-- The value that the tokens spell. -/
def ofTokens? (ts : List Token) : Option Json :=
  match run? ⟨[], .value⟩ ts with
  | some ⟨[], .after j⟩ => some j
  | _ => none

/-- The value that the octets spell. -/
def read? (bytes : List UInt8) : Option Json := (tokens? bytes).bind ofTokens?

def readText? (s : String) : Option Json := read? (Reindex.Text.Utf8.encode s)

end Reindex.Json
