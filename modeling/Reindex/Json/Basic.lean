/-!
# JSON values

A value as it was read. Numbers keep their spelling, since which numbers are acceptable depends on
who asks. A string whose escapes or octets make no text is kept as `none`: it does no harm where
nobody looks at it.

A record is given either by an object, whose further members do not matter, or by an array of its
fields in their declared order.
-/

namespace Reindex

inductive Json where
  | null
  | bool (b : Bool)
  | number (spelling : List Char)
  /-- A string; `none` if it stands for no text. -/
  | string (text : Option String)
  | array (items : List Json)
  /-- An object, in the order of its members. -/
  | object (members : List (Option String × Json))

namespace Json

/-- The value of the only member with this key; `none` if there are several. -/
def lookup (key : String) (members : List (Option String × Json)) : Option (Option Json) :=
  match members.filter (·.1 == some key) with
  | [] => some none
  | [m] => some (some m.2)
  | _ => none

/-- The fields of a record with the given field names, each present or not. -/
def fields? (names : List String) : Json → Option (List (Option Json))
  | .object members =>
    if members.all (·.1.isSome) then names.mapM (lookup · members) else none
  | .array items =>
    if items.length ≤ names.length then
      some (items.map some ++ List.replicate (names.length - items.length) none)
    else none
  | _ => none

def text? : Json → Option String
  | .string text => text
  | _ => none

/-- An optional text: absent, `null`, or a string. -/
def optionalText? : Option Json → Option (Option String)
  | none | some .null => some none
  | some j => j.text?.map some

end Json

end Reindex
