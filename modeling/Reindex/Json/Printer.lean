import Reindex.Json.Basic

/-!
# Writing JSON

Records of whole numbers, written without anything between the tokens. Their keys need no escapes.
-/

namespace Reindex.Json

def writeNumber (member : String × Nat) : String :=
  "\"" ++ member.1 ++ "\":" ++ toString member.2

/-- An object of numbers as a text. -/
def writeNumbers (members : List (String × Nat)) : String :=
  "\x7b" ++ ",".intercalate (members.map writeNumber) ++ "\x7d"

end Reindex.Json
