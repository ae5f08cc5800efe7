import Reindex.Text.Blank

/-!
# Header fields

Which names and values a header field can have. Names are written in small letters.
-/

namespace Reindex.Http

/-- A character that names of header fields are made of. -/
def isNameChar (c : Char) : Bool := c.isAlphanum || "!#$%&'*+-.^_\x60|~".toList.contains c

/-- The greatest number of characters of a name. -/
def maxNameLength : Nat := 65535

/-- The name in small letters, if it is one. -/
def headerName? (s : String) : Option String :=
  let cs := s.toList
  if !cs.isEmpty && cs.length ≤ maxNameLength && cs.all isNameChar then
    some (String.ofList (cs.map Char.toLower))
  else none

/-- A character that values of header fields are made of. -/
def isValueChar (c : Char) : Bool := c = '\t' || (0x20 ≤ c.toNat && c.toNat ≠ 0x7F)

/-- The text can be the value of a header field. -/
def isHeaderValue (s : String) : Bool := s.toList.all isValueChar

/-- What is wrong with a header field. -/
inductive HeaderFault where
  | name
  | value
  /-- Any other fault, in the words of whoever found it. -/
  | stated (message : String)
  deriving DecidableEq, Repr

def HeaderFault.message : HeaderFault → String
  | .name => "invalid HTTP header name"
  | .value => "failed to parse header value"
  | .stated message => message

end Reindex.Http
