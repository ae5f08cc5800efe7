import Reindex.Text.Blank
import Reindex.Text.Numeral

/-!
# Sealed texts

A text that is not to be seen. It is used through `reveal`, and everything that is printed of it is
its length.
-/

namespace Reindex

/-- A text that is not to be seen. -/
structure Sealed where
  reveal : String
  deriving DecidableEq

namespace Sealed

def size (s : Sealed) : Nat := s.reveal.utf8ByteSize

def isEmpty (s : Sealed) : Bool := s.reveal.isEmpty

/-- There is nothing in it but blanks. -/
def isBlank (s : Sealed) : Bool := Text.isBlank s.reveal

def masked (_ : Sealed) : String := "[REDACTED]"

def inspect (s : Sealed) : String :=
  "SecureString([REDACTED " ++ toString s.size ++ " bytes])"

end Sealed

end Reindex
