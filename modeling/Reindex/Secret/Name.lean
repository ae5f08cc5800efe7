import Reindex.Text.Quoted

/-!
# Names of secrets

A name has 1 to 127 letters, digits and hyphens, all of them ASCII.
-/

namespace Reindex

/-- A character that names of secrets are made of. -/
def isSecretNameChar (c : Char) : Bool := c.isAlphanum || c = '-'

/-- What is wrong with the name of a secret. -/
inductive NameFault where
  | empty
  | tooLong
  /-- The name has a character that it cannot have. -/
  | character (c : Char)
  /-- Any other fault, in the words of whoever found it. -/
  | stated (message : String)
  deriving DecidableEq, Repr

/-- The greatest number of octets of a name. -/
def maxSecretNameLength : Nat := 127

def NameFault.message : NameFault → String
  | .empty => "name is empty"
  | .tooLong => "name is longer than " ++ toString maxSecretNameLength ++ " characters"
  | .character c => "character " ++ Text.quotedSingle c ++ " is not allowed"
  | .stated message => message

/-- What is wrong with a text as the name of a secret, if anything is. -/
def secretNameFault? (s : String) : Option NameFault :=
  if s.isEmpty then some .empty
  else if maxSecretNameLength < s.utf8ByteSize then some .tooLong
  else (s.toList.find? fun c => !isSecretNameChar c).map .character

structure SecretName where
  text : String
  valid : secretNameFault? text = none
  deriving DecidableEq

namespace SecretName

/-- The text as the name of a secret, or what is wrong with it. -/
def check (s : String) : Except NameFault SecretName :=
  match h : secretNameFault? s with
  | none => .ok ⟨s, h⟩
  | some fault => .error fault

end SecretName

end Reindex
