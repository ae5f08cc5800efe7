import Reindex.Sealed
import Reindex.Secret.Name

/-!
# Secrets

The value of a secret is sealed. The secrets that were read together are kept under their names.
-/

namespace Reindex

structure SecretValue where
  content : Sealed
  deriving DecidableEq

namespace SecretValue

def ofText (s : String) : SecretValue := ⟨⟨s⟩⟩

def reveal (v : SecretValue) : String := v.content.reveal

/-- There is nothing in it but blanks. -/
def isBlank (v : SecretValue) : Bool := v.content.isBlank

def masked (v : SecretValue) : String := v.content.masked

def inspect (v : SecretValue) : String := "SecretValue(" ++ v.content.inspect ++ ")"

end SecretValue

/-- Secrets under their names; no name occurs twice. -/
structure ResolvedSecrets where
  entries : List (SecretName × SecretValue) := []

namespace ResolvedSecrets

def get? (r : ResolvedSecrets) (name : String) : Option SecretValue :=
  (r.entries.find? fun e => e.1.text = name).map (·.2)

/-- There is a value under the name. -/
def contains (r : ResolvedSecrets) (name : String) : Bool := (r.get? name).isSome

/-- The secrets with a value under a name, in place of any value there was. -/
def insert (r : ResolvedSecrets) (name : SecretName) (value : SecretValue) : ResolvedSecrets :=
  ⟨r.entries.filter (fun e => e.1.text ≠ name.text) ++ [(name, value)]⟩

/-- The secrets of a list; of several values under one name the last counts. -/
def ofList (entries : List (SecretName × SecretValue)) : ResolvedSecrets :=
  entries.foldl (fun r e => r.insert e.1 e.2) {}

def size (r : ResolvedSecrets) : Nat := r.entries.length

def isEmpty (r : ResolvedSecrets) : Bool := r.entries.isEmpty

/-- The secrets in the order of their names. -/
def toList (r : ResolvedSecrets) : List (SecretName × SecretValue) :=
  r.entries.mergeSort fun a b => decide (a.1.text ≤ b.1.text)

def names (r : ResolvedSecrets) : List SecretName := r.toList.map (·.1)

/-- What developers see of the secrets. -/
def inspect (r : ResolvedSecrets) : String :=
  "ResolvedSecrets \x7b values: \x7b" ++
    ", ".intercalate (r.entries.map fun e =>
      "SecretName(" ++ Text.quoted e.1.text ++ "): " ++ e.2.inspect) ++ "\x7d \x7d"

end ResolvedSecrets

end Reindex
