import Reindex.Secret.Audit
import Reindex.Secret.Error
import Reindex.Secret.Value

/-!
# Stores of secrets

A store is asked for one secret at a time. A batch of names is read in order, every name once, and
the first failure ends it.
-/

namespace Reindex

/-- A store of secrets. Between reads it keeps a state of type `τ`. -/
structure SecretStore (σ τ : Type) where
  name : String
  endpoint : String
  read : SecretName → StateT τ (Work σ) (Except SecretError SecretValue)

namespace SecretStore

variable {σ τ : Type}

/-- Put an attempt to read a secret on record. -/
def audit (store : SecretStore σ τ) (name : SecretName) (error : Option SecretError) :
    Work σ Unit := do
  let record : AuditRecord := ⟨"get", name.text, store.endpoint, none, ← Work.now⟩
  Work.log (match error with
    | none => record.event
    | some e => (record.withError e.message).event)

/-- Read those of the names that are not among the secrets yet. -/
def readAll (store : SecretStore σ τ) (found : ResolvedSecrets) :
    List SecretName → StateT τ (Work σ) (Except SecretError ResolvedSecrets)
  | [] => pure (.ok found)
  | name :: rest => do
    if found.contains name.text then
      Work.say ⟨.debug, "Secret already resolved in this batch",
        [("secret_name", .shown name.text)]⟩
      readAll store found rest
    else
      match ← store.read name with
      | .ok value =>
        store.audit name none
        readAll store (found.insert name value) rest
      | .error e =>
        store.audit name (some e)
        return .error e

def resolve (store : SecretStore σ τ) (names : List SecretName) :
    StateT τ (Work σ) (Except SecretError ResolvedSecrets) := do
  match ← store.readAll {} names with
  | .error e => return .error e
  | .ok found =>
    Work.say ⟨.info, "Resolved secrets", [("store", .text store.name),
      ("endpoint", .text store.endpoint), ("count", .number found.size)]⟩
    return .ok found

end SecretStore

end Reindex
