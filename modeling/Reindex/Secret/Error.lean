import Reindex.Credential.Basic
import Reindex.Identity.Field
import Reindex.Secret.Name

/-!
# Why there is no secret
-/

namespace Reindex

/-- Why a store does not give a secret. -/
inductive SecretRefusal where
  | malformed
  /-- The store answers with a status that is no good one, and perhaps names an error. -/
  | status (n : Nat) (code : Option String)
  /-- Any other reason, in the words of whoever found it. -/
  | stated (message : String)
  deriving DecidableEq, Repr

def SecretRefusal.message : SecretRefusal → String
  | .malformed => "malformed secret bundle"
  | .status n none => "status " ++ toString n
  | .status n (some code) => "status " ++ toString n ++ " (" ++ code ++ ")"
  | .stated message => message

inductive StoreFault where
  | noPath
  | transport (fault : Http.TransportFault)
  | status (n : Nat)
  /-- Any other fault, in the words of whoever found it. -/
  | stated (message : String)
  deriving DecidableEq, Repr

def StoreFault.message : StoreFault → String
  | .noPath => "store endpoint cannot carry a path"
  | .transport fault => fault.message
  | .status n => "status " ++ toString n
  | .stated message => message

/-- Why there is no secret, or no identity made of secrets. -/
inductive SecretError where
  | unavailable (name : String) (reason : SecretRefusal)
  | unreachable (endpoint : String) (fault : StoreFault)
  /-- There is nothing to show to the store. -/
  | credential (error : CredentialError)
  /-- A field of the identity is missing. -/
  | incomplete (field : IdentityField)
  | invalidName (name : String) (fault : NameFault)
  deriving DecidableEq, Repr

def SecretError.message : SecretError → String
  | .unavailable name reason => "Secret '" ++ name ++ "' is unavailable: " ++ reason.message
  | .unreachable endpoint fault =>
    "Secret store " ++ endpoint ++ " is unreachable: " ++ fault.message
  | .credential error => "Could not obtain a secret store credential: " ++ error.message
  | .incomplete field => "Credential is incomplete: " ++ field.label ++ " is missing or empty"
  | .invalidName name fault => "Invalid secret name '" ++ name ++ "': " ++ fault.message

/-- The text as the name of a secret. -/
def SecretName.create (s : String) : Except SecretError SecretName :=
  (SecretName.check s).mapError (.invalidName s)

end Reindex
