import Reindex.Config.Loader
import Reindex.Session.Basic
import Reindex.Token.Answer

/-!
# Credentials

A source of tokens. A source that is not set up or that cannot be reached leaves the question to the
next one; a source that is refused settles it.
-/

namespace Reindex

/-- Why a credential is of no use. -/
inductive CredentialFault where
  | unset (var : String)
  | notUrl (var : String) (cause : UrlError)
  /-- The file with the token cannot be read. -/
  | unreadableFile (path : String) (cause : FileError)
  | emptyFile (path : String)
  | scopeCount (n : Nat)
  | token (fault : TokenFault)
  /-- Any other fault, in the words of whoever found it. -/
  | stated (message : String)
  deriving DecidableEq, Repr

def CredentialFault.message : CredentialFault → String
  | .unset var => var ++ " is not set"
  | .notUrl var cause => var ++ " is not a valid URL: " ++ cause.message
  | .unreadableFile path cause =>
    "cannot read federated token file " ++ path ++ ": " ++ cause.message
  | .emptyFile path => "federated token file " ++ path ++ " is empty"
  | .scopeCount n => "exactly one scope is supported, got " ++ toString n
  | .token fault => fault.message
  | .stated message => message

/-- Why a credential gives no token. -/
inductive CredentialError where
  | notConfigured (credential : String) (fault : CredentialFault)
  | unavailable (credential : String) (fault : CredentialFault)
  | rejected (credential : String) (fault : CredentialFault)
  /-- All sources were tried in vain, for these reasons. -/
  | exhausted (attempted : List String)
  deriving DecidableEq, Repr

namespace CredentialError

def message : CredentialError → String
  | .notConfigured credential fault => credential ++ " is not configured: " ++ fault.message
  | .unavailable credential fault => credential ++ " is unavailable: " ++ fault.message
  | .rejected credential fault => credential ++ " was rejected: " ++ fault.message
  | .exhausted attempted =>
    "No ambient credential could produce a token (" ++ "; ".intercalate attempted ++ ")"

/-- The question is left to the next source. -/
def isFallthrough : CredentialError → Bool
  | .notConfigured .. | .unavailable .. => true
  | .rejected .. | .exhausted .. => false

/-- The error of a credential that could not get a token. -/
def ofFailure (credential : String) : TokenFailure → CredentialError
  | .transport fault => .unavailable credential (.token fault)
  | .rejected fault => .rejected credential (.token fault)

end CredentialError

structure Credential (σ : Type) where
  name : String
  token : List String → Work σ (Except CredentialError AccessToken)

/-- A token that is there already. -/
def Credential.fixed {σ : Type} (token : AccessToken) : Credential σ :=
  ⟨"static", fun _ => pure (.ok token)⟩

/-! ### Variables -/

def tenantVariable : String := "AZURE_TENANT_ID"

def clientVariable : String := "AZURE_CLIENT_ID"

/-- The variable with the secret of the client. -/
def clientSecretVariable : String := "AZURE_CLIENT_SECRET"

/-- The variable with the path of a file that holds a token. -/
def tokenFileVariable : String := "AZURE_FEDERATED_TOKEN_FILE"

/-- The variable with the address of a host that knows who it runs. -/
def identityEndpointVariable : String := "IDENTITY_ENDPOINT"

/-- The variable with what that host wants to see. -/
def identityHeaderVariable : String := "IDENTITY_HEADER"

/-- All variables with credentials. -/
def credentialVariables : List String :=
  [tenantVariable, clientVariable, clientSecretVariable, tokenFileVariable,
    identityEndpointVariable, identityHeaderVariable]

/-- The value of a variable without the blanks around it, unless it is blank. -/
def Environment.trimmed? (env : Environment) (var : String) : Option String :=
  ((env var).map Text.trim).filter fun v => !v.isEmpty

/-- The value of a variable that a credential needs. -/
def Environment.required (env : Environment) (credential var : String) :
    Except CredentialError String :=
  match env.trimmed? var with
  | some v => .ok v
  | none => .error (.notConfigured credential (.unset var))

end Reindex
