import Reindex.Credential.Basic
import Reindex.Token.Endpoint

/-!
# A client that its host vouches for

The host keeps a token in a file and renews it there. The file is read for every request, and the
authority exchanges what is in it for a token of its own.
-/

namespace Reindex

/-- A client that its host vouches for. -/
structure WorkloadCredential where
  tenantId : String
  clientId : String
  /-- The file with the token of the host. -/
  tokenFile : String
  authority : Url

namespace WorkloadCredential

def name : String := "workload-identity"

/-- The client that the environment describes. -/
def ofEnvironment (env : Environment) (authority : Url) :
    Except CredentialError WorkloadCredential := do
  let tokenFile ← env.required name tokenFileVariable
  let tenantId ← env.required name tenantVariable
  let clientId ← env.required name clientVariable
  return ⟨tenantId, clientId, tokenFile, authority⟩

/-- The token in the octets of the file. -/
def assertion (c : WorkloadCredential) (contents : Except FileError (List UInt8)) :
    Except CredentialError String :=
  let text : Except FileError String := do
    match Text.Utf8.decode? (← contents) with
    | some text => return text
    | none => throw .notText
  match text with
  | .error cause => .error (.unavailable name (.unreadableFile c.tokenFile cause))
  | .ok text =>
    let text := Text.trim text
    if text.isEmpty then .error (.unavailable name (.emptyFile c.tokenFile)) else .ok text

def token {σ : Type} (c : WorkloadCredential) (scopes : List String) :
    Work σ (Except CredentialError AccessToken) := do
  match c.assertion (← Work.readFile c.tokenFile) with
  | .error e => return .error e
  | .ok assertion =>
    match TokenEndpoint.url c.authority c.tenantId with
    | .error fault => return .error (.rejected name (.token fault))
    | .ok endpoint =>
      let scope := " ".intercalate scopes
      let result ← TokenEndpoint.askWithForm endpoint
        (TokenEndpoint.assertionForm c.clientId assertion scope)
      return result.mapError (.ofFailure name)

def credential {σ : Type} (c : WorkloadCredential) : Credential σ := ⟨name, c.token⟩

end WorkloadCredential

end Reindex
