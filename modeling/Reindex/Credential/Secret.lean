import Reindex.Credential.Basic
import Reindex.Token.Endpoint

/-!
# A client with a secret

Tenant, client and secret come from the environment; the authority hands out the token.
-/

namespace Reindex

structure SecretCredential where
  tenantId : String
  clientId : String
  clientSecret : Sealed
  authority : Url

namespace SecretCredential

def name : String := "environment"

/-- The client that the environment describes. -/
def ofEnvironment (env : Environment) (authority : Url) :
    Except CredentialError SecretCredential := do
  let tenantId ← env.required name tenantVariable
  let clientId ← env.required name clientVariable
  let clientSecret ← env.required name clientSecretVariable
  return ⟨tenantId, clientId, ⟨clientSecret⟩, authority⟩

def token {σ : Type} (c : SecretCredential) (scopes : List String) :
    Work σ (Except CredentialError AccessToken) :=
  match TokenEndpoint.url c.authority c.tenantId with
  | .error fault => pure (.error (.rejected name (.token fault)))
  | .ok endpoint => do
    let scope := " ".intercalate scopes
    let result ← TokenEndpoint.askWithForm endpoint
      (TokenEndpoint.secretForm c.clientId c.clientSecret.reveal scope)
    return result.mapError (.ofFailure name)

def credential {σ : Type} (c : SecretCredential) : Credential σ := ⟨name, c.token⟩

end SecretCredential

end Reindex
