import Reindex.Session.Basic
import Reindex.Token.Answer
import Reindex.Url.Path

/-!
# Token endpoints

Where an authority hands out tokens to the clients of a tenant, and how they are asked for.
-/

namespace Reindex.TokenEndpoint

/-- What is granted to clients that prove who they are. -/
def clientCredentials : String := "client_credentials"

/-- The kind of proof that another party vouches for. -/
def jwtAssertion : String := "urn:ietf:params:oauth:client-assertion-type:jwt-bearer"

/-- The endpoint of an authority for a tenant. -/
def url (authority : Url) (tenant : String) : Except TokenFault Url :=
  match authority.append? [tenant, "oauth2", "v2.0", "token"] with
  | some url => .ok url
  | none => .error (.noPath authority)

/-- Ask for a token by a request, whatever kind of endpoint it goes to. -/
def ask {σ : Type} (r : Http.Request) : Work σ (Except TokenFailure AccessToken) := do
  match ← Work.exchange r with
  | .error fault => return .error (.transport (.transport fault))
  | .ok answer => return TokenAnswer.read (← Work.now) answer

/-- The pairs that a client proves itself by with its secret. -/
def secretForm (clientId clientSecret scope : String) : List (String × String) :=
  [("grant_type", clientCredentials), ("client_id", clientId), ("client_secret", clientSecret),
    ("scope", scope)]

/-- The pairs that a client proves itself by with what another party says. -/
def assertionForm (clientId assertion scope : String) : List (String × String) :=
  [("grant_type", clientCredentials), ("client_id", clientId),
    ("client_assertion_type", jwtAssertion), ("client_assertion", assertion), ("scope", scope)]

def askWithForm {σ : Type} (endpoint : Url) (form : List (String × String)) :
    Work σ (Except TokenFailure AccessToken) :=
  ask (.postForm endpoint form)

end Reindex.TokenEndpoint
