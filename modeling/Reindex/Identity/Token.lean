import Reindex.Identity.Basic
import Reindex.Session.Basic
import Reindex.Token.Endpoint

/-!
# Tokens for an identity

A provider gives tokens to identities. The one there is asks the authority; there is one attempt.
-/

namespace Reindex

/-- Why an identity gets no token. -/
inductive AuthError where
  | authenticationFailed (fault : TokenFault)
  deriving DecidableEq, Repr

def AuthError.message : AuthError → String
  | .authenticationFailed fault => "Authentication failed: " ++ fault.message

/-- Who gives tokens to identities. -/
structure TokenProvider (σ : Type) where
  name : String
  /-- A token for an identity and some scopes. -/
  request : ClientIdentity → List String → Work σ (Except AuthError AccessToken)

namespace TokenProvider

variable {σ : Type}

/-- The pairs that an identity asks for a token with. -/
def form (i : ClientIdentity) (scopes : List String) : List (String × String) :=
  TokenEndpoint.secretForm i.clientId i.clientSecret (" ".intercalate scopes)

/-- The provider that asks an authority. -/
def authority (url : Url) : TokenProvider σ where
  name := "entra-id"
  request := fun i scopes =>
    match TokenEndpoint.url url i.tenantId with
    | .error fault => pure (.error (.authenticationFailed fault))
    | .ok endpoint => do
      let result ← TokenEndpoint.askWithForm endpoint (form i scopes)
      return result.mapError fun failure => .authenticationFailed failure.fault

def scopesFor (i : ClientIdentity) (scopes : List String) : List String :=
  if scopes.isEmpty then [i.defaultScope] else scopes

def acquire (p : TokenProvider σ) (i : ClientIdentity) (scopes : List String) :
    Work σ (Except AuthError AccessToken) := do
  let scopes := scopesFor i scopes
  Work.log ⟨.info, "Retrieving service account token", []⟩
  Work.log ⟨.debug, "Requesting token with client credentials",
    [("provider", .text p.name), ("scope_count", .number scopes.length)]⟩
  match ← p.request i scopes with
  | .error e => return .error e
  | .ok token =>
    Work.log ⟨.info, "Service account token acquired",
      [("expires_at", .shown token.inspectExpiry)]⟩
    return .ok token

end TokenProvider

end Reindex
