import Reindex.Credential.Basic
import Reindex.Token.Endpoint
import Reindex.Url.Parser

/-!
# A client that its host knows

The host itself hands out the token, at an address of its own. It is asked for one resource, and
whatever it answers other than a token, another source may still do better.
-/

namespace Reindex

inductive ManagedEndpoint where
  /-- The service that every virtual machine has. -/
  | metadata (url : Url)
  /-- The service of a managed platform, which wants to see a header field. -/
  | platform (url : Url) (header : Sealed)
  deriving DecidableEq

structure ManagedCredential where
  endpoint : ManagedEndpoint
  /-- The client, if the host knows several. -/
  clientId : Option String
  deriving DecidableEq

namespace ManagedEndpoint

/-- The usual address of the service of virtual machines. -/
def metadataAddress : String := "http://169.254.169.254/metadata/identity/oauth2/token"

def url : ManagedEndpoint → Url
  | .metadata url => url
  | .platform url _ => url

/-- The version of the questions that the host understands. -/
def version : ManagedEndpoint → String
  | .metadata _ => "2018-02-01"
  | .platform .. => "2019-08-01"

/-- The header field that the host wants to see. -/
def header : ManagedEndpoint → String × String
  | .metadata _ => ("metadata", "true")
  | .platform _ header => ("x-identity-header", header.reveal)

end ManagedEndpoint

namespace ManagedCredential

def name : String := "managed-identity"

/-- The host is a managed platform. -/
def usesPlatform (c : ManagedCredential) : Bool :=
  match c.endpoint with
  | .platform .. => true
  | .metadata _ => false

/-- The value of a variable, unless it is blank. -/
def nonBlank? (env : Environment) (var : String) : Option String :=
  (env var).filter fun v => !Text.isBlank v

/-- The URL that a variable holds. -/
def urlOf (var value : String) : Except CredentialError Url :=
  (Url.parse value).mapError fun cause => .notConfigured name (.notUrl var cause)

/-- The client that the environment describes. -/
def ofEnvironment (env : Environment) : Except CredentialError ManagedCredential := do
  let clientId := nonBlank? env clientVariable
  match nonBlank? env identityEndpointVariable, nonBlank? env identityHeaderVariable with
  | some endpoint, some header =>
    let url ← urlOf identityEndpointVariable (Text.trim endpoint)
    return ⟨.platform url ⟨header⟩, clientId⟩
  | _, _ =>
    let url ← urlOf identityEndpointVariable ManagedEndpoint.metadataAddress
    return ⟨.metadata url, clientId⟩

/-- What a scope of a resource ends in. -/
def scopeSuffix : List Char := "/.default".toList

def resourceOf (scope : String) : String :=
  let cs := scope.toList
  if scopeSuffix.isSuffixOf cs then String.ofList (cs.take (cs.length - scopeSuffix.length))
  else scope

def request (c : ManagedCredential) (resource : String) : Http.Request :=
  let pairs := [("api-version", c.endpoint.version), ("resource", resource)] ++
    (c.clientId.map (("client_id", ·))).toList
  .get (c.endpoint.url.appendPairs pairs) [c.endpoint.header]

def token {σ : Type} (c : ManagedCredential) (scopes : List String) :
    Work σ (Except CredentialError AccessToken) :=
  match scopes with
  | [scope] => do
    let result ← TokenEndpoint.ask (c.request (resourceOf scope))
    return result.mapError fun failure => .unavailable name (.token failure.fault)
  | _ => pure (.error (.rejected name (.scopeCount scopes.length)))

def credential {σ : Type} (c : ManagedCredential) : Credential σ := ⟨name, c.token⟩

end ManagedCredential

end Reindex
