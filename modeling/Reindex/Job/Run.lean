import Reindex.Job.Error
import Reindex.Secret.Assembly
import Reindex.Secret.Vault
import Reindex.Target.Executor

/-!
# Running a job

Secrets are read, an identity is made of them, it gets a token, and with the token the request is
made. Everything that can be told to be wrong beforehand is checked first; only the request is
attempted more than once.
-/

namespace Reindex

/-- What a job needs to know, taken from its configuration. -/
structure JobPlan where
  vault : Url
  authority : Url
  spec : RequestSpec
  names : IdentitySecretNames

/-- The plan for a configuration, if nothing is wrong with it. -/
def JobPlan.ofConfig (c : JobConfig) : Except JobError JobPlan := do
  c.validate.mapError .ofConfig
  let vault ← c.keyVaultUrl.mapError .ofConfig
  let authority ← c.authorityUrl.mapError .ofConfig
  let spec ← (RequestSpec.ofConfig c).mapError .ofSpec
  let names ← (IdentitySecretNames.ofConfig c.secrets).mapError .ofSecret
  return ⟨vault, authority, spec, names⟩

namespace JobPlan

variable {σ : Type}

/-- Read the secrets and make an identity of them. -/
def identify (p : JobPlan) (credential : Credential σ) :
    Work σ (Except JobError ClientIdentity) := do
  Work.log ⟨.debug, "Resolving access secrets",
    [("store_credential", .text credential.name), ("vault", .text (p.vault.hostText?.getD ""))]⟩
  match ← (Vault.mk p.vault credential).resolve p.names.toList with
  | .error e => return .error (.ofSecret e)
  | .ok secrets =>
    Work.log ⟨.info, "Retrieved access secrets correctly", []⟩
    return (ClientIdentity.ofSecrets p.names secrets).mapError .ofSecret

def authenticate (p : JobPlan) (identity : ClientIdentity) (scopes : List String) :
    Work σ (Except JobError AccessToken) := do
  return (← (TokenProvider.authority p.authority).acquire identity scopes).mapError .authentication

def request (p : JobPlan) (policy : RetryPolicy) (token : AccessToken) :
    Work σ (Except JobError UInt16) := do
  match ← p.spec.execute policy RequestSpec.loggingObserver token with
  | .success status => return .ok status
  | .failure attempts lastError => return .error (.requestFailed attempts lastError)

end JobPlan

namespace JobConfig

variable {σ : Type}

/-- Run the job. The result is the status of the response. -/
def run (c : JobConfig) (credential : Credential σ) : Work σ (Except JobError UInt16) := do
  match JobPlan.ofConfig c with
  | .error e => return .error e
  | .ok plan =>
    match ← plan.identify credential with
    | .error e => return .error e
    | .ok identity =>
      match ← plan.authenticate identity c.identity.scopes with
      | .error e => return .error e
      | .ok token => plan.request c.retry token

end JobConfig

end Reindex
