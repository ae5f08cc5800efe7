import Reindex.Identity.Field
import Reindex.Retry.Policy

/-!
# The configuration of a job

Where the secrets are, what to request and how often, the names of the secrets and who issues
tokens. Every setting but the two addresses has a default.
-/

namespace Reindex

/-- The request that triggers the work. -/
structure TargetConfig where
  /-- The address that the path is joined to. -/
  baseUrl : Option String := none
  path : String := "api/rafs-ddms/dev/sa_records_index"
  /-- The one status that means success. -/
  expectedStatus : UInt16 := 200
  /-- The header that names the data partition. -/
  partitionHeader : String := "data-partition-id"
  partitionId : String := "opendes"
  insecureSkipVerify : Bool := false
  /-- The seconds that one attempt may take. -/
  timeoutSecs : UInt64 := 30
  deriving DecidableEq

/-- The milliseconds that one attempt may take. -/
def TargetConfig.timeoutMs (t : TargetConfig) : Nat := t.timeoutSecs.toNat * 1000

/-- The usual names of the secrets. -/
def defaultSecretNames : PerField String where
  tenantId := "tenant-id"
  clientId := "app-dev-sp-username"
  clientSecret := "app-dev-sp-password"
  audience := "aad-client-id"

/-- Who issues tokens, and for what. -/
structure IdentityConfig where
  authorityHost : String := "https://login.microsoftonline.com"
  /-- The scopes to ask for; without any, the default scope of the audience. -/
  scopes : List String := []
  deriving DecidableEq

structure JobConfig where
  /-- The address of the store that has the secrets. -/
  keyVaultUri : Option String := none
  target : TargetConfig := {}
  retry : RetryPolicy := .default
  /-- The names of the secrets that make up the identity. -/
  secrets : PerField String := defaultSecretNames
  identity : IdentityConfig := {}
  deriving DecidableEq

end Reindex
