import Reindex.Config.Basic
import Reindex.Text.Blank
import Reindex.Url.Parser

/-!
# Checking a configuration

The addresses of a configuration as URLs, and the check of everything that can be told to be wrong
before anyone is asked.
-/

namespace Reindex

open Text

/-- The variable with the address of the secret store. -/
def keyVaultVariable : String := "AZURE_KEY_VAULT_URI"

/-- The variable with the address of the target. -/
def targetVariable : String := "RAFS_URI"

/-- A shorter address is as good as none. -/
def minAddressLength : Nat := 3

/-- An address without the blanks around it, if there is enough of it. -/
def address? (value : String) : Option String :=
  let value := trim value
  if minAddressLength ≤ value.utf8ByteSize then some value else none

/-- The URL of a setting that must be there. -/
def requiredUrl (setting var : String) (value : Option String) : Except ConfigError Url :=
  match value.bind address? with
  | none => .error (.missingSetting setting var)
  | some value =>
    match Url.parse value with
    | .error cause => .error (.invalid (.notUrl setting value cause))
    | .ok url =>
      if url.scheme = "https" || url.scheme = "http" then .ok url
      else .error (.invalid (.wrongScheme setting url.scheme))

namespace JobConfig

def keyVaultUrl (c : JobConfig) : Except ConfigError Url :=
  requiredUrl "key-vault-uri" keyVaultVariable c.keyVaultUri

/-- The URL that the path of the request is joined to. -/
def targetBaseUrl (c : JobConfig) : Except ConfigError Url :=
  requiredUrl "target.base-url" targetVariable c.target.baseUrl

def authorityUrl (c : JobConfig) : Except ConfigError Url :=
  (Url.parse c.identity.authorityHost).mapError fun cause =>
    .invalid (.notUrl "identity.authority-host" c.identity.authorityHost cause)

/-- Refuse what satisfies a condition. -/
def refuse (condition : Bool) (fault : SettingFault) : Except ConfigError Unit :=
  if condition then .error (.invalid fault) else .ok ()

/-- The first thing that is wrong with a configuration, if anything is. -/
def validate (c : JobConfig) : Except ConfigError Unit := do
  let _ ← c.keyVaultUrl
  let _ ← c.targetBaseUrl
  let _ ← c.authorityUrl
  let status := c.target.expectedStatus
  refuse (!(100 ≤ status && status ≤ 599)) (.notStatus status)
  refuse (isBlank c.target.partitionHeader) .blankPartitionHeader
  refuse (c.target.timeoutSecs = 0) .zeroTimeout
  refuse (c.secrets.toList.any isBlank) .blankSecretName

end JobConfig

end Reindex
