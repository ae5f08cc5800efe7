import Reindex.Config.Check
import Reindex.Config.Record
import Reindex.Text.Utf8

/-!
# Where settings come from

Defaults, then a file, then variables of the environment: each source replaces what the one before
it says about a setting. Flags of the command line come last.
-/

namespace Reindex

open Text

/-- The variables of the environment. -/
abbrev Environment := String → Option String

/-! ### Variables -/

/-- The variable that names the file with the settings. -/
def configVariable : String := "REINDEX_CONFIG"

/-- The variable with the path at the target. -/
def pathVariable : String := "REINDEX_ENDPOINT_PATH"

/-- The variable with the status that means success. -/
def statusVariable : String := "REINDEX_EXPECTED_STATUS"

/-- The variable with the partition to work on. -/
def partitionVariable : String := "REINDEX_PARTITION_ID"

/-- The variable with the time that a request may take, in seconds. -/
def timeoutVariable : String := "REINDEX_TIMEOUT_SECS"

/-- The variable that turns the check of certificates off. -/
def insecureVariable : String := "REINDEX_INSECURE_SKIP_VERIFY"

/-- The variable with the number of attempts. -/
def attemptsVariable : String := "REINDEX_MAX_ATTEMPTS"

/-- The variable with the wait between attempts, in milliseconds. -/
def delayVariable : String := "REINDEX_RETRY_DELAY_MS"

/-- The variable with the address of the authority. -/
def authorityVariable : String := "AZURE_AUTHORITY_HOST"

def configVariables : List String :=
  [configVariable, keyVaultVariable, targetVariable, pathVariable, statusVariable,
    partitionVariable, timeoutVariable, insecureVariable, attemptsVariable, delayVariable,
    authorityVariable]

/-! ### Sources -/

/-- The truth value that a variable spells; nothing but blanks is a no. -/
def flag? (value : String) : Option Bool :=
  let word := String.ofList ((trimList value.toList).map Char.toLower)
  if ["1", "true", "yes", "on"].contains word then some true
  else if ["0", "false", "no", "off", ""].contains word then some false
  else none

/-- The span of time that a variable spells in milliseconds. -/
def delay? (value : String) : Option Span := (uint64? value).map Span.ofMillis

/-- The value of a variable as `parse` understands it, or what there is already. -/
def overrideBy {α : Type} (env : Environment) (name : String) (parse : String → Option α)
    (fault : SettingFault) (present : α) : Except ConfigError α :=
  match env name with
  | none => .ok present
  | some value =>
    match parse value with
    | some a => .ok a
    | none => .error (.invalid fault)

namespace JobConfig

/-- The address that a variable holds, or the one there is already. -/
def addressOr (env : Environment) (name : String) (present : Option String) : Option String :=
  ((env name).bind address?).or present

/-- The configuration with what the environment says. -/
def override (c : JobConfig) (env : Environment) : Except ConfigError JobConfig := do
  let status ← overrideBy env statusVariable uint16?
    (.variableNotStatus statusVariable) c.target.expectedStatus
  let timeout ← overrideBy env timeoutVariable uint64?
    (.variableNotNumber timeoutVariable) c.target.timeoutSecs
  let insecure ← overrideBy env insecureVariable flag?
    (.variableNotFlag insecureVariable) c.target.insecureSkipVerify
  let attempts ← overrideBy env attemptsVariable uint32?
    (.variableNotNumber attemptsVariable) c.retry.maxAttempts
  let retry ← c.retry.withMaxAttempts attempts
  let delay ← overrideBy env delayVariable delay?
    (.variableNotNumber delayVariable) c.retry.delay
  return {
    keyVaultUri := addressOr env keyVaultVariable c.keyVaultUri
    target := {
      baseUrl := addressOr env targetVariable c.target.baseUrl
      path := (env pathVariable).getD c.target.path
      expectedStatus := status
      partitionHeader := c.target.partitionHeader
      partitionId := (env partitionVariable).getD c.target.partitionId
      insecureSkipVerify := insecure
      timeoutSecs := timeout }
    retry := retry.withDelay delay
    secrets := c.secrets
    identity := {
      authorityHost := (env authorityVariable).getD c.identity.authorityHost
      scopes := c.identity.scopes } }

/-- The file to load: the one that is asked for, or else the one that the environment names. -/
def filePath? (explicit : Option String) (env : Environment) : Option String :=
  explicit.or (env configVariable)

/-- The configuration in a file, which must exist. -/
def ofFile (files : Files) (path : String) : Except ConfigError JobConfig :=
  if !files.contains path then .error (.fileNotFound path)
  else match files.read path with
    | .error cause => .error (.file cause)
    | .ok bytes =>
      match Utf8.decode? bytes with
      | none => .error (.file .notText)
      | some text =>
        match ofYamlText? text with
        | some c => .ok c
        | none => .error (.invalid (.unreadableFile path))

/-- The configuration from all sources. -/
def load (explicit : Option String) (files : Files) (env : Environment) :
    Except ConfigError JobConfig := do
  let c ← match filePath? explicit env with
    | some path => ofFile files path
    | none => .ok {}
  c.override env

end JobConfig

end Reindex
