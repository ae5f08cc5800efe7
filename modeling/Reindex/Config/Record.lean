import Reindex.Config.Basic

/-!
# Configurations as YAML

The fields of a configuration under their names, to be written and to be read. Whatever is left out
has its default.
-/

namespace Reindex

open Yaml

/-! ### Writing -/

def TargetConfig.toYaml (t : TargetConfig) : List (String × Value) :=
  [("base-url", .optional t.baseUrl),
    ("path", .text t.path),
    ("expected-status", .number t.expectedStatus.toNat),
    ("partition-header", .text t.partitionHeader),
    ("partition-id", .text t.partitionId),
    ("insecure-skip-verify", .bool t.insecureSkipVerify),
    ("timeout-secs", .number t.timeoutSecs.toNat)]

/-- The names of the secrets, each under its field. -/
def secretNamesToYaml (names : PerField String) : List (String × Value) :=
  IdentityField.all.map fun field => (field.label, .text (names.get field))

def IdentityConfig.toYaml (i : IdentityConfig) : List (String × Value) :=
  [("authority-host", .text i.authorityHost), ("scopes", .texts i.scopes)]

/-- The fields of a configuration. -/
def JobConfig.toYaml (c : JobConfig) : List (String × Value) :=
  [("key-vault-uri", .optional c.keyVaultUri),
    ("target", .record c.target.toYaml),
    ("retry", .record c.retry.toYaml),
    ("secrets", .record (secretNamesToYaml c.secrets)),
    ("identity", .record c.identity.toYaml)]

/-- A configuration as a document. -/
def JobConfig.toYamlText (c : JobConfig) : String := write c.toYaml

/-! ### Reading -/

/-- The request that a node describes. -/
def TargetConfig.ofYaml : Decoder TargetConfig := fun root n => do
  let d : TargetConfig := {}
  let names := ["base-url", "path", "expected-status", "partition-header", "partition-id",
    "insecure-skip-verify", "timeout-secs"]
  match ← Decoder.fields names root n with
  | [baseUrl, path, status, header, id, insecure, timeout] =>
    return {
      baseUrl := ← Decoder.optionalText.orElse d.baseUrl root baseUrl
      path := ← Decoder.text.orElse d.path root path
      expectedStatus := UInt16.ofNat
        (← (Decoder.natBelow UInt16.size).orElse d.expectedStatus.toNat root status)
      partitionHeader := ← Decoder.text.orElse d.partitionHeader root header
      partitionId := ← Decoder.text.orElse d.partitionId root id
      insecureSkipVerify := ← Decoder.bool.orElse d.insecureSkipVerify root insecure
      timeoutSecs := UInt64.ofNat
        (← (Decoder.natBelow UInt64.size).orElse d.timeoutSecs.toNat root timeout) }
  | _ => none

/-- The names of the secrets that a node describes. -/
def secretNamesOfYaml : Decoder (PerField String) := fun root n => do
  let d := defaultSecretNames
  match ← Decoder.fields (IdentityField.all.map IdentityField.label) root n with
  | [tenantId, clientId, clientSecret, audience] =>
    return {
      tenantId := ← Decoder.text.orElse d.tenantId root tenantId
      clientId := ← Decoder.text.orElse d.clientId root clientId
      clientSecret := ← Decoder.text.orElse d.clientSecret root clientSecret
      audience := ← Decoder.text.orElse d.audience root audience }
  | _ => none

/-- Who issues tokens, as a node describes it. -/
def IdentityConfig.ofYaml : Decoder IdentityConfig := fun root n => do
  let d : IdentityConfig := {}
  match ← Decoder.fields ["authority-host", "scopes"] root n with
  | [host, scopes] =>
    return {
      authorityHost := ← Decoder.text.orElse d.authorityHost root host
      scopes := ← (Decoder.list Decoder.text).orElse d.scopes root scopes }
  | _ => none

/-- The configuration that a node describes. -/
def JobConfig.ofYaml : Decoder JobConfig := fun root n => do
  let d : JobConfig := {}
  match ← Decoder.fields ["key-vault-uri", "target", "retry", "secrets", "identity"] root n with
  | [vault, target, retry, secrets, identity] =>
    return {
      keyVaultUri := ← Decoder.optionalText.orElse d.keyVaultUri root vault
      target := ← TargetConfig.ofYaml.orElse d.target root target
      retry := ← RetryPolicy.ofYaml.orElse d.retry root retry
      secrets := ← secretNamesOfYaml.orElse d.secrets root secrets
      identity := ← IdentityConfig.ofYaml.orElse d.identity root identity }
  | _ => none

/-- The configuration in a YAML text. -/
def JobConfig.ofYamlText? (s : String) : Option JobConfig :=
  (Yaml.read? s).bind fun d => d.decode? JobConfig.ofYaml

end Reindex
