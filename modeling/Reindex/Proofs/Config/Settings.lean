import Reindex.CommandLine.Program
import Reindex.Proofs.Retry.Policy
import Reindex.Proofs.Yaml.Entry

/-!
# What the sources say about the settings

Every source says something about some of the settings: the flags of the command line, the variables
of the environment, a file, and the defaults. `Settings` is what one source says. What is read from a
document is what the document says under the names of the settings, laid over the defaults.
-/

namespace Reindex

open Text CommandLine

/-- What one source says about each of the settings, if anything. -/
structure Settings where
  keyVaultUri : Option String := none
  baseUrl : Option String := none
  path : Option String := none
  expectedStatus : Option UInt16 := none
  partitionHeader : Option String := none
  partitionId : Option String := none
  insecureSkipVerify : Option Bool := none
  timeoutSecs : Option UInt64 := none
  maxAttempts : Option UInt32 := none
  delay : Option Span := none
  secrets : PerField (Option String) := ⟨none, none, none, none⟩
  authorityHost : Option String := none
  scopes : Option (List String) := none
  deriving DecidableEq

/-- Everything that a configuration says. -/
def JobConfig.settings (c : JobConfig) : Settings where
  keyVaultUri := c.keyVaultUri
  baseUrl := c.target.baseUrl
  path := some c.target.path
  expectedStatus := some c.target.expectedStatus
  partitionHeader := some c.target.partitionHeader
  partitionId := some c.target.partitionId
  insecureSkipVerify := some c.target.insecureSkipVerify
  timeoutSecs := some c.target.timeoutSecs
  maxAttempts := some c.retry.maxAttempts
  delay := some c.retry.delay
  secrets := c.secrets.map some
  authorityHost := some c.identity.authorityHost
  scopes := some c.identity.scopes

namespace Settings

/-- What the first source says, and what the second one says where the first says nothing. -/
def or (first second : Settings) : Settings where
  keyVaultUri := first.keyVaultUri.or second.keyVaultUri
  baseUrl := first.baseUrl.or second.baseUrl
  path := first.path.or second.path
  expectedStatus := first.expectedStatus.or second.expectedStatus
  partitionHeader := first.partitionHeader.or second.partitionHeader
  partitionId := first.partitionId.or second.partitionId
  insecureSkipVerify := first.insecureSkipVerify.or second.insecureSkipVerify
  timeoutSecs := first.timeoutSecs.or second.timeoutSecs
  maxAttempts := first.maxAttempts.or second.maxAttempts
  delay := first.delay.or second.delay
  secrets :=
    ⟨first.secrets.tenantId.or second.secrets.tenantId,
      first.secrets.clientId.or second.secrets.clientId,
      first.secrets.clientSecret.or second.secrets.clientSecret,
      first.secrets.audience.or second.secrets.audience⟩
  authorityHost := first.authorityHost.or second.authorityHost
  scopes := first.scopes.or second.scopes

/-- The wait that is said, if any, is a number of milliseconds that fits into 64 bits. -/
def InMillis (s : Settings) : Prop := ∀ delay ∈ s.delay, ∃ ms : UInt64, delay = .ofMillis ms

lemma InMillis.or {first second : Settings} (h : first.InMillis) (h' : second.InMillis) :
    (first.or second).InMillis := by
  intro delay hdelay
  rcases Option.or_eq_some_iff.mp hdelay with hfirst | ⟨-, hsecond⟩
  · exact h delay hfirst
  · exact h' delay hsecond

/-! ### The sources -/

/-- The flags of the command line. To be insecure can be asked for, but not to be secure. -/
def ofFlags (flags : RunFlags) : Settings where
  insecureSkipVerify := if flags.insecure then some true else none
  maxAttempts := flags.maxAttempts
  delay := flags.retryDelayMs.map .ofMillis

/-- The address in a variable, without the blanks around it; less than three octets are no address. -/
def addressIn (env : Environment) (name : String) : Option String :=
  ((env name).map trim).filter fun address => 3 ≤ address.utf8ByteSize

/-- The variables of the environment. -/
def ofEnvironment (env : Environment) : Settings where
  keyVaultUri := addressIn env keyVaultVariable
  baseUrl := addressIn env targetVariable
  path := env pathVariable
  expectedStatus := (env statusVariable).bind uint16?
  partitionId := env partitionVariable
  insecureSkipVerify := (env insecureVariable).bind flag?
  timeoutSecs := (env timeoutVariable).bind uint64?
  maxAttempts := (env attemptsVariable).bind uint32?
  delay := (env delayVariable).bind delay?
  authorityHost := env authorityVariable

end Settings

/-- What a record, if it is there, says under a key, as a decoder reads it. -/
def Yaml.Decoder.ofEntry {α : Type} (d : Decoder α) (root : Node) (record : Option Node)
    (key : String) : Option α :=
  (record.bind (·.under? root key)).bind (d root)

/-- What a document says under a key, or under a key inside another one. -/
def Yaml.Document.says? {α : Type} (doc : Document) (keys : List String) (d : Decoder α) : Option α :=
  (doc.node.at? keys doc.node).bind (d doc.node)

namespace Settings

open Yaml (Decoder)

/-- A document with settings. -/
def ofDocument (doc : Yaml.Document) : Settings where
  keyVaultUri := (doc.says? ["key-vault-uri"] Decoder.optionalText).join
  baseUrl := (doc.says? ["target", "base-url"] Decoder.optionalText).join
  path := doc.says? ["target", "path"] Decoder.text
  expectedStatus :=
    (doc.says? ["target", "expected-status"] (Decoder.natBelow UInt16.size)).map UInt16.ofNat
  partitionHeader := doc.says? ["target", "partition-header"] Decoder.text
  partitionId := doc.says? ["target", "partition-id"] Decoder.text
  insecureSkipVerify := doc.says? ["target", "insecure-skip-verify"] Decoder.bool
  timeoutSecs :=
    (doc.says? ["target", "timeout-secs"] (Decoder.natBelow UInt64.size)).map UInt64.ofNat
  maxAttempts :=
    (doc.says? ["retry", "max-attempts"] (Decoder.natBelow UInt32.size)).map UInt32.ofNat
  delay :=
    (doc.says? ["retry", "delay-ms"] (Decoder.natBelow UInt64.size)).map fun ms => .ofMillis (.ofNat ms)
  secrets :=
    ⟨doc.says? ["secrets", "tenant-id"] Decoder.text,
      doc.says? ["secrets", "client-id"] Decoder.text,
      doc.says? ["secrets", "client-secret"] Decoder.text,
      doc.says? ["secrets", "audience"] Decoder.text⟩
  authorityHost := doc.says? ["identity", "authority-host"] Decoder.text
  scopes := doc.says? ["identity", "scopes"] (Decoder.list Decoder.text)

/-- The document in a file. -/
def document? (files : Files) (path : String) : Option Yaml.Document := do
  let bytes ← (files.read path).toOption
  let text ← Utf8.decode? bytes
  Yaml.read? text

/-- A file with settings; if there is none, it says nothing. -/
def ofFile (files : Files) (path? : Option String) : Settings :=
  ((path?.bind (document? files)).map ofDocument).getD {}

/-- The settings where no source says anything. -/
def defaults : Settings := ({} : JobConfig).settings

/-- All sources say how long to wait in milliseconds. -/
lemma inMillis_sources (flags : RunFlags) (env : Environment) (files : Files) (path? : Option String) :
    ((ofFlags flags).or ((ofEnvironment env).or ((ofFile files path?).or .defaults))).InMillis := by
  refine .or ?flags (.or ?environment (.or ?file ?defaults))
  case flags =>
    intro delay hdelay
    obtain ⟨ms, -, rfl⟩ := Option.map_eq_some_iff.mp hdelay
    exact ⟨ms, rfl⟩
  case environment =>
    intro delay hdelay
    obtain ⟨value, -, hvalue⟩ := Option.bind_eq_some_iff.mp hdelay
    obtain ⟨ms, -, rfl⟩ := Option.map_eq_some_iff.mp hvalue
    exact ⟨ms, rfl⟩
  case file =>
    intro delay hdelay
    unfold ofFile at hdelay
    cases hdocument : path?.bind (document? files) with
    | none =>
      rw [hdocument] at hdelay
      cases hdelay
    | some doc =>
      rw [hdocument] at hdelay
      obtain ⟨ms, -, rfl⟩ := Option.map_eq_some_iff.mp hdelay
      exact ⟨.ofNat ms, rfl⟩
  case defaults =>
    rintro delay ⟨⟩
    exact ⟨RetryPolicy.defaultDelayMs, rfl⟩

end Settings

namespace Yaml.Decoder

variable {α : Type} {d : Decoder α} {root : Node}

/-- A field is what is said about it, or its default where nothing is said. -/
lemma orElse_eq {default a : α} {field : Option Node} (h : d.orElse default root field = some a) :
    a = (field.bind (d root)).getD default := by
  cases field with
  | none =>
    cases h
    rfl
  | some n =>
    rw [Option.bind_some, show d root n = some a from h]
    rfl

lemma map_orElse_eq {β : Type} (f : α → β) {default a : α} {field : Option Node}
    (h : d.orElse default root field = some a) :
    f a = ((field.bind (d root)).map f).getD (f default) := by
  rw [orElse_eq h, Option.getD_map]

lemma join_orElse_eq {d : Decoder (Option α)} {a : Option α} {field : Option Node}
    (h : d.orElse none root field = some a) : a = (field.bind (d root)).join := by
  rw [orElse_eq h]
  cases field.bind (d root) <;> rfl

end Yaml.Decoder

section

open Yaml Yaml.Decoder

lemma TargetConfig.ofYaml_eq {root : Node} {record : Option Node} {t : TargetConfig}
    (h : Decoder.orElse {} TargetConfig.ofYaml root record = some t) :
    t = {
      baseUrl := (ofEntry optionalText root record "base-url").join
      path := (ofEntry text root record "path").getD ({} : TargetConfig).path
      expectedStatus := ((ofEntry (natBelow UInt16.size) root record "expected-status").map
        UInt16.ofNat).getD ({} : TargetConfig).expectedStatus
      partitionHeader :=
        (ofEntry text root record "partition-header").getD ({} : TargetConfig).partitionHeader
      partitionId := (ofEntry text root record "partition-id").getD ({} : TargetConfig).partitionId
      insecureSkipVerify := (ofEntry bool root record "insecure-skip-verify").getD
        ({} : TargetConfig).insecureSkipVerify
      timeoutSecs := ((ofEntry (natBelow UInt64.size) root record "timeout-secs").map
        UInt64.ofNat).getD ({} : TargetConfig).timeoutSecs } := by
  cases record with
  | none =>
    cases h
    rfl
  | some n =>
    have h : TargetConfig.ofYaml root n = some t := h
    unfold TargetConfig.ofYaml at h
    obtain ⟨values, hvalues, h⟩ := Option.bind_eq_some_iff.mp h
    have hvalues := fields_eq hvalues
    subst hvalues
    simp only [List.map_cons, List.map_nil] at h
    simp only [Option.bind_eq_bind, Option.bind_eq_some_iff] at h
    obtain ⟨baseUrl, hbaseUrl, path, hpath, status, hstatus, header, hheader, id, hid, insecure,
      hinsecure, timeout, htimeout, heq⟩ := h
    cases heq
    have hstatus := map_orElse_eq UInt16.ofNat hstatus
    have htimeout := map_orElse_eq UInt64.ofNat htimeout
    rw [hstatus, htimeout, join_orElse_eq hbaseUrl, orElse_eq hpath, orElse_eq hheader,
      orElse_eq hid, orElse_eq hinsecure]
    rfl

lemma secretNamesOfYaml_eq {root : Node} {record : Option Node} {names : PerField String}
    (h : Decoder.orElse defaultSecretNames secretNamesOfYaml root record = some names) :
    names = {
      tenantId := (ofEntry text root record "tenant-id").getD defaultSecretNames.tenantId
      clientId := (ofEntry text root record "client-id").getD defaultSecretNames.clientId
      clientSecret := (ofEntry text root record "client-secret").getD defaultSecretNames.clientSecret
      audience := (ofEntry text root record "audience").getD defaultSecretNames.audience } := by
  cases record with
  | none =>
    cases h
    rfl
  | some n =>
    have h : secretNamesOfYaml root n = some names := h
    unfold secretNamesOfYaml at h
    obtain ⟨values, hvalues, h⟩ := Option.bind_eq_some_iff.mp h
    have hvalues := fields_eq hvalues
    subst hvalues
    simp only [IdentityField.all, IdentityField.label, List.map_cons, List.map_nil] at h
    simp only [Option.bind_eq_bind, Option.bind_eq_some_iff] at h
    obtain ⟨tenantId, htenant, clientId, hclient, clientSecret, hsecret, audience, haudience, heq⟩ := h
    cases heq
    rw [orElse_eq htenant, orElse_eq hclient, orElse_eq hsecret, orElse_eq haudience]
    rfl

lemma IdentityConfig.ofYaml_eq {root : Node} {record : Option Node} {i : IdentityConfig}
    (h : Decoder.orElse {} IdentityConfig.ofYaml root record = some i) :
    i = {
      authorityHost :=
        (ofEntry text root record "authority-host").getD ({} : IdentityConfig).authorityHost
      scopes := (ofEntry (list text) root record "scopes").getD ({} : IdentityConfig).scopes } := by
  cases record with
  | none =>
    cases h
    rfl
  | some n =>
    have h : IdentityConfig.ofYaml root n = some i := h
    unfold IdentityConfig.ofYaml at h
    obtain ⟨values, hvalues, h⟩ := Option.bind_eq_some_iff.mp h
    have hvalues := fields_eq hvalues
    subst hvalues
    simp only [List.map_cons, List.map_nil] at h
    simp only [Option.bind_eq_bind, Option.bind_eq_some_iff] at h
    obtain ⟨host, hhost, scopes, hscopes, heq⟩ := h
    cases heq
    rw [orElse_eq hhost, orElse_eq hscopes]
    rfl

/-- A policy that is read from a record has the two numbers of the record, and the default for a number that
the record leaves out. -/
lemma RetryPolicy.ofYaml_eq {root : Node} {record : Option Node} {p : RetryPolicy}
    (h : Decoder.orElse .default RetryPolicy.ofYaml root record = some p) :
    p.maxAttempts = ((ofEntry (natBelow UInt32.size) root record "max-attempts").map
        UInt32.ofNat).getD defaultMaxAttempts ∧
      p.delay = ((ofEntry (natBelow UInt64.size) root record "delay-ms").map
        fun ms => .ofMillis (.ofNat ms)).getD (.ofMillis defaultDelayMs) := by
  cases record with
  | none =>
    cases h
    exact ⟨rfl, rfl⟩
  | some n =>
    have h : RetryPolicy.ofYaml root n = some p := h
    unfold RetryPolicy.ofYaml at h
    obtain ⟨values, hvalues, h⟩ := Option.bind_eq_some_iff.mp h
    have hvalues := fields_eq hvalues
    subst hvalues
    simp only [fieldNames, List.map_cons, List.map_nil] at h
    obtain ⟨attempts, hattempts, h⟩ := Option.bind_eq_some_iff.mp h
    obtain ⟨delay, hdelay, h⟩ := Option.bind_eq_some_iff.mp h
    rw [eq_bind_of_count? hattempts, eq_bind_of_count? hdelay, ofFields?] at h
    obtain ⟨hattempts, hdelay⟩ := toOption_create_eq_some_iff.mp h
    refine ⟨hattempts, ?_⟩
    rw [hdelay, ← Option.getD_map Span.ofMillis, Option.map_map]
    rfl

namespace JobConfig

/-- A configuration that is read from a document has the settings of the document, over the defaults. -/
lemma settings_of_decode {doc : Document} {c : JobConfig} (h : doc.decode? ofYaml = some c) :
    c.settings = (Settings.ofDocument doc).or .defaults := by
  rw [doc.decode?_eq] at h
  unfold ofYaml at h
  obtain ⟨values, hvalues, h⟩ := Option.bind_eq_some_iff.mp h
  have hvalues := fields_eq hvalues
  subst hvalues
  simp only [List.map_cons, List.map_nil] at h
  simp only [Option.bind_eq_bind, Option.bind_eq_some_iff] at h
  obtain ⟨vault, hvault, target, htarget, retry, hretry, secrets, hsecrets, identity, hidentity,
    heq⟩ := h
  cases heq
  obtain ⟨hattempts, hdelay⟩ := RetryPolicy.ofYaml_eq hretry
  rw [settings, hattempts, hdelay, join_orElse_eq hvault, TargetConfig.ofYaml_eq htarget,
    secretNamesOfYaml_eq hsecrets, IdentityConfig.ofYaml_eq hidentity]
  simp only [Settings.ofDocument, Settings.or, Settings.defaults, settings, Document.says?,
    Node.at?_singleton, Node.at?_pair, Option.or_some, Option.or_none, PerField.map]
  rfl

end JobConfig

end

end Reindex
