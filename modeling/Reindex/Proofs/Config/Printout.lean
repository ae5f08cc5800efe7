import Reindex.CommandLine.Program
import Reindex.Proofs.Config.Layers
import Reindex.Proofs.Session.Work
import Reindex.Proofs.Text.Utf8
import Reindex.Proofs.Yaml.Reading

/-!
# Configurations that were printed

What the program prints of a configuration is a configuration file, and whoever loads it has the same
configuration again.
-/

namespace Reindex

open Yaml

/-! ### The nodes of a configuration -/

lemma TargetConfig.ofYaml_node (root : Node) (t : TargetConfig) :
    TargetConfig.ofYaml root (Value.record t.toYaml).node = some t := by
  have hstatus := Decoder.natBelow_node root UInt16.size t.expectedStatus.toNat_lt
  have htimeout := Decoder.natBelow_node root UInt64.size t.timeoutSecs.toNat_lt
  unfold TargetConfig.ofYaml
  refine Decoder.fields_node_bind root rfl (by decide) ?_
  simp only [toYaml, List.map_cons, List.map_nil, Option.bind_eq_bind, Decoder.orElse]
  simp only [Decoder.optionalText_node, Value.text, Value.node, Decoder.text_node, hstatus,
    Decoder.bool_node, htimeout, Option.bind_some, UInt16.ofNat_toNat, UInt64.ofNat_toNat]
  rfl

lemma RetryPolicy.fieldKeys_toYaml (p : RetryPolicy) :
    fieldKeys p.toYaml = ["max-attempts", "delay-ms"] := by
  simp only [toYaml, fieldKeys]
  rfl

/-- A policy with a wait in milliseconds is read from the node of its own record. -/
lemma RetryPolicy.ofYaml_node (root : Node) {p : RetryPolicy} (hp : p.IsInMillis) :
    RetryPolicy.ofYaml root (Value.record p.toYaml).node = some p := by
  have hattempts := Decoder.natBelow_node root UInt32.size p.maxAttempts.toNat_lt
  have hdelay := Decoder.natBelow_node root UInt64.size p.delayMs.toNat_lt
  unfold RetryPolicy.ofYaml
  refine Decoder.fields_node_bind root rfl (by decide) ?_
  simp only [toYaml, List.map_cons, List.map_nil, count?, hattempts, hdelay, Option.map_some]
  simp only [ofFields?, Option.bind_eq_bind, Option.bind_some, Option.map_some, Option.getD_some,
    UInt32.ofNat_toNat, UInt64.ofNat_toNat, ← hp.delay_eq, create, p.maxAttempts_pos, dif_pos]
  rfl

lemma secretNamesOfYaml_node (root : Node) (names : PerField String) :
    secretNamesOfYaml root (Value.record (secretNamesToYaml names)).node = some names := by
  unfold secretNamesOfYaml
  refine Decoder.fields_node_bind root rfl (by decide) ?_
  simp only [secretNamesToYaml, IdentityField.all, List.map_cons, List.map_nil, Value.text,
    Value.node, Decoder.orElse, Decoder.text_node, PerField.get]
  rfl

lemma IdentityConfig.ofYaml_node (root : Node) (i : IdentityConfig) :
    IdentityConfig.ofYaml root (Value.record i.toYaml).node = some i := by
  unfold IdentityConfig.ofYaml
  refine Decoder.fields_node_bind root rfl (by decide) ?_
  simp only [toYaml, List.map_cons, List.map_nil, Decoder.orElse, Decoder.list_node]
  rfl

/-- The node that stands for a configuration is read as this configuration. -/
lemma JobConfig.ofYaml_node (root : Node) {c : JobConfig} (hc : c.retry.IsInMillis) :
    JobConfig.ofYaml root (Value.record c.toYaml).node = some c := by
  unfold JobConfig.ofYaml
  refine Decoder.fields_node_bind root rfl (by decide) ?_
  simp only [toYaml, List.map_cons, List.map_nil, Decoder.orElse, Decoder.optionalText_node,
    TargetConfig.ofYaml_node, RetryPolicy.ofYaml_node root hc, secretNamesOfYaml_node,
    IdentityConfig.ofYaml_node]
  rfl

/-! ### Files without anything over them -/

namespace JobConfig

/-- The variables that lie over what a file says. -/
def overridingVariables : List String := configVariables.filter (· ≠ configVariable)

/-- The names in a printed configuration do not depend on what it says, and none needs quotes. -/
lemma isKey_of_mem_fieldKeys (c : JobConfig) : ∀ key ∈ fieldKeys c.toYaml, IsKey key := by
  have hnames : fieldKeys c.toYaml = fieldKeys (toYaml {}) := by
    simp only [toYaml, fieldKeys, Value.keys, RetryPolicy.fieldKeys_toYaml]
    rfl
  rw [hnames]
  decide +kernel

/-- A configuration is written as a text that is read as its node. -/
lemma read?_toYamlText (c : JobConfig) :
    Yaml.read? c.toYamlText = some (.root (Value.record c.toYaml).node) := by
  have hdepth : fieldDepth c.toYaml = 2 := rfl
  exact read?_write (List.cons_ne_nil _ _) c.isKey_of_mem_fieldKeys (by rw [hdepth]; decide)

lemma ofYamlText?_toYamlText {c : JobConfig} (hc : c.retry.IsInMillis) :
    ofYamlText? c.toYamlText = some c := by
  rw [ofYamlText?, c.read?_toYamlText]
  exact ofYaml_node _ hc

lemma override_of_unset (c : JobConfig) {env : Environment}
    (h : ∀ name ∈ overridingVariables, env name = none) : c.override env = .ok c := by
  have hretry : c.retry.withMaxAttempts c.retry.maxAttempts = .ok c.retry :=
    dif_pos c.retry.maxAttempts_pos
  unfold override overrideBy addressOr
  rw [h statusVariable (by decide), h timeoutVariable (by decide), h insecureVariable (by decide),
    h attemptsVariable (by decide), h delayVariable (by decide), h keyVaultVariable (by decide),
    h targetVariable (by decide), h pathVariable (by decide), h partitionVariable (by decide),
    h authorityVariable (by decide)]
  simp only [bind, Except.bind, hretry]
  rfl

/-- A file with the text of a configuration is read as this configuration. -/
lemma ofFile_of_read {c : JobConfig} (hc : c.retry.IsInMillis) {files : Files} {path : String}
    (h : files.read path = .ok (Text.Utf8.encode c.toYamlText)) :
    ofFile files path = .ok c := by
  have hcontains : files.contains path = true := by
    unfold Files.read at h
    unfold Files.contains
    cases hfind : files.find path with
    | error e =>
      rw [hfind] at h
      cases h
    | ok entry => rfl
  unfold ofFile
  rw [hcontains, if_neg (by decide), h]
  dsimp only
  rw [Text.Utf8.decode?_encode]
  dsimp only
  rw [ofYamlText?_toYamlText hc]

/-- The history of the program when it is asked to show the configuration: after some events, the text of
the configuration is printed. -/
lemma history_of_showConfig {σ : Type} {c : JobConfig} {env : Environment}
    {i : CommandLine.Invocation} {s : Session σ} (htask : i.task = .showConfig)
    (hload : load i.config s.files env = .ok c) :
    ∃ said : List LogEvent, (CommandLine.perform env i s).2.history =
      s.history ++ said.map .logged ++ [.printed c.toYamlText] := by
  obtain ⟨said, s', hloaded, hsaid⟩ : ∃ (said : List LogEvent) (s' : Session σ),
      CommandLine.loadConfig i.config env s = (.ok c, s') ∧
        s'.history = s.history ++ said.map .logged := by
    have hget : ∀ f : Session σ → Work σ (Except ConfigError JobConfig), (get >>= f) s = f s s :=
      fun _ => rfl
    unfold CommandLine.loadConfig
    rw [hget]
    cases filePath? i.config env with
    | none => exact ⟨[], s, Prod.ext hload rfl, (List.append_nil _).symm⟩
    | some path =>
      dsimp only
      split
      · exact ⟨[_], _, Prod.ext hload rfl, rfl⟩
      · exact ⟨[], s, Prod.ext hload rfl, (List.append_nil _).symm⟩
  refine ⟨said, ?_⟩
  unfold CommandLine.perform CommandLine.withConfig
  rw [htask]
  simp only [Work.bind_apply, hloaded]
  rw [← hsaid]
  rfl

/-- The file with what is printed of a configuration is loaded as the same configuration, where no variable
lies over the file and the wait between attempts is a number of milliseconds. This is so for every
configuration that was loaded, with or without flags. -/
theorem load_of_showConfig (c : JobConfig) :
    (c.retry.IsInMillis → ∀ {explicit : Option String} {files : Files} {env : Environment} {path : String},
      filePath? explicit env = some path →
      files.read path = .ok (Text.Utf8.encode c.toYamlText) →
      (∀ name ∈ overridingVariables, env name = none) → load explicit files env = .ok c) ∧
    (∀ {explicit : Option String} {files : Files} {env : Environment} {flags : CommandLine.RunFlags},
      (load explicit files env >>= fun c => c.withFlags flags) = .ok c → c.retry.IsInMillis) ∧
    ∀ {σ : Type} {env : Environment} {i : CommandLine.Invocation} {s : Session σ},
      i.task = .showConfig → load i.config s.files env = .ok c →
      ∃ said : List LogEvent, (CommandLine.perform env i s).2.history =
        s.history ++ said.map .logged ++ [.printed c.toYamlText] := by
  refine ⟨?loaded, fun hload => isInMillis_of_load hload, ?shown⟩
  case loaded =>
    intro hc explicit files env path hpath hfile hunset
    rw [load, hpath]
    dsimp only
    rw [ofFile_of_read hc hfile]
    exact c.override_of_unset hunset
  case shown =>
    intro σ env i s htask hload
    exact history_of_showConfig htask hload

/-- A configuration with texts that would be taken for something else without quotes. -/
def awkward : JobConfig where
  keyVaultUri := some "null"
  target := { baseUrl := some "~", path := "a: b\n  # c\n", partitionId := "0123" }
  identity := { scopes := ["- 1e5", ""] }

/-- The configuration `awkward` is loaded from what is printed of it, and then the same is printed again. -/
theorem load_of_showConfig_awkward :
    let files : Files := ⟨[("shown.yaml", .file (Text.Utf8.encode awkward.toYamlText))]⟩
    let env : Environment := fun _ => none
    let i : CommandLine.Invocation := ⟨0, false, some "shown.yaml", .showConfig⟩
    let s : Session Unit := ⟨.scripted [], files, ⟨0⟩, [], ()⟩
    load i.config files env = .ok awkward ∧ awkward.retry.IsInMillis ∧ ∃ said : List LogEvent,
      (CommandLine.perform env i s).2.history =
        said.map .logged ++ [.printed awkward.toYamlText] := by
  intro files env i s
  obtain ⟨hload, hmillis, hshow⟩ := load_of_showConfig awkward
  have hread : files.read "shown.yaml" = .ok (Text.Utf8.encode awkward.toYamlText) := by
    have hfind : files.find "shown.yaml" =
        .ok (.file (Text.Utf8.encode awkward.toYamlText)) := by
      have hshort : ¬ 4096 ≤ "shown.yaml".utf8ByteSize := by decide
      simp [Files.find, files, hshort]
    rw [Files.read, hfind]
    rfl
  have h : load i.config files env = .ok awkward := hload ⟨4000, rfl⟩ rfl hread fun _ _ => rfl
  have hflags : (load i.config files env >>= fun c => c.withFlags {}) = .ok awkward := by
    rw [h]
    rfl
  exact ⟨h, hmillis hflags, hshow rfl h⟩

end JobConfig

end Reindex
