import Mathlib.Tactic.Common
import Reindex.Job.Run
import Reindex.Proofs.Outcome

/-!
# Planning a job

A plan is made of a configuration that passes every check, and where no plan can be made the
configuration is to blame.
-/

namespace Reindex

/-- A text that is not the name of a secret is to blame on the configuration. -/
lemma IdentitySecretNames.exists_invalidName_of_ofConfig {names : PerField String} {e : SecretError}
    (h : ofConfig names = .error e) : ∃ name fault, e = .invalidName name fault := by
  have hcreate : ∀ {s e}, SecretName.create s = .error e → ∃ name fault, e = .invalidName name fault := by
    intro s e h
    obtain ⟨fault, -, rfl⟩ := mapError_eq_error.mp h
    exact ⟨s, fault, rfl⟩
  simp only [ofConfig, PerField.mapM] at h
  obtain h | ⟨_, -, h⟩ := bind_eq_error.mp h
  · exact hcreate h
  obtain h | ⟨_, -, h⟩ := bind_eq_error.mp h
  · exact hcreate h
  obtain h | ⟨_, -, h⟩ := bind_eq_error.mp h
  · exact hcreate h
  obtain h | ⟨_, -, h⟩ := bind_eq_error.mp h
  · exact hcreate h
  · cases h

namespace RequestSpec

lemma create_eq_ok_iff {url : Url} {status : UInt16} {r : RequestSpec} :
    create url status = .ok r ↔
      isStatus status = true ∧ r = { url := url, expectedStatus := status } := by
  simp only [create]
  split
  · rename_i hstatus
    rw [Except.ok.injEq]
    exact ⟨fun h => ⟨hstatus, h.symm⟩, fun h => h.2.symm⟩
  · rename_i hstatus
    exact ⟨nofun, fun h => absurd h.1 hstatus⟩

lemma withHeader_eq_ok_iff {r r' : RequestSpec} {name value : String} :
    r.withHeader name value = .ok r' ↔ ∃ field, Http.headerName? (Text.trim name) = some field ∧
      Http.isHeaderValue value = true ∧ r' = { r with headers := r.headers ++ [(field, value)] } := by
  simp only [withHeader]
  split
  · rename_i hname
    exact ⟨nofun, fun ⟨field, hfield, _⟩ => absurd (hname.symm.trans hfield) nofun⟩
  · rename_i field hname
    split
    · rename_i hvalue
      rw [Except.ok.injEq]
      constructor
      · rintro rfl
        exact ⟨field, hname, hvalue, rfl⟩
      · rintro ⟨field', hfield, -, rfl⟩
        obtain rfl := Option.some.inj (hname.symm.trans hfield)
        rfl
    · rename_i hvalue
      exact ⟨nofun, fun ⟨_, _, h, _⟩ => absurd h hvalue⟩

/-- A request is made of a configuration exactly if the base URL, the status and the header field for the
partition are good, and it has all its parts from there. -/
lemma ofConfig_eq_ok_iff {c : JobConfig} {r : RequestSpec} :
    ofConfig c = .ok r ↔ ∃ base field, c.targetBaseUrl = .ok base ∧
      isStatus c.target.expectedStatus = true ∧
      Http.headerName? (Text.trim c.target.partitionHeader) = some field ∧
      Http.isHeaderValue c.target.partitionId = true ∧
      r = ⟨base.joinPath c.target.path, [(field, c.target.partitionId)], c.target.expectedStatus,
        c.target.timeoutMs, c.target.insecureSkipVerify⟩ := by
  simp only [ofConfig]
  simp only [bind_eq_ok, mapError_eq_ok, create_eq_ok_iff, withHeader_eq_ok_iff]
  constructor
  · rintro ⟨base, hbase, _, ⟨hstatus, rfl⟩, _, ⟨field, hfield, hvalue, rfl⟩, h⟩
    cases h
    exact ⟨base, field, hbase, hstatus, hfield, hvalue, rfl⟩
  · rintro ⟨base, field, hbase, hstatus, hfield, hvalue, rfl⟩
    exact ⟨base, hbase, _, ⟨hstatus, rfl⟩, _, ⟨field, hfield, hvalue, rfl⟩, rfl⟩

end RequestSpec

namespace JobPlan

/-- Every part of a plan is taken from the configuration, which has passed its check. -/
lemma ofConfig_eq_ok_iff {c : JobConfig} {p : JobPlan} :
    ofConfig c = .ok p ↔ c.validate = .ok () ∧ c.keyVaultUrl = .ok p.vault ∧
      c.authorityUrl = .ok p.authority ∧ RequestSpec.ofConfig c = .ok p.spec ∧
      IdentitySecretNames.ofConfig c.secrets = .ok p.names := by
  simp only [ofConfig]
  simp only [bind_eq_ok, mapError_eq_ok]
  constructor
  · rintro ⟨_, hvalid, vault, hvault, authority, hauthority, spec, hspec, names, hnames, h⟩
    cases h
    exact ⟨hvalid, hvault, hauthority, hspec, hnames⟩
  · rintro ⟨hvalid, hvault, hauthority, hspec, hnames⟩
    exact ⟨_, hvalid, _, hvault, _, hauthority, _, hspec, _, hnames, rfl⟩

/-- If there is no plan, the configuration is to blame. -/
lemma exists_configuration_of_ofConfig {c : JobConfig} {e : JobError} (h : ofConfig c = .error e) :
    ∃ message, e = .configuration message := by
  simp only [ofConfig] at h
  simp only [bind_eq_error, mapError_eq_error] at h
  obtain ⟨cause, -, rfl⟩ | ⟨_, -, ⟨cause, -, rfl⟩ | ⟨_, -, ⟨cause, -, rfl⟩ | ⟨_, -,
    ⟨cause, -, rfl⟩ | ⟨_, -, ⟨cause, hnames, rfl⟩ | ⟨_, -, h⟩⟩⟩⟩⟩ := h
  · exact ⟨_, rfl⟩
  · exact ⟨_, rfl⟩
  · exact ⟨_, rfl⟩
  · exact ⟨_, rfl⟩
  · obtain ⟨name, fault, rfl⟩ := IdentitySecretNames.exists_invalidName_of_ofConfig hnames
    exact ⟨_, rfl⟩
  · cases h

end JobPlan

end Reindex
