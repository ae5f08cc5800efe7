import Reindex.Proofs.Job.Course
import Reindex.Proofs.Secret.Name

/-!
# What the check of a configuration leaves open

The check looks at addresses, the status, the timeout, and whether names are blank. It does not look at
the characters of the partition header, of the partition and of the names of the secrets, so a
configuration that passes it may still be the one that a run blames. These characters are all that is
left open.
-/

namespace Reindex

variable {σ : Type}

namespace JobConfig

/-- The partition can be named in a header field of the request. -/
def HasPartitionField (c : JobConfig) : Prop :=
  (Http.headerName? (Text.trim c.target.partitionHeader)).isSome = true ∧
    Http.isHeaderValue c.target.partitionId = true

instance (c : JobConfig) : Decidable c.HasPartitionField := inferInstanceAs (Decidable (_ ∧ _))

/-- All names that a configuration has for its secrets are names of secrets. -/
def HasSecretNames (c : JobConfig) : Prop := ∀ field, IsSecretName (c.secrets.get field)

lemma of_validate {c : JobConfig} (h : c.validate = .ok ()) :
    (∃ vault, c.keyVaultUrl = .ok vault) ∧ (∃ base, c.targetBaseUrl = .ok base) ∧
      (∃ authority, c.authorityUrl = .ok authority) ∧
      100 ≤ c.target.expectedStatus ∧ c.target.expectedStatus ≤ 599 := by
  simp only [validate] at h
  obtain ⟨vault, hvault, h⟩ := bind_eq_ok.mp h
  obtain ⟨base, hbase, h⟩ := bind_eq_ok.mp h
  obtain ⟨authority, hauthority, h⟩ := bind_eq_ok.mp h
  obtain ⟨_, hstatus, -⟩ := bind_eq_ok.mp h
  refine ⟨⟨vault, hvault⟩, ⟨base, hbase⟩, ⟨authority, hauthority⟩, ?_⟩
  simp only [refuse] at hstatus
  split at hstatus
  · cases hstatus
  · simp_all

/-- A configuration that passes `validate` makes a request exactly if it has a header field for the
partition. -/
lemma isOk_spec_iff {c : JobConfig} (h : c.validate = .ok ()) :
    (RequestSpec.ofConfig c).isOk = true ↔ c.HasPartitionField := by
  obtain ⟨-, ⟨base, hbase⟩, -, hlow, hhigh⟩ := of_validate h
  have hstatus : RequestSpec.isStatus c.target.expectedStatus = true := by
    simp only [RequestSpec.isStatus]
    rw [Bool.and_eq_true, decide_eq_true_eq, decide_eq_true_eq]
    exact ⟨hlow, UInt16.le_trans hhigh (by decide)⟩
  simp only [HasPartitionField]
  simp only [isOk_iff_exists, RequestSpec.ofConfig_eq_ok_iff]
  constructor
  · rintro ⟨_, _, field, -, -, hfield, hvalue, -⟩
    exact ⟨Option.isSome_iff_exists.mpr ⟨field, hfield⟩, hvalue⟩
  · rintro ⟨hfield, hvalue⟩
    obtain ⟨field, hfield⟩ := Option.isSome_iff_exists.mp hfield
    exact ⟨_, base, field, hbase, hstatus, hfield, hvalue, rfl⟩

/-- A configuration gives the names of an identity's secrets exactly if all of them are names of secrets.
They are checked one by one. -/
lemma isOk_names_iff (c : JobConfig) :
    (IdentitySecretNames.ofConfig c.secrets).isOk = true ↔ c.HasSecretNames := by
  have hname : ∀ s, IsSecretName s ↔ ∃ name, SecretName.create s = .ok name := fun s =>
    (SecretName.isOk_create_iff s).symm.trans isOk_iff_exists
  simp only [IdentitySecretNames.ofConfig, PerField.mapM, HasSecretNames]
  simp only [isOk_iff_exists, bind_eq_ok, hname]
  constructor
  · rintro ⟨_, tenant, htenant, client, hclient, secret, hsecret, audience, haudience, -⟩ field
    cases field with
    | tenantId => exact ⟨tenant, htenant⟩
    | clientId => exact ⟨client, hclient⟩
    | clientSecret => exact ⟨secret, hsecret⟩
    | audience => exact ⟨audience, haudience⟩
  · intro h
    obtain ⟨tenant, htenant⟩ := h .tenantId
    obtain ⟨client, hclient⟩ := h .clientId
    obtain ⟨secret, hsecret⟩ := h .clientSecret
    obtain ⟨audience, haudience⟩ := h .audience
    exact ⟨_, tenant, htenant, client, hclient, secret, hsecret, audience, haudience, rfl⟩

/-- A configuration that passes `validate` makes a plan exactly if it has a header field for the partition
and names of secrets. -/
lemma isOk_plan_iff {c : JobConfig} (h : c.validate = .ok ()) :
    (JobPlan.ofConfig c).isOk = true ↔ c.HasPartitionField ∧ c.HasSecretNames := by
  obtain ⟨⟨vault, hvault⟩, -, ⟨authority, hauthority⟩, -, -⟩ := of_validate h
  rw [← isOk_spec_iff h, ← isOk_names_iff]
  simp only [isOk_iff_exists, JobPlan.ofConfig_eq_ok_iff]
  constructor
  · rintro ⟨plan, -, -, -, hspec, hnames⟩
    exact ⟨⟨_, hspec⟩, ⟨_, hnames⟩⟩
  · rintro ⟨⟨spec, hspec⟩, ⟨names, hnames⟩⟩
    exact ⟨⟨vault, authority, spec, names⟩, h, hvault, hauthority, hspec, hnames⟩

/-- A run blames the configuration if and only if it cannot be planned. -/
lemma blames_iff (c : JobConfig) (k : StoreCredential) (s : Session σ) :
    (∃ message, (c.run k.credential s).1 = .error (.configuration message)) ↔
      ¬ (JobPlan.ofConfig c).isOk = true := by
  rw [isOk_iff_exists]
  constructor
  · rintro ⟨message, hrun⟩ ⟨plan, hplan⟩
    obtain ⟨sent, -, hcourse⟩ := c.exists_course k s
    rw [hrun] at hcourse
    exact absurd (hcourse.ofConfig_eq_error.symm.trans hplan) nofun
  · intro h
    simp only [run]
    cases hplan : JobPlan.ofConfig c with
    | error e =>
      obtain ⟨message, rfl⟩ := JobPlan.exists_configuration_of_ofConfig hplan
      exact ⟨message, rfl⟩
    | ok plan => exact absurd ⟨plan, hplan⟩ h

/-- A configuration that passes the check makes a request, and names of secrets, exactly if those of its
characters that the check does not look at are as they should be. Exactly then no run blames it,
whoever opens the vault and whatever is answered. -/
theorem checked_iff {c : JobConfig} (h : c.validate = .ok ()) :
    ((RequestSpec.ofConfig c).isOk = true ↔ c.HasPartitionField) ∧
      ((IdentitySecretNames.ofConfig c.secrets).isOk = true ↔ c.HasSecretNames) ∧
      ∀ (σ : Type) (k : StoreCredential) (s : Session σ),
        (∃ message, (c.run k.credential s).1 = .error (.configuration message)) ↔
          ¬ (c.HasPartitionField ∧ c.HasSecretNames) := by
  refine ⟨isOk_spec_iff h, isOk_names_iff c, fun σ k s => ?_⟩
  rw [c.blames_iff k s, isOk_plan_iff h]

/-- Two addresses, and the defaults for everything else. -/
def modest : JobConfig where
  keyVaultUri := some "https://v"
  target := { baseUrl := some "https://t" }

theorem modest_checked_iff :
    modest.validate = .ok () ∧
      ((RequestSpec.ofConfig modest).isOk = true ↔ modest.HasPartitionField) ∧
      ((IdentitySecretNames.ofConfig modest.secrets).isOk = true ↔ modest.HasSecretNames) ∧
      ∀ (σ : Type) (k : StoreCredential) (s : Session σ),
        (∃ message, (modest.run k.credential s).1 = .error (.configuration message)) ↔
          ¬ (modest.HasPartitionField ∧ modest.HasSecretNames) :=
  have h : modest.validate = .ok () := by decide +kernel
  ⟨h, checked_iff h⟩

/-- The configuration `modest`, but the name of one secret has a character that no such name has. -/
def misnamed : JobConfig where
  keyVaultUri := some "https://v"
  target := { baseUrl := some "https://t" }
  secrets := { defaultSecretNames with clientSecret := "sp_password" }

/-- The check finds nothing wrong with the name, and every run blames the configuration for it. -/
theorem misnamed_passes_check :
    misnamed.validate = .ok () ∧ (IdentitySecretNames.ofConfig misnamed.secrets).isOk = false ∧
      ∀ (k : StoreCredential) (s : Session Unit),
        ∃ message, (misnamed.run k.credential s).1 = .error (.configuration message) := by
  refine ⟨by decide +kernel, by decide +kernel, fun k s => ?_⟩
  rw [misnamed.blames_iff k s]
  decide +kernel

end JobConfig

end Reindex
