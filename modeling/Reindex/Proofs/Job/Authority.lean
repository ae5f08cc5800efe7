import Reindex.Proofs.Identity.Authority
import Reindex.Proofs.Job.Stages

/-!
# What a run finds out too late

Before a run sends anything it has read the address of the authority, so that this is a URL. Whether the
authority can be asked for a token is seen only when the identity asks it, after the secrets were read.
-/

namespace Reindex

variable {σ : Type}

namespace JobConfig

variable {c : JobConfig} {k : StoreCredential} {s : Session σ}

/-- A run that sends anything has a plan. -/
lemma exists_plan_of_sent (h : (c.run k.credential s).2.messages ≠ s.messages) :
    ∃ plan, JobPlan.ofConfig c = .ok plan := by
  cases hplan : JobPlan.ofConfig c with
  | error e =>
    simp only [run] at h
    rw [hplan] at h
    exact absurd rfl h
  | ok plan => exact ⟨plan, rfl⟩

/-- A run that has come to an identity blames the authority for what getting the token comes to. -/
lemma Course.result_of_identifies {sent : StagedMessages} {result : Except JobError UInt16}
    (h : c.Course k s sent result) {plan : JobPlan} {key : AccessToken}
    {entries : List (SecretName × SecretValue)} {identity : ClientIdentity}
    (hidentity : c.Identifies k s plan key entries identity) (e : AuthError) :
    result = .error (.authentication e) ↔
      (plan.grant c.identity.scopes k s key identity).result = .error e := by
  cases h with
  | unplanned h => exact absurd (h.symm.trans hidentity.planned) nofun
  | locked _ h => exact absurd (h.symm.trans hidentity.unlocked) nofun
  | unread hkey h =>
    obtain ⟨rfl, rfl⟩ := hkey.unique hidentity.toUnlocks
    exact absurd (h.symm.trans hidentity.read) nofun
  | incomplete hkey hread h =>
    obtain ⟨rfl, rfl⟩ := hkey.unique hidentity.toUnlocks
    obtain rfl := Except.ok.inj (hread.symm.trans hidentity.read)
    exact absurd (h.symm.trans hidentity.identified) nofun
  | ungranted hidentity' h =>
    obtain ⟨rfl, rfl, rfl, rfl⟩ := hidentity.unique hidentity'
    rw [h, Except.error.injEq, Except.error.injEq, JobError.authentication.injEq]
  | attempted hgrant h =>
    obtain ⟨rfl, rfl, rfl, rfl⟩ := hidentity.unique hgrant.toIdentifies
    rw [hgrant.granted]
    split at h
    · rw [h]
      exact ⟨nofun, nofun⟩
    · obtain ⟨made, rfl⟩ := h
      exact ⟨nofun, nofun⟩

/-- If a run sends anything, the address of its authority is a URL. If that is an `http` or `https` URL,
there is an endpoint for every tenant, and otherwise there is one if the URL has a path. When the run
has come to an identity, it fails for a reason that shows before the request for the token is sent if
and only if the authority is not one that can be asked or the endpoint of the tenant has too long an
address. -/
theorem authority_of_sent (h : (c.run k.credential s).2.messages ≠ s.messages) :
    ∃ authority, Url.parse c.identity.authorityHost = .ok authority ∧
      (authority.scheme = "http" ∨ authority.scheme = "https" → authority.isFlat = false) ∧
      (∀ tenant, (TokenEndpoint.url authority tenant).isOk = true ↔ authority.isFlat = false) ∧
      ∀ {plan key entries identity}, c.Identifies k s plan key entries identity →
        ((∃ fault, (c.run k.credential s).1 =
            .error (.authentication (.authenticationFailed fault)) ∧ fault.isLocal = true) ↔
          authority.isAskable = false ∨
            ∃ endpoint, TokenEndpoint.url authority identity.tenantId = .ok endpoint ∧
              endpoint.isTooLong = true) := by
  obtain ⟨plan, hplan⟩ := exists_plan_of_sent h
  obtain ⟨-, -, hauthority, -, -⟩ := JobPlan.ofConfig_eq_ok_iff.mp hplan
  have hparse := mapError_eq_ok.mp hauthority
  refine ⟨plan.authority, hparse, Url.isFlat_of_parse hparse,
    TokenEndpoint.isOk_url_iff plan.authority, fun {plan' key entries identity} hidentity => ?_⟩
  obtain rfl := Except.ok.inj (hplan.symm.trans hidentity.planned)
  obtain ⟨sent, -, hcourse⟩ := c.exists_course k s
  simp only [hcourse.result_of_identifies hidentity]
  exact TokenProvider.isLocal_acquisition_iff_of_parse hparse identity c.identity.scopes _ _

/-- Addresses over `http`, so that all that is sent can be seen, and some authority. -/
def visible (authorityHost : String) : JobConfig where
  keyVaultUri := some "http://v"
  target := { baseUrl := some "http://t" }
  identity := { authorityHost := authorityHost }

theorem visible_authority :
    let k : StoreCredential := .single (.fixed ⟨⟨"k"⟩, none⟩)
    ((visible "http://w").run k.credential generous).2.messages ≠ generous.messages ∧
      (∃ plan key entries identity,
        (visible "http://w").Identifies k generous plan key entries identity) ∧
      ∃ authority, Url.parse "http://w" = .ok authority ∧
        (authority.scheme = "http" ∨ authority.scheme = "https" → authority.isFlat = false) ∧
        (∀ tenant, (TokenEndpoint.url authority tenant).isOk = true ↔ authority.isFlat = false) ∧
        ∀ {plan key entries identity},
          (visible "http://w").Identifies k generous plan key entries identity →
          ((∃ fault, ((visible "http://w").run k.credential generous).1 =
              .error (.authentication (.authenticationFailed fault)) ∧ fault.isLocal = true) ↔
            authority.isAskable = false ∨
              ∃ endpoint, TokenEndpoint.url authority identity.tenantId = .ok endpoint ∧
                endpoint.isTooLong = true) := by
  intro k
  have h : ((visible "http://w").run k.credential generous).2.messages ≠ generous.messages := by
    decide +kernel
  obtain ⟨plan, key, entries, identity, _, hgrant, -⟩ :=
    exists_grants_of_token? (c := visible "http://w") (s := generous) (k := k)
      (p := fun _ _ => true) (by decide +kernel)
  exact ⟨h, ⟨plan, key, entries, identity, hgrant.toIdentifies⟩, authority_of_sent h⟩

/-- An authority without a path passes for one: the secrets are read, and only then does it turn out that
there is no endpoint for any tenant. -/
theorem flat_authority_sends :
    ∃ authority, Url.parse "mailto:w" = .ok authority ∧
      (∀ tenant, (TokenEndpoint.url authority tenant).isOk = false) ∧
      ((visible "mailto:w").run (.fixed ⟨⟨"k"⟩, none⟩) generous).1 =
        .error (.authentication (.authenticationFailed (.noPath authority))) ∧
      ((visible "mailto:w").run (.fixed ⟨⟨"k"⟩, none⟩) generous).2.messages.length = 4 := by
  have hparse : Url.parse "mailto:w" = .ok ⟨"mailto", none, .flat "w", none, none⟩ := by
    decide +kernel
  exact ⟨_, hparse, fun _ => rfl, by decide +kernel, by decide +kernel⟩

end JobConfig

end Reindex
