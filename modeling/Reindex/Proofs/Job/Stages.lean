import Reindex.Proofs.Job.Course

/-!
# The stages of a run

No stage of a run is left out, none is repeated and none comes too early. `JobConfig.KeepsStages` says
stage by stage what can have been sent and what must have happened before, and what the result of the
run says about its stages. Every run is like that.
-/

namespace Reindex

open Http (Message Request)

variable {σ : Type}

namespace JobConfig

/-- The stage that a run which does not succeed ends in. -/
def lastStage (c : JobConfig) (k : StoreCredential) (s : Session σ) : String :=
  match JobPlan.ofConfig c with
  | .error _ => "configuration"
  | .ok plan =>
    match k.answer s with
    | .error _ => "secrets"
    | .ok key =>
      match (plan.secrets k s key).result with
      | .error _ => "secrets"
      | .ok entries =>
        match ClientIdentity.ofSecrets plan.names ⟨entries⟩ with
        | .error _ => "credential"
        | .ok identity =>
          match (plan.grant c.identity.scopes k s key identity).result with
          | .error _ => "authentication"
          | .ok _ => "request"

/-- The messages and the result of a run keep to its stages. -/
structure KeepsStages (c : JobConfig) (k : StoreCredential) (s : Session σ) (sent : StagedMessages)
    (result : Except JobError UInt16) : Prop where
  /-- If there is a plan, the run begins with the credential's own requests. -/
  credential : sent.credential =
    if (JobPlan.ofConfig c).isOk then (k.asked s).messages else []
  /-- Only a token opens the vault. The secrets are asked for in the order of their names, and none is
  left out in between. -/
  vault : sent.vault ≠ [] → ∃ plan key asked, c.Unlocks k s plan key ∧ asked <+: plan.distinctNames ∧
    sent.vault.map some =
      asked.map fun name => (Vault.question? plan.vault key name).map Request.recorded
  /-- The identity asks for its token at most once. -/
  token_length : sent.token.length ≤ 1
  /-- The identity asks for its token only if there is a value for every name and no field is blank. -/
  token : sent.token ≠ [] → ∃ plan key entries identity r,
    c.Identifies k s plan key entries identity ∧ entries.map Prod.fst = plan.distinctNames ∧
    (∀ field, ∃ value, (plan.names.get field, value) ∈ entries ∧ value.isBlank = false) ∧
    TokenProvider.question? plan.authority identity c.identity.scopes = some r ∧
    sent.token = [r.recorded]
  /-- The request is made no more often than the policy allows. -/
  target_length : sent.target.length ≤ c.retry.maxAttempts.toNat
  /-- The request is made only if the answer to the question for the token has one that is not blank. -/
  target : sent.target ≠ [] → ∃ plan key entries identity token r answer i,
    c.Grants k s plan key entries identity token ∧ sent.token = [r.recorded] ∧
    ((plan.secrets k s key).network.exchange r).outcome = .ok answer ∧
    TokenAnswer.read (k.asked s).now answer = .ok token ∧ token.value.isBlank = false ∧
    sent.target = List.replicate i (plan.spec.request token).recorded
  /-- The request is made at least once if it can be made, over a network that gives answers. -/
  target_ne_nil : ∀ {plan key entries identity token},
    c.Grants k s plan key entries identity token → Http.isHeaderValue token.bearer = true →
    plan.spec.url.scheme = "http" → (plan.spec.request token).hasValidUrl = true →
    s.network.isScripted = true → sent.target ≠ []
  /-- A run succeeds with the expected status, and the last request was answered with it. -/
  success : ∀ {status}, result = .ok status → status = c.target.expectedStatus ∧
    ∃ plan key entries identity token i answer, c.Grants k s plan key entries identity token ∧
      sent.target = List.replicate (i + 1) (plan.spec.request token).recorded ∧
      (((plan.grant c.identity.scopes k s key identity).network.after
        (List.replicate i (plan.spec.request token))).exchange (plan.spec.request token)).outcome =
          .ok answer ∧ UInt16.ofNat answer.status = status
  /-- A run that the configuration is to blame for sends nothing. -/
  configuration : ∀ {e}, result = .error e → e.stage = "configuration" → sent.all = []
  /-- A run that fails names the stage in which it fails. -/
  stage : ∀ {e}, result = .error e → e.stage = c.lastStage k s

/-! ### What went before is settled -/

variable {c : JobConfig} {k : StoreCredential} {s : Session σ}

lemma Unlocks.exists_asked {plan : JobPlan} {key : AccessToken} (_ : c.Unlocks k s plan key) :
    ∃ asked, asked <+: plan.distinctNames ∧ (plan.secrets k s key).sent.map some =
      asked.map fun name => (Vault.question? plan.vault key name).map Request.recorded :=
  (plan.shown k : Vault σ).exists_prefix_sent_batch key plan.distinctNames (k.asked s).network

lemma Identifies.names_eq {plan : JobPlan} {key : AccessToken}
    {entries : List (SecretName × SecretValue)} {identity : ClientIdentity}
    (h : c.Identifies k s plan key entries identity) : entries.map Prod.fst = plan.distinctNames :=
  (Vault.batch_of_ok h.read).1

/-- The request of an unlocked plan can be sent if the token can be shown and the URL can be asked for. -/
lemma Unlocks.isSendable {plan : JobPlan} {key : AccessToken} (h : c.Unlocks k s plan key)
    {token : AccessToken} (htoken : Http.isHeaderValue token.bearer = true)
    (hscheme : plan.spec.url.scheme = "http") (hurl : (plan.spec.request token).hasValidUrl = true) :
    (plan.spec.request token).isSendable = true := by
  obtain ⟨-, -, -, hspec, -⟩ := JobPlan.ofConfig_eq_ok_iff.mp h.planned
  obtain ⟨base, field, -, -, -, hvalue, hspec⟩ := RequestSpec.ofConfig_eq_ok_iff.mp hspec
  have hhttp : (plan.spec.request token).url.scheme = "http" := hscheme
  have hvalid : (plan.spec.request token).hasValidHeaders = true := by
    simp only [Request.hasValidHeaders, RequestSpec.request, Request.get]
    rw [hspec]
    simp only [List.cons_append, List.nil_append, List.all_cons, List.all_nil, htoken, hvalue,
      Bool.and_true, Bool.true_and]
    decide
  rw [Request.isSendable, hvalid, hurl, hhttp]
  rfl

lemma Grants.isScripted {plan : JobPlan} {key : AccessToken}
    {entries : List (SecretName × SecretValue)} {identity : ClientIdentity} {token : AccessToken}
    (_ : c.Grants k s plan key entries identity token) :
    (plan.grant c.identity.scopes k s key identity).network.isScripted = s.network.isScripted := by
  simp only [JobPlan.grant, JobPlan.secrets]
  rw [TokenProvider.isScripted_acquisition, Vault.isScripted_batch]
  exact (k.plain_token [Vault.scope]).isScripted s.fresh

namespace Course

variable {sent : StagedMessages} {result : Except JobError UInt16}

lemma credential_eq (h : c.Course k s sent result) :
    sent.credential = if (JobPlan.ofConfig c).isOk then (k.asked s).messages else [] := by
  cases h with
  | unplanned h => rw [h]; rfl
  | locked hplan => rw [hplan]; rfl
  | unread hkey => rw [hkey.planned]; rfl
  | incomplete hkey => rw [hkey.planned]; rfl
  | ungranted hidentity => rw [hidentity.planned]; rfl
  | attempted hgrant => rw [hgrant.planned]; rfl

lemma of_vault_ne_nil (h : c.Course k s sent result) (hsent : sent.vault ≠ []) :
    ∃ plan key, c.Unlocks k s plan key ∧ sent.vault = (plan.secrets k s key).sent := by
  cases h with
  | unplanned => exact absurd rfl hsent
  | locked => exact absurd rfl hsent
  | unread hkey => exact ⟨_, _, hkey, rfl⟩
  | incomplete hkey => exact ⟨_, _, hkey, rfl⟩
  | ungranted hidentity => exact ⟨_, _, hidentity.toUnlocks, rfl⟩
  | attempted hgrant => exact ⟨_, _, hgrant.toUnlocks, rfl⟩

lemma of_token_ne_nil (h : c.Course k s sent result) (hsent : sent.token ≠ []) :
    ∃ plan key entries identity, c.Identifies k s plan key entries identity ∧
      sent.token = (plan.grant c.identity.scopes k s key identity).sent := by
  cases h with
  | unplanned => exact absurd rfl hsent
  | locked => exact absurd rfl hsent
  | unread => exact absurd rfl hsent
  | incomplete => exact absurd rfl hsent
  | ungranted hidentity => exact ⟨_, _, _, _, hidentity, rfl⟩
  | attempted hgrant => exact ⟨_, _, _, _, hgrant.toIdentifies, rfl⟩

lemma of_target_ne_nil (h : c.Course k s sent result) (hsent : sent.target ≠ []) :
    ∃ plan key entries identity token, c.Grants k s plan key entries identity token ∧
      sent.token = (plan.grant c.identity.scopes k s key identity).sent ∧
      sent.target = (plan.spec.attempts token (c.retry.maxAttempts.toNat - 1)
        (plan.grant c.identity.scopes k s key identity).network).sent := by
  cases h with
  | unplanned => exact absurd rfl hsent
  | locked => exact absurd rfl hsent
  | unread => exact absurd rfl hsent
  | incomplete => exact absurd rfl hsent
  | ungranted => exact absurd rfl hsent
  | attempted hgrant => exact ⟨_, _, _, _, _, hgrant, rfl, rfl⟩

lemma of_grants {plan : JobPlan} {key : AccessToken} {entries : List (SecretName × SecretValue)}
    {identity : ClientIdentity} {token : AccessToken} (h : c.Course k s sent result)
    (hgrant : c.Grants k s plan key entries identity token) :
    sent.target = (plan.spec.attempts token (c.retry.maxAttempts.toNat - 1)
      (plan.grant c.identity.scopes k s key identity).network).sent := by
  cases h with
  | unplanned h => exact absurd (h.symm.trans hgrant.planned) nofun
  | locked hplan h => exact absurd (h.symm.trans hgrant.unlocked) nofun
  | unread hkey h =>
    obtain ⟨rfl, rfl⟩ := hkey.unique hgrant.toUnlocks
    exact absurd (h.symm.trans hgrant.read) nofun
  | incomplete hkey hread h =>
    obtain ⟨rfl, rfl⟩ := hkey.unique hgrant.toUnlocks
    obtain rfl := Except.ok.inj (hread.symm.trans hgrant.read)
    exact absurd (h.symm.trans hgrant.identified) nofun
  | ungranted hidentity h =>
    obtain ⟨rfl, rfl, rfl, rfl⟩ := hidentity.unique hgrant.toIdentifies
    exact absurd (h.symm.trans hgrant.granted) nofun
  | attempted hgrant' =>
    obtain ⟨rfl, rfl, rfl, rfl, rfl⟩ := hgrant.unique hgrant'
    rfl

lemma of_result_ok {status : UInt16} (h : c.Course k s sent (.ok status)) :
    ∃ plan key entries identity token, c.Grants k s plan key entries identity token ∧
      sent.target = (plan.spec.attempts token (c.retry.maxAttempts.toNat - 1)
        (plan.grant c.identity.scopes k s key identity).network).sent ∧
      (plan.spec.attempts token (c.retry.maxAttempts.toNat - 1)
        (plan.grant c.identity.scopes k s key identity).network).result = .ok status := by
  cases h with
  | attempted hgrant h =>
    refine ⟨_, _, _, _, _, hgrant, rfl, ?_⟩
    split at h
    · rename_i hresult
      cases h
      exact hresult
    · obtain ⟨made, h⟩ := h
      cases h

lemma stage_of_isOfVault {e : SecretError} (h : e.isOfVault = true) :
    (JobError.secrets e).stage = "secrets" := by
  cases e <;> first | rfl | cases h

/-- The stage that an error names is the one in which the run came to its end. -/
lemma stage_eq {e : JobError} (h : c.Course k s sent (.error e)) : e.stage = c.lastStage k s := by
  simp only [lastStage]
  cases h with
  | unplanned h =>
    obtain ⟨message, rfl⟩ := JobPlan.exists_configuration_of_ofConfig h
    rw [h]
    rfl
  | locked hplan h =>
    simp only [hplan, h]
    rfl
  | unread hkey h =>
    simp only [hkey.planned, hkey.unlocked, h]
    exact stage_of_isOfVault (Vault.isOfVault_of_batch h)
  | incomplete hkey hread h =>
    simp only [hkey.planned, hkey.unlocked, hread, h]
    rfl
  | ungranted hidentity h =>
    simp only [hidentity.planned, hidentity.unlocked, hidentity.read, hidentity.identified, h]
    rfl
  | attempted hgrant h =>
    simp only [hgrant.planned, hgrant.unlocked, hgrant.read, hgrant.identified, hgrant.granted]
    split at h
    · cases h
    · obtain ⟨made, h⟩ := h
      cases h
      rfl

lemma all_eq_nil {e : JobError} (h : c.Course k s sent (.error e))
    (he : e.stage = "configuration") : sent.all = [] := by
  cases h with
  | unplanned => rfl
  | locked => exact absurd he (by simp [JobError.stage])
  | unread hkey h =>
    rw [stage_of_isOfVault (Vault.isOfVault_of_batch h)] at he
    exact absurd he (by decide)
  | incomplete => exact absurd he (by simp [JobError.stage])
  | ungranted => exact absurd he (by simp [JobError.stage])
  | attempted hgrant h =>
    split at h
    · cases h
    · obtain ⟨made, h⟩ := h
      cases h
      exact absurd he (by simp [JobError.stage])

lemma target_length_le (h : c.Course k s sent result) :
    sent.target.length ≤ c.retry.maxAttempts.toNat := by
  by_cases hsent : sent.target = []
  · rw [hsent]
    exact Nat.zero_le _
  · obtain ⟨plan, key, entries, identity, token, -, -, htarget⟩ := h.of_target_ne_nil hsent
    obtain ⟨i, hi, hreplicate⟩ := plan.spec.exists_sent_attempts token
      (c.retry.maxAttempts.toNat - 1) (plan.grant c.identity.scopes k s key identity).network
    have hpos : 0 < c.retry.maxAttempts.toNat := UInt32.lt_iff_toNat_lt.mp c.retry.maxAttempts_pos
    rw [htarget, hreplicate, List.length_replicate]
    omega

lemma token_length_le (h : c.Course k s sent result) : sent.token.length ≤ 1 := by
  by_cases hsent : sent.token = []
  · rw [hsent]
    exact Nat.zero_le 1
  · obtain ⟨plan, key, entries, identity, -, htoken⟩ := h.of_token_ne_nil hsent
    rw [htoken]
    rcases TokenProvider.sent_acquisition plan.authority identity c.identity.scopes
      (k.asked s).now (plan.secrets k s key).network with hnone | ⟨r, -, hone⟩
    · exact le_of_eq_of_le (congrArg List.length hnone) (Nat.zero_le 1)
    · exact le_of_eq (congrArg List.length hone)

lemma keepsStages (h : c.Course k s sent result) : c.KeepsStages k s sent result where
  credential := h.credential_eq
  vault hsent := by
    obtain ⟨plan, key, hkey, hvault⟩ := h.of_vault_ne_nil hsent
    obtain ⟨asked, hprefix, hquestions⟩ := hkey.exists_asked
    exact ⟨plan, key, asked, hkey, hprefix, hvault ▸ hquestions⟩
  token_length := h.token_length_le
  token hsent := by
    obtain ⟨plan, key, entries, identity, hidentity, htoken⟩ := h.of_token_ne_nil hsent
    have hacquired := TokenProvider.sent_acquisition plan.authority identity c.identity.scopes
      (k.asked s).now (plan.secrets k s key).network
    rcases hacquired with hnone | ⟨r, hquestion, hone⟩
    · exact absurd (htoken.trans hnone) hsent
    · refine ⟨plan, key, entries, identity, r, hidentity, hidentity.names_eq, fun field => ?_,
        hquestion, htoken.trans hone⟩
      obtain ⟨value, hvalue, hblank⟩ :=
        ClientIdentity.exists_value_of_ofSecrets hidentity.identified field
      exact ⟨value, ResolvedSecrets.mem_of_get? hvalue, hblank⟩
  target_length := h.target_length_le
  target hsent := by
    obtain ⟨plan, key, entries, identity, token, hgrant, htoken, htarget⟩ :=
      h.of_target_ne_nil hsent
    obtain ⟨r, answer, -, hone, houtcome, hread⟩ :=
      TokenProvider.exists_answer_of_acquisition hgrant.granted
    obtain ⟨i, -, hreplicate⟩ := plan.spec.exists_sent_attempts token
      (c.retry.maxAttempts.toNat - 1) (plan.grant c.identity.scopes k s key identity).network
    exact ⟨plan, key, entries, identity, token, r, answer, i, hgrant, htoken.trans hone, houtcome,
      hread, TokenAnswer.not_isBlank_of_read hread, htarget.trans hreplicate⟩
  target_ne_nil hgrant htoken hscheme hurl hscripted := by
    rw [h.of_grants hgrant]
    refine RequestSpec.sent_attempts_ne_nil htoken ?_ _
    rw [Http.Network.carries, hgrant.isScripted, hscripted,
      hgrant.toUnlocks.isSendable htoken hscheme hurl]
    rfl
  success hresult := by
    subst hresult
    obtain ⟨plan, key, entries, identity, token, hgrant, htarget, hsuccess⟩ := h.of_result_ok
    obtain ⟨-, -, -, hspec, -⟩ := JobPlan.ofConfig_eq_ok_iff.mp hgrant.planned
    obtain ⟨base, field, -, -, -, -, hspec⟩ := RequestSpec.ofConfig_eq_ok_iff.mp hspec
    obtain ⟨hstatus, i, answer, hreplicate, houtcome, hanswer⟩ :=
      RequestSpec.exists_answer_of_attempts _ _ hsuccess
    exact ⟨hstatus.trans (congrArg RequestSpec.expectedStatus hspec), plan, key, entries, identity, token, i,
      answer, hgrant, htarget.trans hreplicate, houtcome, hanswer⟩
  configuration hresult he := by
    subst hresult
    exact h.all_eq_nil he
  stage hresult := by
    subst hresult
    exact h.stage_eq

end Course

/-- Every run keeps to its stages, whatever is configured, whoever opens the vault and whatever is
answered. -/
theorem run_keepsStages (c : JobConfig) (k : StoreCredential) (s : Session σ) :
    ∃ sent : StagedMessages,
      (c.run k.credential s).2.messages =
        s.messages ++ (sent.credential ++ sent.vault ++ sent.token ++ sent.target) ∧
      c.KeepsStages k s sent (c.run k.credential s).1 := by
  obtain ⟨sent, hmessages, hcourse⟩ := c.exists_course k s
  exact ⟨sent, hmessages, hcourse.keepsStages⟩

/-! ### A target that cannot be asked -/

/-- A configuration whose target has a host that no request can be made to, although it is the host of
a URL. -/
def unaskable : JobConfig where
  keyVaultUri := some "http://v"
  target := { baseUrl := some "http://a\x7bb" }
  identity := { authorityHost := "http://w" }

/-- A network that answers every question for a secret and the one for a token. -/
def generous : Session Unit where
  network :=
    let value := .response ⟨200, ⟨Text.Utf8.encode "\x7b\"value\":\"x\"\x7d", true⟩⟩
    let token := .response ⟨200, ⟨Text.Utf8.encode "\x7b\"access_token\":\"t\"\x7d", true⟩⟩
    .scripted [value, value, value, value, token]
  files := ⟨[]⟩
  now := ⟨0⟩
  parts := ()

/-- A token that can be sent and an `http` URL do not mean that anything is sent there. -/
theorem unaskable_sends_nothing :
    ∃ plan key entries identity token,
      unaskable.Grants (.single (.fixed ⟨⟨"k"⟩, none⟩)) generous plan key entries identity token ∧
        Http.isHeaderValue token.bearer = true ∧ plan.spec.url.scheme = "http" ∧
        generous.network.isScripted = true ∧
        ∀ m ∈ (unaskable.run (.fixed ⟨⟨"k"⟩, none⟩) generous).2.messages,
          m.target ≠ plan.spec.url.requestText := by
  obtain ⟨plan, key, entries, identity, token, hgrant, h⟩ :=
    exists_grants_of_token? (c := unaskable) (s := generous)
      (k := .single (.fixed ⟨⟨"k"⟩, none⟩)) (p := fun plan token =>
        Http.isHeaderValue token.bearer && plan.spec.url.scheme = "http" &&
          (unaskable.run (.fixed ⟨⟨"k"⟩, none⟩) generous).2.messages.all fun m =>
            m.target ≠ plan.spec.url.requestText) (by decide +kernel)
  simp only [Bool.and_eq_true, decide_eq_true_eq, List.all_eq_true] at h
  exact ⟨plan, key, entries, identity, token, hgrant, h.1.1, h.1.2, rfl, h.2⟩

end JobConfig

end Reindex
