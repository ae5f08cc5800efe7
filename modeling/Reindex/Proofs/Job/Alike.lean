import Reindex.Proofs.Identity.Alike
import Reindex.Proofs.Job.Course
import Reindex.Proofs.Target.Alike

/-!
# Two runs of a job

Two runs that differ in the secrets they read and in the tokens they get go the same way, stage by
stage: if one gets further, so does the other.
-/

namespace Reindex

open Http (Message)

open Work (Related Alike)

variable {σ : Type}

namespace JobPlan

/-- If the tokens for the vault are alike, `identify` comes to an identity in both runs, or fails in the
same way in both. -/
lemma identify_alike (p : JobPlan) {k k' : StoreCredential} (hk : k.Alike k') {s s' : Session σ}
    (h : ∀ {key key'}, k.answer s = .ok key → k'.answer s' = .ok key' → key.Alike key') :
    Related (Session.AlikeBehind s s') Session.Alike (Agree fun _ _ => True)
      (p.identify k.credential) (p.identify k'.credential) := by
  have htoken : Related (Session.AlikeBehind s s') Session.Alike (Agree AccessToken.Alike)
      (k.credential.token [Vault.scope]) (k'.credential.token [Vault.scope]) := by
    refine ((hk.token [Vault.scope]).behind (k.plain_token _).ignoresPast
      (k'.plain_token _).ignoresPast s s').mono ?_
    rintro answer answer' ⟨hanswer, heq, heq'⟩
    cases hanswer with
    | error e => exact .error e
    | ok _ => exact .ok (h heq.symm heq'.symm)
  unfold identify
  rw [hk.name_eq]
  apply (Alike.log_behind rfl).seq
  have hresolve := @Vault.resolve_alike σ ⟨p.vault, k.credential⟩ ⟨p.vault, k'.credential⟩ rfl hk.name_eq
    s s' htoken p.names.toList p.names_ne_nil
  refine hresolve.bind fun result result' hresult => ?_
  cases hresult with
  | error e => exact .pure (.error _)
  | ok hsecrets =>
    refine (Alike.log rfl).seq (.pure ?_)
    exact (ClientIdentity.ofSecrets_agree p.names hsecrets).mapError _

lemma authenticate_alike (p : JobPlan) (i i' : ClientIdentity) (scopes : List String)
    (h : ∀ r r', TokenProvider.question? p.authority i scopes = some r →
      TokenProvider.question? p.authority i' scopes = some r' → r.hasValidUrl = r'.hasValidUrl) :
    Alike (Agree fun _ _ => True) (p.authenticate i scopes : Work σ _) (p.authenticate i' scopes) := by
  refine (TokenProvider.acquire_alike p.authority i i' scopes h).bind fun result result' hresult => ?_
  exact .pure (hresult.mapError _)

lemma request_alike (p : JobPlan) (policy : RetryPolicy) {token token' : AccessToken}
    (h : token.Alike token') :
    Alike Eq (p.request policy token : Work σ _) (p.request policy token') := by
  refine (p.spec.execute_alike policy h).bind fun outcome outcome' houtcome => ?_
  subst houtcome
  cases outcome with
  | success status => exact .pure rfl
  | failure attempts e => exact .pure rfl

end JobPlan

namespace JobConfig

/-! ### The stages of a run -/

variable {c : JobConfig} {k k' : StoreCredential} {s s' : Session σ}

/-- An identity that a run gets is the one that its secrets make up. -/
lemma exists_identifies_of_identify {plan : JobPlan} {identity : ClientIdentity}
    (hplan : JobPlan.ofConfig c = .ok plan)
    (h : (plan.identify k.credential s).1 = .ok identity) :
    ∃ key entries, c.Identifies k s plan key entries identity ∧
      (plan.identify k.credential s).2.network = (plan.secrets k s key).network ∧
      (plan.identify k.credential s).2.now = (k.asked s).now := by
  cases hkey : k.answer s with
  | error e =>
    obtain ⟨s₁, hidentify, -⟩ := plan.identify_of_locked hkey
    rw [hidentify] at h
    cases h
  | ok key =>
    obtain ⟨s₁, hidentify, -, hnetwork, hnow⟩ := plan.identify_of_unlocked hkey
    rw [hidentify] at h ⊢
    cases hread : (plan.secrets k s key).result with
    | error e =>
      rw [hread] at h
      cases h
    | ok entries =>
      rw [hread] at h
      exact ⟨key, entries, ⟨⟨hplan, hkey⟩, hread, mapError_eq_ok.mp h⟩, hnetwork, hnow⟩

/-- A token that the identity of a run gets is the one that the authority grants it. -/
lemma grants_of_authenticate {plan : JobPlan} {key token : AccessToken}
    {entries : List (SecretName × SecretValue)} {identity : ClientIdentity} {s₁ : Session σ}
    (hidentity : c.Identifies k s plan key entries identity)
    (hnetwork : s₁.network = (plan.secrets k s key).network) (hnow : s₁.now = (k.asked s).now)
    (h : (plan.authenticate identity c.identity.scopes s₁).1 = .ok token) :
    c.Grants k s plan key entries identity token := by
  obtain ⟨s₂, hacquire, -⟩ :=
    TokenProvider.acquire_apply plan.authority identity c.identity.scopes s₁
  simp only [JobPlan.authenticate] at h
  simp only [Work.bind_apply, hacquire, Work.pure_apply, hnetwork, hnow] at h
  exact ⟨hidentity, mapError_eq_ok.mp h⟩

/-! ### Two runs -/

/-- The tokens that two runs show can all be shown, or those of one run can exactly where those of the
other can. -/
structure ShowsAlike (c : JobConfig) (k k' : StoreCredential) (s s' : Session σ) : Prop where
  key : ∀ {plan key key'}, c.Unlocks k s plan key → c.Unlocks k' s' plan key' → key.Alike key'
  token : ∀ {plan key key' entries entries' identity identity' token token'},
    c.Grants k s plan key entries identity token →
    c.Grants k' s' plan key' entries' identity' token' → token.Alike token'

/-- The places where the identities of two runs ask for their tokens can be asked for in both runs or
in neither. -/
def AsksAlike (c : JobConfig) (k k' : StoreCredential) (s s' : Session σ) : Prop :=
  ∀ {plan key key' entries entries' identity identity'},
    c.Identifies k s plan key entries identity → c.Identifies k' s' plan key' entries' identity' →
    ∀ r r', TokenProvider.question? plan.authority identity c.identity.scopes = some r →
      TokenProvider.question? plan.authority identity' c.identity.scopes = some r' →
      r.hasValidUrl = r'.hasValidUrl

/-- The runs come to the same result in sessions that are alike. -/
lemma run_alike (hk : k.Alike k') (hs : s.Alike s') (hshown : c.ShowsAlike k k' s s')
    (hasked : c.AsksAlike k k' s s') :
    (c.run k.credential s).1 = (c.run k'.credential s').1 ∧
      (c.run k.credential s).2.Alike (c.run k'.credential s').2 := by
  simp only [run]
  cases hplan : JobPlan.ofConfig c with
  | error e => exact ⟨rfl, hs⟩
  | ok plan =>
    obtain ⟨hresult, hs₁⟩ := plan.identify_alike hk (fun hkey hkey' =>
      hshown.key ⟨hplan, hkey⟩ ⟨hplan, hkey'⟩) s s' ⟨hs, rfl, rfl⟩
    simp only [Work.bind_apply]
    obtain ⟨e, hfirst, hfirst'⟩ | ⟨identity, identity', hfirst, hfirst', -⟩ :=
      hresult.eq_error_or_eq_ok
    · simp only [hfirst, hfirst', Work.pure_apply, true_and]
      exact hs₁
    obtain ⟨key, entries, hidentity, hnetwork, hnow⟩ :=
      exists_identifies_of_identify hplan hfirst
    obtain ⟨key', entries', hidentity', hnetwork', hnow'⟩ :=
      exists_identifies_of_identify hplan hfirst'
    obtain ⟨hresult, hs₂⟩ := plan.authenticate_alike identity identity' c.identity.scopes
      (hasked hidentity hidentity') _ _ hs₁
    simp only [hfirst, hfirst', Work.bind_apply]
    obtain ⟨e, hsecond, hsecond'⟩ | ⟨token, token', hsecond, hsecond', -⟩ :=
      hresult.eq_error_or_eq_ok
    · simp only [hsecond, hsecond', Work.pure_apply, true_and]
      exact hs₂
    have hgrant := grants_of_authenticate hidentity hnetwork hnow hsecond
    have hgrant' := grants_of_authenticate hidentity' hnetwork' hnow' hsecond'
    simp only [hsecond, hsecond']
    exact plan.request_alike c.retry (hshown.token hgrant hgrant') _ _ hs₂

end JobConfig

end Reindex
