import Reindex.Proofs.Credential.Source
import Reindex.Proofs.Identity.Acquisition
import Reindex.Proofs.Job.Plan
import Reindex.Proofs.Secret.Assembly
import Reindex.Proofs.Target.Attempts

/-!
# The course of a run

A run has four stages in which requests are made: the credential is asked for a token for the vault,
the secrets are read, the identity gets a token, and the request of the job is attempted. Each stage
begins where the one before it left the network, and only if that one came to a good end.
-/

namespace Reindex

open Http (Message)

variable {σ : Type}

/-- The messages of a run by the stages in which they are sent. -/
structure StagedMessages where
  /-- What the credential sends to get a token for the vault. -/
  credential : List Message := []
  vault : List Message := []
  token : List Message := []
  target : List Message := []

namespace StagedMessages

/-- All messages, stage after stage. -/
def all (m : StagedMessages) : List Message := m.credential ++ m.vault ++ m.token ++ m.target

end StagedMessages

/-! ### What the stages come to -/

namespace StoreCredential

/-- What the credential answers when it is asked for a token for the vault. -/
def answer (k : StoreCredential) (s : Session σ) : Except CredentialError AccessToken :=
  (k.credential.token [Vault.scope] s.fresh).1

/-- The session after the credential was asked, without what was there before. -/
def asked (k : StoreCredential) (s : Session σ) : Session σ :=
  (k.credential.token [Vault.scope] s.fresh).2

end StoreCredential

namespace JobPlan

/-- The names of the secrets, each of them once. -/
def distinctNames (p : JobPlan) : List SecretName := p.names.toList.eraseDups

/-- The vault with the credential that it is shown. -/
def shown (p : JobPlan) (k : StoreCredential) : Vault σ := ⟨p.vault, k.credential⟩

/-- The reads of the secrets with a token: the messages, the network behind them, and the values. -/
def secrets (p : JobPlan) (k : StoreCredential) (s : Session σ) (key : AccessToken) :
    Http.Traffic (Except SecretError (List (SecretName × SecretValue))) :=
  (p.shown k : Vault σ).batch key (k.asked s).network p.distinctNames

/-- The question of an identity for its token: the messages, the network behind them, and the token. -/
def grant (p : JobPlan) (scopes : List String) (k : StoreCredential) (s : Session σ)
    (key : AccessToken) (identity : ClientIdentity) : Http.Traffic (Except AuthError AccessToken) :=
  TokenProvider.acquisition p.authority identity scopes (k.asked s).now (p.secrets k s key).network

end JobPlan

namespace JobConfig

/-- The configuration makes the plan `plan`, and the credential gives the token `key` that opens the vault. -/
structure Unlocks (c : JobConfig) (k : StoreCredential) (s : Session σ) (plan : JobPlan)
    (key : AccessToken) : Prop where
  planned : JobPlan.ofConfig c = .ok plan
  unlocked : k.answer s = .ok key

/-- The secrets in an unlocked vault are `entries`, and they make up the identity `identity`. -/
structure Identifies (c : JobConfig) (k : StoreCredential) (s : Session σ) (plan : JobPlan)
    (key : AccessToken) (entries : List (SecretName × SecretValue)) (identity : ClientIdentity) :
    Prop extends c.Unlocks k s plan key where
  read : (plan.secrets k s key).result = .ok entries
  identified : ClientIdentity.ofSecrets plan.names ⟨entries⟩ = .ok identity

/-- The identity that the secrets make up is granted the token `token`. -/
structure Grants (c : JobConfig) (k : StoreCredential) (s : Session σ) (plan : JobPlan)
    (key : AccessToken) (entries : List (SecretName × SecretValue)) (identity : ClientIdentity)
    (token : AccessToken) : Prop extends c.Identifies k s plan key entries identity where
  granted : (plan.grant c.identity.scopes k s key identity).result = .ok token

section

variable {c : JobConfig} {k : StoreCredential} {s : Session σ}

lemma Unlocks.unique {plan plan' : JobPlan} {key key' : AccessToken}
    (h : c.Unlocks k s plan key) (h' : c.Unlocks k s plan' key') : plan = plan' ∧ key = key' := by
  obtain rfl := Except.ok.inj (h.planned.symm.trans h'.planned)
  obtain rfl := Except.ok.inj (h.unlocked.symm.trans h'.unlocked)
  exact ⟨rfl, rfl⟩

lemma Identifies.unique {plan plan' : JobPlan} {key key' : AccessToken}
    {entries entries' : List (SecretName × SecretValue)} {identity identity' : ClientIdentity}
    (h : c.Identifies k s plan key entries identity)
    (h' : c.Identifies k s plan' key' entries' identity') :
    plan = plan' ∧ key = key' ∧ entries = entries' ∧ identity = identity' := by
  obtain ⟨rfl, rfl⟩ := h.toUnlocks.unique h'.toUnlocks
  obtain rfl := Except.ok.inj (h.read.symm.trans h'.read)
  obtain rfl := Except.ok.inj (h.identified.symm.trans h'.identified)
  exact ⟨rfl, rfl, rfl, rfl⟩

lemma Grants.unique {plan plan' : JobPlan} {key key' : AccessToken}
    {entries entries' : List (SecretName × SecretValue)} {identity identity' : ClientIdentity}
    {token token' : AccessToken} (h : c.Grants k s plan key entries identity token)
    (h' : c.Grants k s plan' key' entries' identity' token') :
    plan = plan' ∧ key = key' ∧ entries = entries' ∧ identity = identity' ∧ token = token' := by
  obtain ⟨rfl, rfl, rfl, rfl⟩ := h.toIdentifies.unique h'.toIdentifies
  obtain rfl := Except.ok.inj (h.granted.symm.trans h'.granted)
  exact ⟨rfl, rfl, rfl, rfl, rfl⟩

/-- The plan, the token that opens the vault and the identity, if the run gets so far. -/
def identity? (c : JobConfig) (k : StoreCredential) (s : Session σ) :
    Option (JobPlan × AccessToken × ClientIdentity) := do
  let plan ← (JobPlan.ofConfig c).toOption
  let key ← (k.answer s).toOption
  let entries ← (plan.secrets k s key).result.toOption
  let identity ← (ClientIdentity.ofSecrets plan.names ⟨entries⟩).toOption
  return (plan, key, identity)

/-- The plan and the token of the identity, if the run gets so far. -/
def token? (c : JobConfig) (k : StoreCredential) (s : Session σ) : Option (JobPlan × AccessToken) := do
  let (plan, key, identity) ← c.identity? k s
  let token ← (plan.grant c.identity.scopes k s key identity).result.toOption
  return (plan, token)

lemma Identifies.identity?_eq {plan : JobPlan} {key : AccessToken}
    {entries : List (SecretName × SecretValue)} {identity : ClientIdentity}
    (h : c.Identifies k s plan key entries identity) :
    c.identity? k s = some (plan, key, identity) := by
  simp only [identity?]
  rw [h.planned, h.unlocked]
  simp only [Except.toOption, Option.bind_eq_bind, Option.bind_some, h.read, h.identified]
  rfl

lemma Grants.token?_eq {plan : JobPlan} {key : AccessToken}
    {entries : List (SecretName × SecretValue)} {identity : ClientIdentity} {token : AccessToken}
    (h : c.Grants k s plan key entries identity token) : c.token? k s = some (plan, token) := by
  simp only [token?]
  rw [h.toIdentifies.identity?_eq]
  simp only [Option.bind_eq_bind, Option.bind_some, h.granted]
  rfl

/-- If the plan and the token of a run pass the test `p`, an identity is granted a token that passes it. -/
lemma exists_grants_of_token? {p : JobPlan → AccessToken → Bool}
    (h : (c.token? k s).any (fun found => p found.1 found.2) = true) :
    ∃ plan key entries identity token, c.Grants k s plan key entries identity token ∧
      p plan token = true := by
  cases hfound : c.token? k s with
  | none =>
    rw [hfound] at h
    cases h
  | some found =>
    obtain ⟨plan, token⟩ := found
    rw [hfound] at h
    simp only [token?, identity?] at hfound
    simp only [Option.bind_eq_bind, Option.bind_eq_some_iff, toOption_eq_some_iff] at hfound
    obtain ⟨_, ⟨plan, hplan, key, hkey, entries, hread, identity, hidentity, heq⟩, token, hgrant,
      heq'⟩ := hfound
    cases heq
    cases heq'
    exact ⟨plan, key, entries, identity, token, ⟨⟨⟨hplan, hkey⟩, hread, hidentity⟩, hgrant⟩, h⟩

end

/-- How a run goes: what it sends in each stage and what it ends in. -/
inductive Course (c : JobConfig) (k : StoreCredential) (s : Session σ) :
    StagedMessages → Except JobError UInt16 → Prop
  | unplanned {e : JobError} (h : JobPlan.ofConfig c = .error e) : Course c k s {} (.error e)
  | locked {plan : JobPlan} {e : CredentialError} (hplan : JobPlan.ofConfig c = .ok plan)
      (h : k.answer s = .error e) :
      Course c k s { credential := (k.asked s).messages } (.error (.secrets (.credential e)))
  | unread {plan : JobPlan} {key : AccessToken} {e : SecretError} (hkey : c.Unlocks k s plan key)
      (h : (plan.secrets k s key).result = .error e) :
      Course c k s
        { credential := (k.asked s).messages, vault := (plan.secrets k s key).sent }
        (.error (.secrets e))
  | incomplete {plan : JobPlan} {key : AccessToken} {entries : List (SecretName × SecretValue)}
      {field : IdentityField} (hkey : c.Unlocks k s plan key)
      (hread : (plan.secrets k s key).result = .ok entries)
      (h : ClientIdentity.ofSecrets plan.names ⟨entries⟩ = .error (.incomplete field)) :
      Course c k s
        { credential := (k.asked s).messages, vault := (plan.secrets k s key).sent }
        (.error (.secrets (.incomplete field)))
  | ungranted {plan : JobPlan} {key : AccessToken} {entries : List (SecretName × SecretValue)}
      {identity : ClientIdentity} {e : AuthError}
      (hidentity : c.Identifies k s plan key entries identity)
      (h : (plan.grant c.identity.scopes k s key identity).result = .error e) :
      Course c k s
        { credential := (k.asked s).messages, vault := (plan.secrets k s key).sent
          token := (plan.grant c.identity.scopes k s key identity).sent }
        (.error (.authentication e))
  | attempted {plan : JobPlan} {key : AccessToken} {entries : List (SecretName × SecretValue)}
      {identity : ClientIdentity} {token : AccessToken} {result : Except JobError UInt16}
      (hgrant : c.Grants k s plan key entries identity token)
      (h : match (plan.spec.attempts token (c.retry.maxAttempts.toNat - 1)
          (plan.grant c.identity.scopes k s key identity).network).result with
        | .ok status => result = .ok status
        | .error e => ∃ made, result = .error (.requestFailed made e)) :
      Course c k s
        { credential := (k.asked s).messages, vault := (plan.secrets k s key).sent
          token := (plan.grant c.identity.scopes k s key identity).sent
          target := (plan.spec.attempts token (c.retry.maxAttempts.toNat - 1)
            (plan.grant c.identity.scopes k s key identity).network).sent }
        result

end JobConfig

/-! ### Stage by stage -/

namespace JobPlan

lemma names_ne_nil (p : JobPlan) : p.names.toList ≠ [] := List.cons_ne_nil _ _

/-- An error of a vault becomes an error of the secrets. -/
lemma ofSecret_of_isOfVault {e : SecretError} (h : e.isOfVault = true) :
    JobError.ofSecret e = .secrets e := by
  cases e <;> first | rfl | cases h

/-- The work of `identify` resolves the names and makes an identity of the secrets. What it says on the way
does not matter. -/
lemma identify_apply (p : JobPlan) (k : StoreCredential) (s : Session σ) :
    ∃ s₀ : Session σ, s₀.fresh = s.fresh ∧ s₀.messages = s.messages ∧ ∀ {result s'},
      (p.shown k : Vault σ).resolve p.names.toList s₀ = (result, s') → ∃ s'',
        p.identify k.credential s = (match result with
          | .error e => .error (.ofSecret e)
          | .ok secrets => (ClientIdentity.ofSecrets p.names secrets).mapError .ofSecret, s'') ∧
        s'.Reaches [] s'.network s'' := by
  simp only [identify]
  simp only [Work.bind_apply, Work.log_apply]
  generalize hs₀ : s.record _ = s₀
  refine ⟨s₀, by rw [← hs₀]; rfl, by rw [← hs₀, s.messages_record_logged], fun {result s'} h => ?_⟩
  simp only [shown] at h
  simp only [h]
  cases result with
  | error e => exact ⟨s', rfl, .refl s'⟩
  | ok secrets => exact ⟨_, rfl, (Session.Reaches.refl s').said _⟩

/-- The work of `identify` fails if the credential gives no token for the vault. -/
lemma identify_of_locked {p : JobPlan} {k : StoreCredential} {s : Session σ} {e : CredentialError}
    (h : k.answer s = .error e) :
    ∃ s', p.identify k.credential s = (.error (.secrets (.credential e)), s') ∧
      s'.messages = s.messages ++ (k.asked s).messages := by
  obtain ⟨s₀, hfresh, hmessages, hidentify⟩ := p.identify_apply k s
  have hanswer : (p.shown k : Vault σ).storeAnswer s₀ = .error e := by
    rw [Vault.storeAnswer, hfresh]
    exact h
  obtain ⟨s', hresolve, hsent⟩ :=
    Vault.resolve_of_error (k.plain_token [Vault.scope]).ignoresPast hanswer p.names_ne_nil
  obtain ⟨s'', hrun, hreaches⟩ := hidentify hresolve
  refine ⟨s'', hrun, ?_⟩
  rw [hreaches.messages, hsent, hmessages, List.append_nil, Vault.storeAsked, hfresh]
  rfl

/-- With a token for the vault the work of `identify` is a matter of the secrets. -/
lemma identify_of_unlocked {p : JobPlan} {k : StoreCredential} {s : Session σ} {key : AccessToken}
    (h : k.answer s = .ok key) :
    ∃ s', p.identify k.credential s = (match (p.secrets k s key).result with
        | .error e => .error (.ofSecret e)
        | .ok entries => (ClientIdentity.ofSecrets p.names ⟨entries⟩).mapError .ofSecret, s') ∧
      s'.messages = s.messages ++ ((k.asked s).messages ++ (p.secrets k s key).sent) ∧
      s'.network = (p.secrets k s key).network ∧ s'.now = (k.asked s).now := by
  obtain ⟨s₀, hfresh, hmessages, hidentify⟩ := p.identify_apply k s
  have hanswer : (p.shown k : Vault σ).storeAnswer s₀ = .ok key := by
    rw [Vault.storeAnswer, hfresh]
    exact h
  have hasked : (p.shown k : Vault σ).storeAsked s₀ = k.asked s := by
    rw [Vault.storeAsked, hfresh]
    rfl
  obtain ⟨s', hresolve, hsent, hnetwork, hnow⟩ :=
    Vault.resolve_of_ok (k.plain_token [Vault.scope]).ignoresPast hanswer p.names_ne_nil
  rw [hasked] at hresolve hsent hnetwork hnow
  obtain ⟨s'', hrun, hreaches⟩ := hidentify hresolve
  refine ⟨s'', ?_, ?_, ?_, hreaches.now.trans hnow⟩
  · rw [hrun, secrets, distinctNames]
    cases (Vault.batch _ key (k.asked s).network p.names.toList.eraseDups).result <;> rfl
  · rw [hreaches.messages, hsent, hmessages, List.append_nil]
    rfl
  · rw [hreaches.network, hnetwork]
    rfl

lemma request_apply (p : JobPlan) (policy : RetryPolicy) (token : AccessToken) (s : Session σ) :
    ∃ result s', p.request policy token s = (result, s') ∧
      (match (p.spec.attempts token (policy.maxAttempts.toNat - 1) s.network).result with
        | .ok status => result = .ok status
        | .error e => ∃ made, result = .error (.requestFailed made e)) ∧
      s'.messages = s.messages ++
        (p.spec.attempts token (policy.maxAttempts.toNat - 1) s.network).sent := by
  obtain ⟨outcome, s', hexecute, houtcome, hmessages⟩ := p.spec.execute_apply policy token s
  simp only [request]
  simp only [Work.bind_apply, hexecute]
  cases hresult : (p.spec.attempts token (policy.maxAttempts.toNat - 1) s.network).result with
  | ok status =>
    rw [hresult] at houtcome
    rw [houtcome]
    exact ⟨_, s', rfl, rfl, hmessages⟩
  | error e =>
    rw [hresult] at houtcome
    obtain ⟨made, rfl⟩ := houtcome
    exact ⟨_, s', rfl, ⟨made, rfl⟩, hmessages⟩

end JobPlan

namespace JobConfig

/-- A run that comes to an identity goes on to the authority and to the target, on one of the courses. -/
lemma exists_course_of_identified {c : JobConfig} {k : StoreCredential} {s s' : Session σ}
    {plan : JobPlan} {key : AccessToken} {entries : List (SecretName × SecretValue)}
    {identity : ClientIdentity} (h : c.Identifies k s plan key entries identity)
    (hidentify : plan.identify k.credential s = (.ok identity, s'))
    (hmessages : s'.messages =
      s.messages ++ ((k.asked s).messages ++ (plan.secrets k s key).sent))
    (hnetwork : s'.network = (plan.secrets k s key).network) (hnow : s'.now = (k.asked s).now) :
    ∃ sent, (c.run k.credential s).2.messages = s.messages ++ sent.all ∧
      c.Course k s sent (c.run k.credential s).1 := by
  have hacquire : ∃ s₁, (TokenProvider.authority plan.authority).acquire identity
      c.identity.scopes s' = ((plan.grant c.identity.scopes k s key identity).result, s₁) ∧
        s'.Reaches (plan.grant c.identity.scopes k s key identity).sent
          (plan.grant c.identity.scopes k s key identity).network s₁ := by
    rw [JobPlan.grant, ← hnetwork, ← hnow]
    exact TokenProvider.acquire_apply plan.authority identity c.identity.scopes s'
  obtain ⟨s₁, hacquire, hreaches⟩ := hacquire
  have hsent := hreaches.messages
  simp only [run]
  simp only [h.planned, Work.bind_apply, hidentify, JobPlan.authenticate, hacquire, Work.pure_apply]
  cases hgrant : (plan.grant c.identity.scopes k s key identity).result with
  | error e =>
    dsimp only [Except.mapError]
    refine ⟨_, ?_, .ungranted h hgrant⟩
    simpa [StagedMessages.all, hmessages] using hsent
  | ok token =>
    obtain ⟨result, s₂, hrequest, hresult, hlast⟩ := plan.request_apply c.retry token s₁
    rw [hreaches.network] at hresult hlast
    simp only [Except.mapError, hrequest]
    refine ⟨_, ?_, .attempted ⟨h, hgrant⟩ hresult⟩
    rw [hlast, hsent, hmessages]
    simp [StagedMessages.all]

/-- Every run takes one of the courses. -/
lemma exists_course (c : JobConfig) (k : StoreCredential) (s : Session σ) :
    ∃ sent, (c.run k.credential s).2.messages = s.messages ++ sent.all ∧
      c.Course k s sent (c.run k.credential s).1 := by
  cases hplan : JobPlan.ofConfig c with
  | error e =>
    simp only [run]
    rw [hplan]
    exact ⟨{}, (List.append_nil _).symm, .unplanned hplan⟩
  | ok plan =>
    cases hkey : k.answer s with
    | error e =>
      obtain ⟨s', hidentify, hmessages⟩ := plan.identify_of_locked hkey
      simp only [run]
      simp only [hplan, Work.bind_apply, hidentify]
      refine ⟨_, ?_, .locked hplan hkey⟩
      simpa [StagedMessages.all] using hmessages
    | ok key =>
      have hunlocks : c.Unlocks k s plan key := ⟨hplan, hkey⟩
      obtain ⟨s', hidentify, hmessages, hnetwork, hnow⟩ := plan.identify_of_unlocked hkey
      cases hread : (plan.secrets k s key).result with
      | error e =>
        simp only [hread, JobPlan.ofSecret_of_isOfVault (Vault.isOfVault_of_batch hread)]
          at hidentify
        simp only [run]
        simp only [hplan, Work.bind_apply, hidentify]
        refine ⟨_, ?_, .unread hunlocks hread⟩
        simpa [StagedMessages.all] using hmessages
      | ok entries =>
        cases hidentity : ClientIdentity.ofSecrets plan.names ⟨entries⟩ with
        | error e =>
          obtain ⟨field, -, rfl⟩ := ClientIdentity.ofSecrets_eq_error_iff.mp hidentity
          simp only [hread, hidentity] at hidentify
          simp only [run]
          simp only [hplan, Work.bind_apply, hidentify, Except.mapError, JobError.ofSecret]
          refine ⟨_, ?_, .incomplete hunlocks hread hidentity⟩
          simpa [StagedMessages.all] using hmessages
        | ok identity =>
          simp only [hread, hidentity] at hidentify
          exact exists_course_of_identified ⟨hunlocks, hread, hidentity⟩ hidentify hmessages
            hnetwork hnow

/-- A course ends with the configuration to blame only where there is no plan. -/
lemma Course.ofConfig_eq_error {c : JobConfig} {k : StoreCredential} {s : Session σ}
    {sent : StagedMessages} {message : String}
    (h : c.Course k s sent (.error (.configuration message))) :
    JobPlan.ofConfig c = .error (.configuration message) := by
  cases h with
  | unplanned h => exact h
  | attempted _ h =>
    split at h
    · cases h
    · obtain ⟨made, h⟩ := h
      cases h

end JobConfig

end Reindex
