import Reindex.Proofs.Job.Course
import Reindex.Proofs.Secret.Audits
import Reindex.Proofs.Target.Tries

/-!
# What a run has done

What operators hear of a run is a matter of what it has done: the secrets that it tried to read, and, if
it got so far, the attempts at its request. Every deed has its event, whichever course the run takes.
-/

namespace Reindex

variable {σ : Type}

open Work (Quiet)

/-- The deeds of a run that operators hear of. -/
structure Deeds where
  /-- The reads from the vault, in their order. -/
  reads : List VaultRead := []
  /-- The request, if the run gets to the point where it is attempted. -/
  request : Option RequestSpec := none
  tries : List Try := []

namespace Deeds

/-- The request is attempted without a check of certificates. -/
def isInsecure (d : Deeds) : Bool := d.request.any (·.insecureSkipVerify)

/-- The events that tell of the deeds: the records of the reads, and what is told of the request. -/
def events (policy : RetryPolicy) (d : Deeds) : List LogEvent :=
  d.reads.map (fun read => read.record.event) ++
    d.request.toList.flatMap RequestSpec.warnings ++
      Try.eventsFrom policy 1 (policy.maxAttempts.toNat - 1) d.tries

/-- The number of events on a topic that the deeds call for. -/
def count (d : Deeds) : Topic → Nat
  | .error => 0
  | .audit => d.reads.length
  | .failedAttempt => d.tries.countP Try.isRetryable
  | .response => d.tries.countP Try.isAnswered
  | .insecure => if d.isInsecure then 1 else 0

end Deeds

/-! ### Stage by stage -/

namespace JobPlan

/-- The reads of the different names of the plan. -/
def reads (p : JobPlan) (k : StoreCredential) (s : Session σ) : List VaultRead :=
  (p.shown k : Vault σ).batchReads s p.names.toList

/-- The different names of the plan are read in turn. -/
lemma readsInTurn_reads (p : JobPlan) (k : StoreCredential) (s : Session σ) :
    SecretStore.ReadsInTurn {} p.distinctNames ((p.reads k s).map VaultRead.toSecretRead)
      ((p.shown k : Vault σ).resolve p.names.toList s).1 :=
  Vault.readsInTurn_batchReads (k.plain_token [Vault.scope]) p.names.toList s

lemma notable_identify (p : JobPlan) (k : StoreCredential) (s : Session σ) :
    (p.identify k.credential s).2.notable =
      s.notable ++ (p.reads k s).map fun read => read.record.event := by
  simp only [identify]
  simp only [Work.bind_apply, Work.log_apply]
  generalize hs₀ : s.record _ = s₀
  have hbegun : s₀.notable = s.notable := by
    rw [← hs₀]
    exact Quiet.say (by decide) _ s
  have hreads : (p.shown k : Vault σ).batchReads s₀ p.names.toList = p.reads k s := by
    rw [← hs₀]
    rfl
  have hresolve := Vault.notable_resolve (v := p.shown k) (k.plain_token [Vault.scope])
    (k.quiet_token [Vault.scope]) p.names.toList s₀
  rw [hbegun, hreads] at hresolve
  simp only [shown] at hresolve
  cases ((Vault.mk p.vault k.credential).resolve p.names.toList s₀).1 with
  | error e => exact hresolve
  | ok secrets => exact (Quiet.say (by decide) _ _).trans hresolve

lemma notable_request (p : JobPlan) (policy : RetryPolicy) (token : AccessToken) (s : Session σ) :
    (p.request policy token s).2.notable =
      s.notable ++ p.spec.warnings ++
        Try.eventsFrom policy 1 (policy.maxAttempts.toNat - 1)
          (p.spec.tries token (policy.maxAttempts.toNat - 1) s.network) := by
  simp only [request]
  simp only [Work.bind_apply]
  rw [← p.spec.notable_execute]
  cases (p.spec.execute policy RequestSpec.loggingObserver token s).1 with
  | success status => rfl
  | failure made e => rfl

end JobPlan

namespace JobConfig

/-- The deeds of a run. Where there is no plan there are none; and nothing is attempted unless the
identity gets a token. -/
inductive Does (c : JobConfig) (k : StoreCredential) (s : Session σ) : Deeds → Prop
  | unplanned {e : JobError} (h : JobPlan.ofConfig c = .error e) : Does c k s {}
  | stopped {plan : JobPlan} (hplan : JobPlan.ofConfig c = .ok plan)
      (h : ∀ key entries identity token, ¬ c.Grants k s plan key entries identity token) :
      Does c k s { reads := plan.reads k s }
  | attempted {plan : JobPlan} {key : AccessToken} {entries : List (SecretName × SecretValue)}
      {identity : ClientIdentity} {token : AccessToken}
      (h : c.Grants k s plan key entries identity token) :
      Does c k s
        { reads := plan.reads k s
          request := plan.spec
          tries := plan.spec.tries token (c.retry.maxAttempts.toNat - 1)
            (plan.grant c.identity.scopes k s key identity).network }

section

variable {c : JobConfig} {k : StoreCredential} {s : Session σ} {plan : JobPlan}

/-- A run that does not come to an identity ends there. -/
lemma run_of_identify_error {credential : Credential σ} {e : JobError}
    (hplan : JobPlan.ofConfig c = .ok plan) (h : (plan.identify credential s).1 = .error e) :
    (c.run credential s).2 = (plan.identify credential s).2 := by
  simp only [run]
  simp only [hplan, Work.bind_apply, h]
  rfl

/-- A run without a token for its identity has no identity, or the authority refuses it the token. -/
lemma cases_of_not_grants (hplan : JobPlan.ofConfig c = .ok plan)
    (h : ∀ key entries identity token, ¬ c.Grants k s plan key entries identity token) :
    (∃ e, (plan.identify k.credential s).1 = .error e) ∨
      ∃ key entries identity e, c.Identifies k s plan key entries identity ∧
        (plan.grant c.identity.scopes k s key identity).result = .error e := by
  cases hkey : k.answer s with
  | error e =>
    obtain ⟨s', hidentify, -⟩ := plan.identify_of_locked hkey
    exact .inl ⟨_, by rw [hidentify]⟩
  | ok key =>
    obtain ⟨s', hidentify, -⟩ := plan.identify_of_unlocked hkey
    cases hread : (plan.secrets k s key).result with
    | error e =>
      rw [hread] at hidentify
      exact .inl ⟨_, by rw [hidentify]⟩
    | ok entries =>
      cases hidentity : ClientIdentity.ofSecrets plan.names ⟨entries⟩ with
      | error e =>
        simp only [hread, hidentity] at hidentify
        exact .inl ⟨_, by rw [hidentify]; rfl⟩
      | ok identity =>
        have hidentifies : c.Identifies k s plan key entries identity :=
          ⟨⟨hplan, hkey⟩, hread, hidentity⟩
        cases hgrant : (plan.grant c.identity.scopes k s key identity).result with
        | error e => exact .inr ⟨key, entries, identity, e, hidentifies, hgrant⟩
        | ok token => exact absurd ⟨hidentifies, hgrant⟩ (h key entries identity token)

/-- The reads of a run are made in turn, and none of them is made twice. -/
lemma Does.readsInTurn {d : Deeds} (h : c.Does k s d) : ∃ names result, names.Nodup ∧
    SecretStore.ReadsInTurn {} names (d.reads.map VaultRead.toSecretRead) result := by
  cases h with
  | unplanned h => exact ⟨[], _, List.nodup_nil, @SecretStore.ReadsInTurn.all {} _ [] rfl⟩
  | stopped hplan h =>
    rename_i plan
    exact ⟨plan.distinctNames, _, nodup_eraseDups _, plan.readsInTurn_reads k s⟩
  | attempted h =>
    rename_i plan key entries identity token
    exact ⟨plan.distinctNames, _, nodup_eraseDups _, plan.readsInTurn_reads k s⟩

/-- A run that comes to an identity has told of its reads, and goes on to the authority and to the request. -/
lemma Identifies.run_eq {key : AccessToken} {entries : List (SecretName × SecretValue)}
    {identity : ClientIdentity} (h : c.Identifies k s plan key entries identity) :
    ∃ s' : Session σ, s'.notable = s.notable ++ (plan.reads k s).map (fun read => read.record.event) ∧
      s'.network = (plan.grant c.identity.scopes k s key identity).network ∧
      (c.run k.credential s).2 =
        match (plan.grant c.identity.scopes k s key identity).result with
        | .error _ => s'
        | .ok token => (plan.request c.retry token s').2 := by
  obtain ⟨s₀, hidentify, -, hnetwork, hnow⟩ := plan.identify_of_unlocked h.unlocked
  simp only [h.read, h.identified] at hidentify
  have hnotable := plan.notable_identify k s
  rw [hidentify] at hnotable
  obtain ⟨s₁, hacquire, hreaches⟩ :=
    TokenProvider.acquire_apply plan.authority identity c.identity.scopes s₀
  rw [hnetwork, hnow] at hacquire hreaches
  have hquiet := TokenProvider.quiet_acquire plan.authority identity c.identity.scopes s₀
  rw [hacquire] at hquiet
  refine ⟨s₁, hquiet.trans hnotable, hreaches.network, ?_⟩
  simp only [run]
  simp only [h.planned, Work.bind_apply, hidentify, Except.mapError, JobPlan.authenticate, hacquire,
    Work.pure_apply, JobPlan.grant]
  cases (TokenProvider.acquisition _ _ _ _ _).result <;> rfl

/-- The notable events of a run are those of its deeds. -/
lemma Does.notable {d : Deeds} (h : c.Does k s d) :
    (c.run k.credential s).2.notable = s.notable ++ d.events c.retry := by
  cases h with
  | unplanned h =>
    simp only [run]
    rw [h]
    exact (List.append_nil _).symm
  | stopped hplan h =>
    rename_i plan
    have hevents : Deeds.events c.retry { reads := plan.reads k s } =
        (plan.reads k s).map fun read => read.record.event :=
      (List.append_nil _).trans (List.append_nil _)
    rw [hevents]
    rcases cases_of_not_grants hplan h with ⟨e, herror⟩ | ⟨key, entries, identity, e, hident, hgrant⟩
    · rw [run_of_identify_error hplan herror]
      exact plan.notable_identify k s
    · obtain ⟨s', hnotable, -, hrun⟩ := hident.run_eq
      rw [hgrant] at hrun
      rw [hrun]
      exact hnotable
  | attempted h =>
    rename_i plan key entries identity token
    obtain ⟨s', hnotable, hnetwork, hrun⟩ := h.toIdentifies.run_eq
    rw [h.granted] at hrun
    rw [hrun, plan.notable_request, hnotable, hnetwork, Deeds.events, List.append_assoc,
      List.append_assoc, List.append_assoc, Option.toList_some, List.flatMap_singleton]

end

end JobConfig

end Reindex
