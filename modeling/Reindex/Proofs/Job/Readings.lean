import Reindex.Job.Run
import Reindex.Proofs.Credential.Source
import Reindex.Proofs.Retry.Relation
import Reindex.Proofs.Secret.Batch
import Reindex.Proofs.Session.Readings

/-!
# Jobs make of answers what is read of them

Whatever a job asks for, it reads the answer in one of three ways: as an answer of a token endpoint, as one
of a vault, or by its status alone. So a job comes to the same result, with the same history, on networks
that are read alike.
-/

namespace Reindex

open Work (Consulting OnlyReads)

variable {σ : Type}

/-! ### Tokens -/

lemma TokenEndpoint.onlyReads_ask (r : Http.Request) : OnlyReads (ask r : Work σ _) := by
  apply OnlyReads.exchange_bind r
  · rintro (fault | answer)
    · exact .pure _
    · exact OnlyReads.now.bind fun now => .pure _
  · intro a a' halike
    have hread : (fun now => TokenAnswer.read now a) = fun now => TokenAnswer.read now a' :=
      funext halike.token
    show (Work.now >>= fun now => pure (TokenAnswer.read now a) : Work σ _) =
      Work.now >>= fun now => pure (TokenAnswer.read now a')
    simp only [congrFun hread]

lemma Work.Consulting.onlyReads {α : Type} {w : Work σ α} (hw : Consulting w) : OnlyReads w := by
  induction hw with
  | pure a => exact .pure a
  | bind _ _ ihw ihf => exact .bind ihw ihf
  | log e => exact .log e
  | readFile path => exact .readFile path
  | ask r => exact TokenEndpoint.onlyReads_ask r

lemma TokenProvider.consulting_acquire (authority : Url) (i : ClientIdentity) (scopes : List String) :
    Consulting ((TokenProvider.authority authority : TokenProvider σ).acquire i scopes) := by
  have hrequest : Consulting ((TokenProvider.authority authority : TokenProvider σ).request i
      (scopesFor i scopes)) := by
    unfold TokenProvider.authority
    dsimp only
    split
    · exact .pure _
    · exact (Consulting.ask _).bind fun _ => .pure _
  refine (Consulting.log _).bind fun _ => (Consulting.log _).bind fun _ => hrequest.bind ?_
  rintro (e | token)
  · exact .pure _
  · exact (Consulting.log _).bind fun _ => .pure _

/-! ### Secrets -/

namespace Vault

variable (v : Vault σ)

lemma onlyReads_readWith (token : AccessToken) (name : SecretName) : OnlyReads (v.readWith token name) := by
  unfold readWith
  split
  · exact .pure _
  · apply OnlyReads.exchange_bind
    · rintro (fault | answer)
      · exact .pure _
      · exact (OnlyReads.log _).bind fun _ => .pure _
    · intro a a' halike
      dsimp only
      rw [halike.status, halike.secret]

lemma onlyReads_audit (name : SecretName) (error : Option SecretError) :
    OnlyReads (v.store.audit name error) :=
  OnlyReads.now.bind fun _ => .log _

/-- With a token at hand, the work of `readAll` makes of answers only what is read of them. The induction is
on the names that are left. -/
lemma onlyReads_readAll (token : AccessToken) (names : List SecretName) (found : ResolvedSecrets) :
    OnlyReads (v.store.readAll found names (some token)) := by
  induction names generalizing found with
  | nil => exact .pure _
  | cons name rest ih =>
    rw [readAll_some_cons]
    split
    · exact (OnlyReads.log _).bind fun _ => ih found
    · apply (v.onlyReads_readWith token name).bind
      rintro (e | value)
      · exact (v.onlyReads_audit name (some e)).bind fun _ => .pure _
      · exact (v.onlyReads_audit name none).bind fun _ => ih _

lemma onlyReads_resolve (hv : OnlyReads (v.credential.token [scope])) (names : List SecretName) :
    OnlyReads (v.resolve names) := by
  have hread : OnlyReads (v.store.readAll {} names none) := by
    cases names with
    | nil => exact .pure _
    | cons name rest =>
      rw [readAll_none_cons]
      refine (OnlyReads.log _).bind fun _ => hv.bind ?_
      rintro (e | token)
      · exact (v.onlyReads_audit name _).bind fun _ => .pure _
      · exact v.onlyReads_readAll token (name :: rest) {}
  rw [resolve_eq]
  refine hread.bind fun result => ?_
  split
  · exact .pure _
  · exact (OnlyReads.log _).bind fun _ => .pure _

end Vault

/-! ### Requests -/

namespace RequestSpec

variable (policy : RetryPolicy)

lemma onlyReads_sendOnce (r : RequestSpec) (token : AccessToken) (attempt : UInt32) :
    OnlyReads (r.sendOnce token attempt : Work σ _) := by
  unfold sendOnce
  split
  · exact .pure _
  · apply OnlyReads.exchange_bind
    · rintro (fault | answer)
      · exact .pure _
      · exact (OnlyReads.log _).bind fun _ => .pure _
    · intro a a' halike
      dsimp only
      rw [halike.status]

lemma keeps_readAlike : (retrier policy loggingObserver : Retrier (Session σ) RequestError).Keeps
    Session.ReadAlike True where
  now := fun _ _ hs _ => congrArg Instant.nanos hs.now
  told := fun _ => OnlyReads.log _
  succeeded := by
    intro attempt elapsed elapsed' helapsed
    rw [helapsed trivial]
    exact OnlyReads.log _
  paused := by
    simp only [Retrier.pause]
    split
    · exact OnlyReads.pure _
    · exact fun s s' hs => ⟨rfl, hs.pause _⟩

lemma onlyReads_run (r : RequestSpec) (token : AccessToken) :
    OnlyReads ((retrier policy loggingObserver).run (r.sendOnce token) : Work σ _) := by
  refine ((keeps_readAlike policy).run (r.onlyReads_sendOnce token)).mono fun result result' h => ?_
  cases h with
  | ok status => rfl
  | error h =>
    cases h with
    | exhausted attempts e helapsed => rw [helapsed trivial]
    | nonRetryable attempt e => rfl

lemma onlyReads_execute (r : RequestSpec) (token : AccessToken) :
    OnlyReads (r.execute policy loggingObserver token : Work σ _) := by
  have hannounce : OnlyReads (r.announce : Work σ _) := by
    simp only [announce]
    cases r.insecureSkipVerify with
    | false => exact .log _
    | true => exact (OnlyReads.log _).bind fun _ => .log _
  refine hannounce.bind fun _ => (onlyReads_run policy r token).bind ?_
  rintro (e | status)
  · exact (OnlyReads.log _).bind fun _ => .pure _
  · exact (OnlyReads.log _).bind fun _ => .pure _

end RequestSpec

/-! ### Jobs -/

namespace JobPlan

variable (p : JobPlan)

lemma onlyReads_identify {k : Credential σ} (hk : OnlyReads (k.token [Vault.scope])) :
    OnlyReads (p.identify k) := by
  refine (OnlyReads.log _).bind fun _ => ?_
  apply (Vault.onlyReads_resolve ⟨p.vault, k⟩ hk p.names.toList).bind
  rintro (e | secrets)
  · exact .pure _
  · exact (OnlyReads.log _).bind fun _ => .pure _

lemma onlyReads_authenticate (identity : ClientIdentity) (scopes : List String) :
    OnlyReads (p.authenticate identity scopes : Work σ _) :=
  (TokenProvider.consulting_acquire p.authority identity scopes).onlyReads.bind fun _ => .pure _

lemma onlyReads_request (policy : RetryPolicy) (token : AccessToken) :
    OnlyReads (p.request policy token : Work σ _) := by
  apply (p.spec.onlyReads_execute policy token).bind
  rintro (status | ⟨attempts, e⟩)
  · exact .pure _
  · exact .pure _

end JobPlan

lemma JobConfig.onlyReads_run (c : JobConfig) {k : Credential σ}
    (hk : OnlyReads (k.token [Vault.scope])) : OnlyReads (c.run k) := by
  unfold run
  split
  · exact .pure _
  · rename_i plan hplan
    apply (plan.onlyReads_identify hk).bind
    rintro (e | identity)
    · exact .pure _
    · apply (plan.onlyReads_authenticate identity c.identity.scopes).bind
      rintro (e | token)
      · exact .pure _
      · exact plan.onlyReads_request c.retry token

end Reindex
