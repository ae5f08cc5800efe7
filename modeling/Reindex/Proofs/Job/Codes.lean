import Reindex.Job.Run
import Reindex.Proofs.Retry.Relation
import Reindex.Proofs.Secret.Codes

/-!
# Jobs and the codes of errors

In two sessions that differ in the values of codes a job comes to the same status, or it fails in the same
stage, with errors that differ in such values and that are redacted to the same text. Only the first
tokens and the secrets are asked for in ways that let a code into an error; of the answers to the request
nothing but the status counts.
-/

namespace Reindex

open Redaction (Announces)

open Work (SameButCodes)

variable {σ : Type} {chained : Prop}

/-! ### Tokens for identities -/

/-- Two identities get no token for faults that are the same but for the value in a code. -/
inductive AuthError.SameButCodes : AuthError → AuthError → Prop
  | failed {fault fault' : TokenFault} (h : fault.SameButCodes fault') :
      SameButCodes (.authenticationFailed fault) (.authenticationFailed fault')

lemma AuthError.SameButCodes.redact_eq {e e' : AuthError} (h : e.SameButCodes e') :
    redact e.message = redact e'.message := by
  cases h with
  | failed h =>
    have htext : ∀ fault, (message (.authenticationFailed fault)).toList =
        "Authentication failed".toList ++ ':' :: ' ' :: fault.message.toList :=
      fun fault => Redaction.toList_append_phrase rfl fault.message
    have hannounced : Announces "Authentication failed".toList := .alone List.mem_cons_self
    apply redact_of_veiled
    rw [htext, htext]
    exact h.veiled_end hannounced

lemma TokenProvider.acquire_sameButCodes (authority : Url) (i : ClientIdentity) (scopes : List String) :
    SameButCodes chained (SameUpTo AuthError.SameButCodes)
      ((TokenProvider.authority authority : TokenProvider σ).acquire i scopes)
      ((TokenProvider.authority authority).acquire i scopes) := by
  have hrequest : ∀ scopes, SameButCodes chained (SameUpTo AuthError.SameButCodes)
      ((TokenProvider.authority authority : TokenProvider σ).request i scopes)
      ((TokenProvider.authority authority).request i scopes) := by
    intro scopes
    unfold TokenProvider.authority
    dsimp only
    split
    · exact .pure (.error (.failed (.same _)))
    · refine (TokenEndpoint.ask_sameButCodes _).bind fun result result' hresult => ?_
      exact .pure (hresult.mapError fun e e' he => .failed he.fault)
  unfold acquire
  refine (SameButCodes.log _).seq ((SameButCodes.log _).seq ?_)
  refine (hrequest _).bind fun result result' hresult => ?_
  cases hresult with
  | error h => exact .pure (.error h)
  | ok token => exact (SameButCodes.log _).seq (.pure (.ok token))

/-! ### Requests -/

namespace RequestSpec

lemma sendOnce_sameButCodes (r : RequestSpec) (token : AccessToken) (number : UInt32) :
    SameButCodes chained Eq (r.sendOnce token number : Work σ _) (r.sendOnce token number) := by
  unfold sendOnce
  split
  · exact .pure rfl
  · refine (SameButCodes.exchange _).bind fun outcome outcome' houtcome => ?_
    cases houtcome with
    | error fault => exact .pure rfl
    | ok hanswer =>
      dsimp only
      rw [hanswer.status]
      exact (SameButCodes.log _).seq (.pure rfl)

variable (policy : RetryPolicy)

lemma keeps_sameButCodes : (retrier policy loggingObserver : Retrier (Session σ) RequestError).Keeps
    (Session.SameButCodes chained) True where
  now := fun _ _ hs _ => congrArg Instant.nanos hs.now
  told := fun _ => SameButCodes.log _
  succeeded := by
    intro number elapsed elapsed' helapsed
    rw [helapsed trivial]
    exact SameButCodes.log _
  paused := by
    simp only [Retrier.pause]
    split
    · exact .pure rfl
    · intro s s' hs
      exact ⟨rfl, hs.network, hs.files, congrArg (Instant.add · _) hs.now,
        List.rel_append hs.history (.cons (.same (.waited _)) .nil)⟩

/-- In sessions that differ in codes the request comes to the same, and the same is said about it. -/
lemma execute_sameButCodes (r : RequestSpec) (token : AccessToken) :
    SameButCodes chained Eq (r.execute policy loggingObserver token : Work σ _)
      (r.execute policy loggingObserver token) := by
  have hannounce : SameButCodes chained Eq (r.announce : Work σ _) r.announce := by
    simp only [announce]
    cases r.insecureSkipVerify with
    | false => exact .log _
    | true => exact (SameButCodes.log _).seq (SameButCodes.log _)
  refine hannounce.seq (((keeps_sameButCodes policy).run (r.sendOnce_sameButCodes token)).bind
    fun result result' hresult => ?_)
  cases hresult with
  | ok status => exact (SameButCodes.log _).seq (.pure rfl)
  | error he =>
    cases he with
    | exhausted attempts e helapsed => exact (SameButCodes.log _).seq (.pure rfl)
    | nonRetryable attempt e => exact (SameButCodes.log _).seq (.pure rfl)

end RequestSpec

/-! ### Jobs -/

namespace JobError

/-- Two errors are the same, or there are no secrets or no token for reasons that differ in the values
of codes. -/
inductive SameButCodes : JobError → JobError → Prop
  | same (e : JobError) : SameButCodes e e
  | secrets {e e' : SecretError} (h : e.SameButCodes e') : SameButCodes (.secrets e) (.secrets e')
  | authentication {e e' : AuthError} (h : e.SameButCodes e') :
      SameButCodes (.authentication e) (.authentication e')

namespace SameButCodes

variable {e e' : JobError}

lemma redact_eq (h : e.SameButCodes e') : redact e.message = redact e'.message := by
  cases h with
  | same e => rfl
  | secrets h => exact h.redact_eq
  | authentication h => exact h.redact_eq

lemma stage_eq (h : e.SameButCodes e') : e.stage = e'.stage := by
  cases h with
  | same e => rfl
  | secrets h => cases h <;> rfl
  | authentication h => rfl

lemma exitCode_eq (h : e.SameButCodes e') : e.exitCode = e'.exitCode := by
  cases h <;> rfl

end SameButCodes

lemma ofSecret_sameButCodes {e e' : SecretError} (h : e.SameButCodes e') :
    (ofSecret e).SameButCodes (ofSecret e') := by
  cases h with
  | same e => exact .same _
  | credential h => exact .secrets (.credential h)

end JobError

namespace JobPlan

variable (p : JobPlan)

lemma identify_sameButCodes {k : Credential σ} (hk : k.Discreet chained) :
    SameButCodes chained (SameUpTo JobError.SameButCodes) (p.identify k) (p.identify k) := by
  refine (SameButCodes.log _).seq ?_
  refine (Vault.resolve_sameButCodes ⟨p.vault, k⟩ hk p.names.toList).bind fun result result' hresult => ?_
  cases hresult with
  | error h => exact .pure (.error (JobError.ofSecret_sameButCodes h))
  | ok secrets => exact (SameButCodes.log _).seq (.pure (.refl .same _))

lemma authenticate_sameButCodes (identity : ClientIdentity) (scopes : List String) :
    SameButCodes chained (SameUpTo JobError.SameButCodes) (p.authenticate identity scopes : Work σ _)
      (p.authenticate identity scopes) := by
  refine (TokenProvider.acquire_sameButCodes p.authority identity scopes).bind
    fun result result' hresult => ?_
  exact .pure (hresult.mapError fun e e' he => .authentication he)

lemma request_sameButCodes (policy : RetryPolicy) (token : AccessToken) :
    SameButCodes chained (SameUpTo JobError.SameButCodes) (p.request policy token : Work σ _)
      (p.request policy token) := by
  refine (p.spec.execute_sameButCodes policy token).bind_eq fun outcome => ?_
  cases outcome with
  | success status => exact .pure (.ok status)
  | failure attempts e => exact .pure (.error (.same _))

end JobPlan

lemma JobConfig.run_sameButCodes (c : JobConfig) {k : Credential σ} (hk : k.Discreet chained) :
    SameButCodes chained (SameUpTo JobError.SameButCodes) (c.run k) (c.run k) := by
  unfold run
  split
  · exact .pure (.error (.same _))
  · rename_i plan hplan
    refine (plan.identify_sameButCodes hk).bind fun result result' hresult => ?_
    cases hresult with
    | error h => exact .pure (.error h)
    | ok identity =>
      refine (plan.authenticate_sameButCodes identity c.identity.scopes).bind
        fun result result' hresult => ?_
      cases hresult with
      | error h => exact .pure (.error h)
      | ok token => exact plan.request_sameButCodes c.retry token

end Reindex
