import Reindex.Proofs.Retry.Relation
import Reindex.Proofs.Secret.Alike
import Reindex.Target.Executor

/-!
# Attempts that show different tokens

A token that can be shown is shown in every attempt, and nothing else is done with it. So two requests
that differ in their tokens are attempted equally often, and they succeed alike or fail alike.
-/

namespace Reindex

open Work (Related Alike)

variable {σ : Type}

lemma Http.Response.SameButSecrets.status_eq {r r' : Http.Response} (h : r.SameButSecrets r') :
    r.status = r'.status := by
  cases h <;> rfl

namespace RequestSpec

/-- The number of attempts and the error of a failure, without the time that it took. -/
def verdict (e : RetryError RequestError) : UInt32 × RequestError := (e.attempts, e.error)

/-- The requests are alike if the tokens they show are. -/
lemma request_alike (r : RequestSpec) {token token' : AccessToken} (h : token.Alike token') :
    (r.request token).Alike (r.request token') :=
  .get r.url (congrArg (· && _) h)

lemma sendOnce_alike (r : RequestSpec) {token token' : AccessToken} (h : token.Alike token')
    (number : UInt32) :
    Alike (Agree Eq) (r.sendOnce token number : Work σ _) (r.sendOnce token' number) := by
  unfold sendOnce
  rw [h]
  split
  · exact .pure (.error _)
  · refine (Alike.exchange (r.request_alike h)).bind fun outcome outcome' houtcome => ?_
    cases houtcome with
    | error fault => exact .pure (.error _)
    | ok hanswer =>
      dsimp only
      rw [hanswer.status_eq]
      exact (Alike.log rfl).seq (.pure (.refl Eq.refl _))

variable (policy : RetryPolicy)

/-- The observer is told of a success alike, however long the attempts took. -/
lemma notify_success_alike (number : UInt32) (elapsed elapsed' : Nat) :
    Alike Eq
      ((retrier policy loggingObserver : Retrier (Session σ) RequestError).notify
        (.success number elapsed))
      ((retrier policy loggingObserver : Retrier (Session σ) RequestError).notify
        (.success number elapsed')) := by
  apply Alike.log
  unfold RetryObserver.logEvent
  dsimp only
  split
  · simp [LogEvent.withoutTimes, LogEvent.timeFields]
  · simp [LogEvent.withoutTimes, LogEvent.timeFields]

lemma pause_alike :
    Alike Eq (retrier policy loggingObserver : Retrier (Session σ) RequestError).pause
      (retrier policy loggingObserver).pause := by
  simp only [Retrier.pause]
  split
  · exact .pure rfl
  · intro s s' hs
    exact ⟨rfl, hs.network, hs.files, List.rel_append hs.history (.cons (.waited _) .nil)⟩

/-- Sessions that are alike need not agree on the time. -/
lemma keeps_alike :
    (retrier policy loggingObserver : Retrier (Session σ) RequestError).Keeps Session.Alike False where
  now := fun _ _ _ htimed => htimed.elim
  told := fun _ => Alike.log rfl
  succeeded := fun number _ _ _ => notify_success_alike policy number _ _
  paused := pause_alike policy

/-- The attempts of two requests go alike, whenever they began. -/
lemma attemptFrom_alike (r : RequestSpec) {token token' : AccessToken} (h : token.Alike token')
    (began began' : Int) (left : Nat) (number : UInt32) :
    Alike (fun result result' => result.mapError verdict = result'.mapError verdict)
      ((retrier policy loggingObserver : Retrier (Session σ) RequestError).attemptFrom
        (r.sendOnce token) began left number)
      ((retrier policy loggingObserver).attemptFrom (r.sendOnce token') began' left number) := by
  have hop : ∀ number, Alike Eq (r.sendOnce token number : Work σ _) (r.sendOnce token' number) :=
    fun number => (r.sendOnce_alike h number).mono fun _ _ hresult => hresult.eq
  refine ((keeps_alike policy).attemptFrom hop False.elim left number).mono fun _ _ hresult => ?_
  cases hresult with
  | ok status => rfl
  | error he => cases he <;> rfl

/-- The outcome of a request is the same, whichever token is shown. -/
lemma execute_alike (r : RequestSpec) {token token' : AccessToken} (h : token.Alike token') :
    Alike Eq (r.execute policy loggingObserver token : Work σ _)
      (r.execute policy loggingObserver token') := by
  have hannounce : Alike Eq (r.announce : Work σ _) r.announce := by
    simp only [announce]
    cases r.insecureSkipVerify with
    | false => exact Alike.log rfl
    | true => exact (Alike.log rfl).seq (Alike.log rfl)
  have hrun : Alike (fun result result' => result.mapError verdict = result'.mapError verdict)
      ((retrier policy loggingObserver : Retrier (Session σ) RequestError).run (r.sendOnce token))
      ((retrier policy loggingObserver).run (r.sendOnce token')) :=
    fun s s' hs => r.attemptFrom_alike policy h _ _ _ 1 s s' hs
  refine hannounce.seq (hrun.bind fun result result' hresult => ?_)
  simp only [conclude]
  cases result with
  | ok status =>
    cases result' with
    | ok status' =>
      cases hresult
      exact (Alike.log rfl).seq (.pure rfl)
    | error e => cases hresult
  | error e =>
    cases result' with
    | ok status => cases hresult
    | error e' =>
      obtain ⟨hattempts, herror⟩ := Prod.ext_iff.mp (Except.error.inj hresult)
      have hattempts : e.attempts = e'.attempts := hattempts
      have herror : e.error = e'.error := herror
      dsimp only
      rw [hattempts, herror]
      exact (Alike.log rfl).seq (.pure rfl)

end RequestSpec

end Reindex
