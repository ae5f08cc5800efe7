import Reindex.Proofs.Outcome
import Reindex.Proofs.Session.Relation
import Reindex.Retry.Engine

/-!
# Two runs of a retried operation

Where every attempt keeps two sessions related, and so do the observer and the waits, whole runs keep
them related, and they come to the same result. How much time they took may differ if the sessions need
not agree on the time.
-/

namespace Reindex

open Work (Related)

variable {σ ε α : Type} {R : Session σ → Session σ → Prop} {timed : Prop}

/-- Two errors are the same but for the time that the attempts took, which is the same if `timed`. -/
inductive RetryError.SameButTime (timed : Prop) : RetryError ε → RetryError ε → Prop
  | exhausted (attempts : UInt32) (e : ε) {elapsed elapsed' : Nat} (h : timed → elapsed = elapsed') :
      SameButTime timed (.exhausted attempts e elapsed) (.exhausted attempts e elapsed')
  | nonRetryable (attempt : UInt32) (e : ε) :
      SameButTime timed (.nonRetryable attempt e) (.nonRetryable attempt e)

namespace Retrier

variable {r : Retrier (Session σ) ε}

/-- A retrier whose observer and whose waits keep sessions related by `R`, which agree on the time if
`timed`. -/
structure Keeps (r : Retrier (Session σ) ε) (R : Session σ → Session σ → Prop) (timed : Prop) :
    Prop where
  now : ∀ s s', R s s' → timed → r.clock.now s = r.clock.now s'
  told : ∀ e, Related R R Eq (r.notify e) (r.notify e)
  succeeded : ∀ attempt {elapsed elapsed' : Nat}, (timed → elapsed = elapsed') →
    Related R R Eq (r.notify (.success attempt elapsed)) (r.notify (.success attempt elapsed'))
  paused : Related R R Eq r.pause r.pause

namespace Keeps

lemma elapsed (h : r.Keeps R timed) {began began' : Int} (hbegan : timed → began = began') :
    Related R R (fun elapsed elapsed' => timed → elapsed = elapsed') (r.elapsed began)
      (r.elapsed began') := by
  intro s s' hs
  refine ⟨fun htimed => ?_, hs⟩
  simp only [Retrier.elapsed, h.now s s' hs htimed, hbegan htimed]

variable {op op' : UInt32 → Work σ (Except ε α)}

/-- The work of `attemptFrom` keeps sessions related if the operation and whatever is done besides do. The
recursion is on the attempts that are left. -/
lemma attemptFrom (h : r.Keeps R timed) (hop : ∀ attempt, Related R R Eq (op attempt) (op' attempt))
    {began began' : Int} (hbegan : timed → began = began') (left : Nat) (attempt : UInt32) :
    Related R R (SameUpTo (RetryError.SameButTime timed)) (r.attemptFrom op began left attempt)
      (r.attemptFrom op' began' left attempt) := by
  unfold Retrier.attemptFrom
  apply (h.told _).seq
  refine (hop attempt).bind fun result result' hresult => ?_
  cases hresult
  cases result with
  | ok value =>
    refine (h.elapsed hbegan).bind fun elapsed elapsed' helapsed => ?_
    exact (h.succeeded attempt helapsed).seq (.pure (.ok value))
  | error e =>
    dsimp only
    split
    · exact (h.told _).seq (.pure (.error (.nonRetryable attempt e)))
    · cases left with
      | zero =>
        refine (h.told _).seq ((h.told _).seq ?_)
        exact (h.elapsed hbegan).bind fun _ _ helapsed =>
          .pure (.error (.exhausted attempt e helapsed))
      | succ left =>
        refine (h.told _).seq (h.paused.seq ?_)
        exact attemptFrom h hop hbegan left (attempt + 1)

lemma run (h : r.Keeps R timed) (hop : ∀ attempt, Related R R Eq (op attempt) (op' attempt)) :
    Related R R (SameUpTo (RetryError.SameButTime timed)) (r.run op) (r.run op') :=
  fun s s' hs => h.attemptFrom hop (h.now s s' hs) _ 1 s s' hs

end Keeps

end Retrier

end Reindex
