import Mathlib.Order.Bounds.Basic
import Mathlib.Tactic.Common
import Reindex.Retry.Engine

/-!
# The course of a retried operation

The engine tells an observer, calls the operation and waits. For an operation that gives the results
of a given sequence, `Retrier.run_scripted` lists these steps one by one, up to the first attempt
after which there is no other, together with the error or the value that the run ends in. Neither the
observer nor the effects of the operation are restricted.
-/

namespace Reindex

variable {s ε α : Type}

/-- Something that the engine does. -/
inductive RetryStep (ε : Type) where
  | told (e : RetryEvent ε)
  | called (attempt : UInt32)
  | waited
  deriving DecidableEq, Repr

/-- The attempts for which the operation is called. -/
def RetryStep.calls (steps : List (RetryStep ε)) : List UInt32 :=
  steps.filterMap fun
    | .called attempt => some attempt
    | _ => none

/-- The steps between two attempts. -/
def RetryPolicy.pauseSteps (p : RetryPolicy) : List (RetryStep ε) :=
  if p.delay = 0 then [] else [.waited]

namespace Retrier

/-- The operation that gives the results of a sequence and changes the state in any way. -/
def scripted (results : Nat → Except ε α) (effect : UInt32 → s → s) :
    UInt32 → StateM s (Except ε α) :=
  fun attempt state => (results attempt.toNat, effect attempt state)

def perform (r : Retrier s ε) (effect : UInt32 → s → s) (state : s) : RetryStep ε → s
  | .told e => r.observer.notify e state
  | .called attempt => effect attempt state
  | .waited => r.clock.wait r.policy.delay state

/-- No attempt follows the `i`-th: it succeeds, it fails in a way that is not to be retried, or it is
the last one that the policy allows. -/
def IsFinal (r : Retrier s ε) (results : Nat → Except ε α) (i : Nat) : Prop :=
  (∃ value, results i = .ok value) ∨
    (∃ e, results i = .error e ∧ r.shouldRetry e = false) ∨
    i = r.policy.maxAttempts.toNat

/-! ### The steps -/

/-- The steps that every attempt begins with. -/
def begunSteps (r : Retrier s ε) (i : Nat) : List (RetryStep ε) :=
  [.told (.start (.ofNat i) r.policy.maxAttempts), .called (.ofNat i)]

/-- The steps of an attempt that another one follows. -/
def failedSteps (r : Retrier s ε) (results : Nat → Except ε α) (i : Nat) : List (RetryStep ε) :=
  r.begunSteps i ++ (match results i with
    | .ok _ => []
    | .error e => [.told (.retry (.ofNat i) e r.policy.delay)]) ++ r.policy.pauseSteps

/-- The steps of the last attempt that is made. -/
def finalSteps (r : Retrier s ε) (results : Nat → Except ε α) (k elapsed : Nat) :
    List (RetryStep ε) :=
  r.begunSteps k ++ match results k with
    | .ok _ => [.told (.success (.ofNat k) elapsed)]
    | .error e =>
      if r.shouldRetry e then
        [.told (.retry r.policy.maxAttempts e 0), .told (.exhausted r.policy.maxAttempts e)]
      else [.told (.cancelled (.ofNat k) e)]

/-- The attempts from `first` to `k`, of which the last one is final. -/
def courseFrom (r : Retrier s ε) (results : Nat → Except ε α) (first k elapsed : Nat) :
    List (RetryStep ε) :=
  (List.range' first (k - first)).flatMap (r.failedSteps results) ++
    r.finalSteps results k elapsed

/-- The result of a run whose last attempt is `k`. -/
def verdict (r : Retrier s ε) (results : Nat → Except ε α) (k elapsed : Nat) :
    Except (RetryError ε) α :=
  match results k with
  | .ok value => .ok value
  | .error e =>
    if r.shouldRetry e then .error (.exhausted r.policy.maxAttempts e elapsed)
    else .error (.nonRetryable (.ofNat k) e)

lemma courseFrom_self (r : Retrier s ε) (results : Nat → Except ε α) (k elapsed : Nat) :
    r.courseFrom results k k elapsed = r.finalSteps results k elapsed := by
  simp [courseFrom]

lemma courseFrom_of_lt (r : Retrier s ε) (results : Nat → Except ε α) {first k : Nat}
    (elapsed : Nat) (h : first < k) :
    r.courseFrom results first k elapsed =
      r.failedSteps results first ++ r.courseFrom results (first + 1) k elapsed := by
  have hlen : k - first = k - (first + 1) + 1 := by omega
  rw [courseFrom, courseFrom, hlen, List.range'_succ, List.flatMap_cons, List.append_assoc]

lemma calls_append (steps more : List (RetryStep ε)) :
    RetryStep.calls (steps ++ more) = RetryStep.calls steps ++ RetryStep.calls more :=
  List.filterMap_append

lemma calls_pauseSteps (p : RetryPolicy) :
    RetryStep.calls (p.pauseSteps : List (RetryStep ε)) = [] := by
  simp only [RetryPolicy.pauseSteps]
  split <;> rfl

lemma calls_failedSteps (r : Retrier s ε) (results : Nat → Except ε α) (i : Nat) :
    RetryStep.calls (r.failedSteps results i) = [.ofNat i] := by
  rw [failedSteps, calls_append, calls_pauseSteps, calls_append]
  cases results i <;> rfl

lemma calls_finalSteps (r : Retrier s ε) (results : Nat → Except ε α) (k elapsed : Nat) :
    RetryStep.calls (r.finalSteps results k elapsed) = [.ofNat k] := by
  rw [finalSteps, calls_append]
  cases results k with
  | ok value => rfl
  | error e => cases h : r.shouldRetry e <;> simp only [h] <;> rfl

/-- The operation is called once for each attempt, in their order. -/
lemma calls_courseFrom (r : Retrier s ε) (results : Nat → Except ε α) {first k : Nat}
    (elapsed : Nat) (h : first ≤ k) :
    RetryStep.calls (r.courseFrom results first k elapsed) =
      (List.range' first (k + 1 - first)).map UInt32.ofNat := by
  induction hd : k - first generalizing first with
  | zero =>
    obtain rfl : first = k := by omega
    rw [courseFrom_self, calls_finalSteps]
    simp
  | succ d ih =>
    have hlen : k + 1 - first = k + 1 - (first + 1) + 1 := by omega
    have ih := @ih (first + 1) (by omega) (by omega)
    rw [courseFrom_of_lt r results elapsed (by omega), calls_append, calls_failedSteps, ih, hlen,
      List.range'_succ, List.map_cons]
    rfl

/-! ### The engine -/

/-- The state after the time between two attempts. -/
def paused (r : Retrier s ε) (state : s) : s :=
  if r.policy.delay = 0 then state else r.clock.wait r.policy.delay state

lemma pause_apply (r : Retrier s ε) (state : s) : r.pause state = ((), r.paused state) := by
  simp only [pause, paused]
  split <;> rfl

lemma foldl_pauseSteps (r : Retrier s ε) (effect : UInt32 → s → s) (state : s) :
    r.policy.pauseSteps.foldl (r.perform effect) state = r.paused state := by
  simp only [RetryPolicy.pauseSteps, paused]
  split <;> rfl

/-- The work of `attemptFrom` makes one attempt, and its result decides what follows. -/
lemma attemptFrom_apply (r : Retrier s ε) (op : UInt32 → StateM s (Except ε α)) (began : Int)
    (left : Nat) (attempt : UInt32) (state : s) :
    r.attemptFrom op began left attempt state =
      match op attempt (r.observer.notify (.start attempt r.policy.maxAttempts) state) with
      | (.ok value, state) =>
        (.ok value, r.observer.notify (.success attempt (r.clock.now state - began).toNat) state)
      | (.error e, state) =>
        if r.shouldRetry e then
          match left with
          | 0 =>
            let state := r.observer.notify (.exhausted attempt e)
              (r.observer.notify (.retry attempt e 0) state)
            (.error (.exhausted attempt e (r.clock.now state - began).toNat), state)
          | left + 1 =>
            r.attemptFrom op began left (attempt + 1)
              (r.paused (r.observer.notify (.retry attempt e r.policy.delay) state))
        else (.error (.nonRetryable attempt e), r.observer.notify (.cancelled attempt e) state) := by
  rw [attemptFrom.eq_def]
  simp only [bind, StateT.bind, notify, modify, modifyGet, MonadStateOf.modifyGet,
    StateT.modifyGet, pure]
  cases hop : op attempt (r.observer.notify (.start attempt r.policy.maxAttempts) state) with
  | mk result after =>
    cases result with
    | ok value => rfl
    | error e =>
      cases hr : r.shouldRetry e with
      | false =>
        simp only [hr, Bool.not_false, if_true]
        rfl
      | true =>
        simp only [hr, Bool.not_true, Bool.false_eq_true, if_false, if_true]
        cases left with
        | zero => rfl
        | succ left =>
          simp only [StateT.bind, pause_apply]
          rfl

/-- Attempts are counted without overflow. -/
lemma toNat_ofNat_of_le (r : Retrier s ε) {i : Nat} (h : i ≤ r.policy.maxAttempts.toNat) :
    (UInt32.ofNat i).toNat = i :=
  UInt32.toNat_ofNat_of_lt' (Nat.lt_of_le_of_lt h r.policy.maxAttempts.toNat_lt)

lemma exists_retryable_of_not_isFinal {r : Retrier s ε} {results : Nat → Except ε α} {i : Nat}
    (h : ¬ r.IsFinal results i) : ∃ e, results i = .error e ∧ r.shouldRetry e = true := by
  cases hi : results i with
  | ok value => exact absurd (.inl ⟨value, hi⟩) h
  | error e =>
    refine ⟨e, rfl, ?_⟩
    by_contra hr
    exact h (.inr (.inl ⟨e, hi, by simpa using hr⟩))

lemma attemptFrom_of_isFinal (r : Retrier s ε) (results : Nat → Except ε α)
    (effect : UInt32 → s → s) (began : Int) {left i : Nat} (state : s)
    (hn : i + left = r.policy.maxAttempts.toNat) (h : r.IsFinal results i) :
    ∃ elapsed, r.attemptFrom (scripted results effect) began left (.ofNat i) state =
      (r.verdict results i elapsed,
        (r.finalSteps results i elapsed).foldl (r.perform effect) state) := by
  have hi : (UInt32.ofNat i).toNat = i := r.toNat_ofNat_of_le (by omega)
  rw [attemptFrom_apply]
  simp only [scripted, hi, verdict, finalSteps]
  cases hres : results i with
  | ok value => exact ⟨_, rfl⟩
  | error e =>
    cases hr : r.shouldRetry e with
    | false =>
      simp only [hr, Bool.false_eq_true, if_false]
      exact ⟨0, rfl⟩
    | true =>
      have hlast : i = r.policy.maxAttempts.toNat := by
        obtain ⟨value, hv⟩ | ⟨e', he, hr'⟩ | hlast := h
        · rw [hres] at hv
          cases hv
        · rw [hres] at he
          cases he
          rw [hr] at hr'
          cases hr'
        · exact hlast
      have hmax : UInt32.ofNat i = r.policy.maxAttempts := by
        rw [← UInt32.toNat_inj, hi]
        exact hlast
      obtain rfl : left = 0 := by omega
      simp only [hr, if_true, begunSteps, hmax]
      exact ⟨_, rfl⟩

lemma attemptFrom_of_not_isFinal (r : Retrier s ε) (results : Nat → Except ε α)
    (effect : UInt32 → s → s) (began : Int) {left i : Nat} (state : s)
    (hn : i + (left + 1) = r.policy.maxAttempts.toNat) (h : ¬ r.IsFinal results i) :
    r.attemptFrom (scripted results effect) began (left + 1) (.ofNat i) state =
      r.attemptFrom (scripted results effect) began left (.ofNat (i + 1))
        ((r.failedSteps results i).foldl (r.perform effect) state) := by
  have hi : (UInt32.ofNat i).toNat = i := r.toNat_ofNat_of_le (by omega)
  have hnext : UInt32.ofNat i + 1 = UInt32.ofNat (i + 1) := by simp
  obtain ⟨e, he, hr⟩ := exists_retryable_of_not_isFinal h
  rw [attemptFrom_apply, failedSteps, List.foldl_append, foldl_pauseSteps]
  simp only [scripted, hi, he, hr, hnext, if_true]
  rfl

/-- The work of `attemptFrom` on a scripted operation takes the course from attempt `i` to the first final
one. The induction is on the attempts that are left behind it. -/
lemma attemptFrom_scripted (r : Retrier s ε) (results : Nat → Except ε α)
    (effect : UInt32 → s → s) (began : Int) (left : Nat) :
    ∀ (i : Nat) (state : s), i + left = r.policy.maxAttempts.toNat →
      ∃ k elapsed, i ≤ k ∧ r.IsFinal results k ∧ (∀ j, i ≤ j → j < k → ¬ r.IsFinal results j) ∧
        r.attemptFrom (scripted results effect) began left (.ofNat i) state =
          (r.verdict results k elapsed,
            (r.courseFrom results i k elapsed).foldl (r.perform effect) state) := by
  induction left with
  | zero =>
    intro i state hn
    obtain ⟨elapsed, hrun⟩ :=
      r.attemptFrom_of_isFinal results effect began state hn (.inr (.inr hn))
    exact ⟨i, elapsed, le_rfl, .inr (.inr hn), by omega, by rw [courseFrom_self, hrun]⟩
  | succ left ih =>
    intro i state hn
    by_cases hfinal : r.IsFinal results i
    · obtain ⟨elapsed, hrun⟩ := r.attemptFrom_of_isFinal results effect began state hn hfinal
      exact ⟨i, elapsed, le_rfl, hfinal, by omega, by rw [courseFrom_self, hrun]⟩
    · obtain ⟨k, elapsed, hik, hk, hleast, hrun⟩ :=
        ih (i + 1) ((r.failedSteps results i).foldl (r.perform effect) state) (by omega)
      refine ⟨k, elapsed, by omega, hk, fun j hij hjk => ?_, ?_⟩
      · rcases Nat.eq_or_lt_of_le hij with rfl | hlt
        · exact hfinal
        · exact hleast j hlt hjk
      · have hlt : i < k := hik
        rw [courseFrom_of_lt r results elapsed hlt, List.foldl_append, ← hrun]
        exact r.attemptFrom_of_not_isFinal results effect began state hn hfinal

/-- The work of `attemptFrom` is the same for two operations that do the same wherever the attempts lead.
What is known of the state before the `i`-th call is `P i`. -/
lemma attemptFrom_congr (r : Retrier s ε) {op op' : UInt32 → StateM s (Except ε α)}
    {P : Nat → s → Prop} (htold : ∀ i e state, P i state → P i (r.observer.notify e state))
    (hpaused : ∀ i state, P i state → P i (r.paused state))
    (hcalled : ∀ i state, i ≤ r.policy.maxAttempts.toNat → P i state →
      op (.ofNat i) state = op' (.ofNat i) state ∧ P (i + 1) (op (.ofNat i) state).2)
    (began : Int) (left : Nat) :
    ∀ (i : Nat) (state : s), i + left = r.policy.maxAttempts.toNat → P i state →
      r.attemptFrom op began left (.ofNat i) state = r.attemptFrom op' began left (.ofNat i) state := by
  induction left with
  | zero =>
    intro i state hn hP
    rw [attemptFrom_apply, attemptFrom_apply, (hcalled i _ (by omega) (htold i _ _ hP)).1]
  | succ left ih =>
    intro i state hn hP
    have hnext : UInt32.ofNat i + 1 = UInt32.ofNat (i + 1) := by simp
    obtain ⟨hsame, hafter⟩ := hcalled i _ (by omega)
      (htold i (.start (.ofNat i) r.policy.maxAttempts) _ hP)
    rw [attemptFrom_apply, attemptFrom_apply, ← hsame]
    cases hop : op (.ofNat i) (r.observer.notify (.start (.ofNat i) r.policy.maxAttempts) state) with
    | mk result after =>
      rw [hop] at hafter
      cases result with
      | ok value => rfl
      | error e =>
        dsimp only
        rw [hnext, ih (i + 1) _ (by omega) (hpaused _ _ (htold _ _ _ hafter))]

/-- A run makes the attempts from the first to the first final one, each with the steps that
`courseFrom` lists, and its result is that of the last of them. -/
theorem run_scripted (r : Retrier s ε) (results : Nat → Except ε α) (effect : UInt32 → s → s)
    (state : s) :
    ∃ k elapsed, IsLeast {i | 1 ≤ i ∧ r.IsFinal results i} k ∧
      r.run (scripted results effect) state =
        (r.verdict results k elapsed,
          (r.courseFrom results 1 k elapsed).foldl (r.perform effect) state) ∧
      RetryStep.calls (r.courseFrom results 1 k elapsed) =
        (List.range' 1 k).map UInt32.ofNat ∧
      k ≤ r.policy.maxAttempts.toNat ∧ ∀ i ≤ k, (UInt32.ofNat i).toNat = i := by
  have hpos : 0 < r.policy.maxAttempts.toNat := UInt32.lt_iff_toNat_lt.mp r.policy.maxAttempts_pos
  obtain ⟨k, elapsed, hk1, hk, hleast, hrun⟩ :=
    r.attemptFrom_scripted results effect (r.clock.now state) (r.policy.maxAttempts.toNat - 1) 1
      state (by omega)
  have hle : k ≤ r.policy.maxAttempts.toNat := by
    by_contra hlt
    exact hleast _ hpos (by omega) (.inr (.inr rfl))
  refine ⟨k, elapsed, ⟨⟨hk1, hk⟩, fun j hj => ?_⟩, hrun, ?_, hle, fun i hi => ?_⟩
  · by_contra hlt
    exact hleast j hj.1 (by omega) hj.2
  · exact r.calls_courseFrom results elapsed hk1
  · exact r.toNat_ofNat_of_le (le_trans hi hle)

end Retrier

end Reindex
