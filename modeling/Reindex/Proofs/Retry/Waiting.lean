import Reindex.Proofs.Retry.Course

/-!
# How long a run waits

The time that a policy allows for waiting is the wait between two attempts, as often as there can be one.
It is exact or, where no span of time is that long, there is none. A run that is watched shows that it
never waits longer in total, and as long as that only if all attempts are made.
-/

namespace Reindex

namespace RetryPolicy

variable {p : RetryPolicy}

/-- The nanoseconds of all waits that there can be. -/
def longestWait (p : RetryPolicy) : Nat := p.delay.toNanos * (p.maxAttempts.toNat - 1)

lemma toNanos_delay_mul (p : RetryPolicy) :
    p.delay.toNanos * (p.maxAttempts - 1).toNat = p.longestWait := by
  rw [UInt32.toNat_sub_of_le _ _ p.one_le_maxAttempts]
  rfl

lemma totalDelay?_eq_none_iff : p.totalDelay? = none ↔ UInt64.size * nanosInSecond ≤ p.longestWait := by
  rw [← p.toNanos_delay_mul]
  constructor
  · exact Span.le_of_times?_eq_none
  · intro hlong
    cases htotal : p.totalDelay? with
    | none => rfl
    | some total =>
      have hnanos := Span.toNanos_of_times? htotal
      exact absurd (total.toNanos_lt) (by rw [hnanos]; exact Nat.not_lt.mpr hlong)

lemma totalDelay?_eq_some_iff {total : Span} :
    p.totalDelay? = some total ↔ total.toNanos = p.longestWait := by
  constructor
  · intro htotal
    rw [← p.toNanos_delay_mul]
    exact Span.toNanos_of_times? htotal
  · intro hnanos
    cases htotal : p.totalDelay? with
    | none =>
      have hlong := totalDelay?_eq_none_iff.mp htotal
      rw [← hnanos] at hlong
      exact absurd total.toNanos_lt (Nat.not_lt.mpr hlong)
    | some other =>
      have hother := Span.toNanos_of_times? htotal
      rw [p.toNanos_delay_mul, ← hnanos] at hother
      rw [Span.toNanos_injective hother]

/-- The waits behind so many attempts that failed. Without a delay there are none. -/
def waits (p : RetryPolicy) (failed : Nat) : List Span :=
  if p.delay = 0 then [] else List.replicate failed p.delay

lemma waits_one (p : RetryPolicy) : p.waits 1 = [] ∨ p.waits 1 = [p.delay] := by
  unfold waits
  split
  · exact .inl rfl
  · exact .inr rfl

lemma waits_succ (p : RetryPolicy) (failed : Nat) : p.waits (failed + 1) = p.waits 1 ++ p.waits failed := by
  unfold waits
  split
  · rfl
  · rfl

end RetryPolicy

/-! ### Runs that are watched -/

/-- The attempts for which an operation was called, and the waits. -/
structure RunNotes where
  calls : List UInt32 := []
  waits : List Span := []

namespace RunNotes

/-- The nanoseconds of all waits. -/
def waited (notes : RunNotes) : Nat :=
  notes.waits.foldr (fun time rest => time.toNanos + rest) 0

lemma waited_eq (p : RetryPolicy) (calls : List UInt32) (failed : Nat) :
    waited ⟨calls, p.waits failed⟩ = p.delay.toNanos * failed := by
  unfold RetryPolicy.waits
  split
  · rename_i hzero
    rw [hzero, Span.toNanos_zero, Nat.zero_mul]
    rfl
  · induction failed with
    | zero => rfl
    | succ failed ih =>
      have hwait : waited ⟨calls, List.replicate (failed + 1) p.delay⟩ =
          p.delay.toNanos + waited ⟨calls, List.replicate failed p.delay⟩ := rfl
      rw [hwait, ih, Nat.add_comm]
      exact (Nat.mul_succ _ failed).symm

/-- A run makes at least one attempt and no more than a policy allows, waits for the delay every time and
for no longer than the policy allows for. It waits as long as that if all attempts are made, and
otherwise only if there is no delay. -/
structure WaitsWithin (notes : RunNotes) (p : RetryPolicy) : Prop where
  called : 1 ≤ notes.calls.length ∧ notes.calls.length ≤ p.maxAttempts.toNat
  waits : ∀ time ∈ notes.waits, time = p.delay
  waited_le : notes.waited ≤ p.longestWait
  waited_eq_iff : notes.waited = p.longestWait ↔
    p.delay = 0 ∨ notes.calls.length = p.maxAttempts.toNat

lemma waitsWithin_of_failed {p : RetryPolicy} {calls : List UInt32} {failed : Nat}
    (hcalls : calls.length = failed + 1) (hfailed : failed ≤ p.maxAttempts.toNat - 1) :
    WaitsWithin ⟨calls, p.waits failed⟩ p where
  called := by
    have hpos := p.toNat_maxAttempts_pos
    dsimp only
    omega
  waits := by
    intro time htime
    dsimp only [RetryPolicy.waits] at htime
    split at htime
    · cases htime
    · exact List.eq_of_mem_replicate htime
  waited_le := by
    rw [waited_eq]
    exact Nat.mul_le_mul_left _ hfailed
  waited_eq_iff := by
    rw [waited_eq, RetryPolicy.longestWait]
    by_cases hzero : p.delay = 0
    · rw [Span.toNanos_eq_zero_iff.mpr hzero, Nat.zero_mul, Nat.zero_mul]
      exact iff_of_true rfl (.inl hzero)
    · have hpos := p.toNat_maxAttempts_pos
      have hdelay : 0 < p.delay.toNanos :=
        Nat.pos_of_ne_zero fun h => hzero (Span.toNanos_eq_zero_iff.mp h)
      rw [Nat.mul_left_cancel_iff hdelay, or_iff_right hzero]
      dsimp only
      omega

end RunNotes

namespace Retrier

variable {s ε α : Type}

/-- A retrier whose clock notes the waits. -/
def watched (r : Retrier s ε) : Retrier (RunNotes × s) ε where
  policy := r.policy
  shouldRetry := r.shouldRetry
  observer := .leaf fun e state => (state.1, r.observer.notify e state.2)
  clock := {
    now := fun state => r.clock.now state.2
    wait := fun time state =>
      ({ state.1 with waits := state.1.waits ++ [time] }, r.clock.wait time state.2) }

/-- An operation whose calls are noted. -/
def watchedOp (op : UInt32 → StateM s (Except ε α)) : UInt32 → StateM (RunNotes × s) (Except ε α) :=
  fun attempt state =>
    ((op attempt state.2).1,
      ({ state.1 with calls := state.1.calls ++ [attempt] }, (op attempt state.2).2))

lemma paused_eq_foldl (r : Retrier s ε) (state : s) :
    r.paused state = (r.policy.waits 1).foldl (fun state time => r.clock.wait time state) state := by
  unfold paused RetryPolicy.waits
  split <;> rfl

lemma paused_watched (r : Retrier s ε) (notes : RunNotes) (state : s) :
    r.watched.paused (notes, state) =
      ({ notes with waits := notes.waits ++ r.policy.waits 1 }, r.paused state) := by
  have hwaits : r.watched.policy.waits 1 = r.policy.waits 1 := rfl
  rw [paused_eq_foldl, paused_eq_foldl, hwaits]
  obtain hnone | hone := r.policy.waits_one
  · rw [hnone, List.append_nil]
    rfl
  · rw [hone]
    rfl

/-- Every attempt but the last one is followed by a wait, whatever the operation does. The recursion is
on the attempts that are left behind this one. -/
lemma attemptFrom_watched (r : Retrier s ε) (op : UInt32 → StateM s (Except ε α)) (began : Int)
    (left : Nat) (attempt : UInt32) (notes : RunNotes) (state : s) : ∃ calls failed,
      r.watched.attemptFrom (watchedOp op) began left attempt (notes, state) =
        ((r.attemptFrom op began left attempt state).1,
          ⟨notes.calls ++ calls, notes.waits ++ r.policy.waits failed⟩,
          (r.attemptFrom op began left attempt state).2) ∧
      calls.length = failed + 1 ∧ failed ≤ left := by
  have hcall : watchedOp op attempt
        (r.watched.observer.notify (.start attempt r.watched.policy.maxAttempts) (notes, state)) =
      ((op attempt (r.observer.notify (.start attempt r.policy.maxAttempts) state)).1,
        { notes with calls := notes.calls ++ [attempt] },
        (op attempt (r.observer.notify (.start attempt r.policy.maxAttempts) state)).2) := rfl
  have hnone : notes.waits = notes.waits ++ r.policy.waits 0 := by
    unfold RetryPolicy.waits
    split <;> exact (List.append_nil _).symm
  rw [attemptFrom_apply, attemptFrom_apply, hcall]
  obtain ⟨result, state⟩ := op attempt (r.observer.notify (.start attempt r.policy.maxAttempts) state)
  cases result with
  | ok value =>
    refine ⟨[attempt], 0, ?_, rfl, Nat.zero_le left⟩
    rw [← hnone]
    rfl
  | error e =>
    have hretry : r.watched.shouldRetry e = r.shouldRetry e := rfl
    dsimp only
    rw [hretry]
    by_cases hr : r.shouldRetry e = true
    · rw [if_pos hr, if_pos hr]
      match left with
      | 0 =>
        refine ⟨[attempt], 0, ?_, rfl, Nat.le_refl 0⟩
        rw [← hnone]
        rfl
      | left + 1 =>
        have hpaused := r.paused_watched { notes with calls := notes.calls ++ [attempt] }
          (r.observer.notify (.retry attempt e r.policy.delay) state)
        obtain ⟨calls, failed, hrest, hcalls, hfailed⟩ := attemptFrom_watched r op began left (attempt + 1)
          ⟨notes.calls ++ [attempt], notes.waits ++ r.policy.waits 1⟩
          (r.paused (r.observer.notify (.retry attempt e r.policy.delay) state))
        refine ⟨attempt :: calls, failed + 1, ?_, congrArg Nat.succ hcalls, Nat.succ_le_succ hfailed⟩
        have hnotes : notes.calls ++ attempt :: calls = notes.calls ++ [attempt] ++ calls :=
          List.append_cons _ _ _
        rw [r.policy.waits_succ, hnotes, ← List.append_assoc]
        exact (congrArg (r.watched.attemptFrom (watchedOp op) began left (attempt + 1)) hpaused).trans hrest
    · rw [if_neg hr, if_neg hr]
      refine ⟨[attempt], 0, ?_, rfl, Nat.zero_le left⟩
      rw [← hnone]
      rfl

lemma run_watched (r : Retrier s ε) (op : UInt32 → StateM s (Except ε α)) (state : s) :
    ∃ notes : RunNotes, r.watched.run (watchedOp op) ({}, state) =
        ((r.run op state).1, notes, (r.run op state).2) ∧ notes.WaitsWithin r.policy := by
  obtain ⟨calls, failed, hrun, hcalls, hfailed⟩ := r.attemptFrom_watched op (r.clock.now state)
    (r.policy.maxAttempts.toNat - 1) 1 {} state
  exact ⟨⟨calls, r.policy.waits failed⟩, hrun, RunNotes.waitsWithin_of_failed hcalls hfailed⟩

/-- The time that a policy allows for waiting, and the time that runs wait. For any policy it is the
delay times the attempts but one, if that is less than 2 ^ 64 seconds, and there is none otherwise. No run
waits longer, whatever is retried and whatever the operation does; it waits as long as that if it makes
all attempts, and otherwise only if there is no delay. -/
theorem totalDelay?_tight :
    (∀ p : RetryPolicy,
      (p.totalDelay? = none ↔
        UInt64.size * nanosInSecond ≤ p.delay.toNanos * (p.maxAttempts.toNat - 1)) ∧
      ∀ total : Span, p.totalDelay? = some total ↔
        total.toNanos = p.delay.toNanos * (p.maxAttempts.toNat - 1)) ∧
    ∀ (s ε α : Type) (r : Retrier s ε) (op : UInt32 → StateM s (Except ε α)) (state : s),
      ∃ notes : RunNotes, r.watched.run (watchedOp op) ({}, state) =
          ((r.run op state).1, notes, (r.run op state).2) ∧ notes.WaitsWithin r.policy :=
  ⟨fun _ => ⟨RetryPolicy.totalDelay?_eq_none_iff, fun _ => RetryPolicy.totalDelay?_eq_some_iff⟩,
    fun _ _ _ r op state => r.run_watched op state⟩

end Retrier

end Reindex
