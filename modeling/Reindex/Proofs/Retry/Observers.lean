import Reindex.Proofs.Retry.Waiting

/-!
# What observers are told

However observers are put together, each of them is told everything that happens in a run, in order, and
the left one of two before the right one. None of them has a say in the run: it makes the same calls and the
same waits and comes to the same result whoever looks on. What is told follows from the results of the
calls, attempt by attempt.
-/

namespace Reindex

variable {s o ε α : Type}

/-! ### What happens in a run -/

/-- From the `i`-th attempt on, operations were called for these attempts and came to these results, and
these events were told. -/
inductive RetryPolicy.Tells (p : RetryPolicy) (shouldRetry : ε → Bool) :
    Nat → List (UInt32 × Except ε α) → List (RetryEvent ε) → Prop
  | success {i : Nat} (value : α) (elapsed : Nat) :
    Tells p shouldRetry i [(.ofNat i, .ok value)]
      [.start (.ofNat i) p.maxAttempts, .success (.ofNat i) elapsed]
  | cancelled {i : Nat} {e : ε} (h : shouldRetry e = false) :
    Tells p shouldRetry i [(.ofNat i, .error e)]
      [.start (.ofNat i) p.maxAttempts, .cancelled (.ofNat i) e]
  | exhausted {i : Nat} {e : ε} (h : shouldRetry e = true) (hlast : i = p.maxAttempts.toNat) :
    Tells p shouldRetry i [(.ofNat i, .error e)]
      [.start (.ofNat i) p.maxAttempts, .retry (.ofNat i) e 0, .exhausted (.ofNat i) e]
  | failed {i : Nat} {e : ε} {calls : List (UInt32 × Except ε α)} {events : List (RetryEvent ε)}
    (h : shouldRetry e = true) (hleft : i < p.maxAttempts.toNat)
    (rest : Tells p shouldRetry (i + 1) calls events) :
    Tells p shouldRetry i ((.ofNat i, .error e) :: calls)
      (.start (.ofNat i) p.maxAttempts :: .retry (.ofNat i) e p.delay :: events)

/-- The failures that may be retried, with their attempts. -/
def retryableFailures (shouldRetry : ε → Bool) (calls : List (UInt32 × Except ε α)) :
    List (UInt32 × ε) :=
  calls.filterMap fun
    | (attempt, .error e) => if shouldRetry e then some (attempt, e) else none
    | (_, .ok _) => none

lemma retryableFailures_cons {shouldRetry : ε → Bool} {e : ε} (h : shouldRetry e = true) (attempt : UInt32)
    (calls : List (UInt32 × Except ε α)) :
    retryableFailures shouldRetry ((attempt, .error e) :: calls) =
      (attempt, e) :: retryableFailures shouldRetry calls := by
  simp [retryableFailures, h]

namespace RetryPolicy.Tells

variable {p : RetryPolicy} {shouldRetry : ε → Bool} {i : Nat} {calls : List (UInt32 × Except ε α)}
  {events : List (RetryEvent ε)}

/-- The attempts in the calls of a run are counted on from the `i`-th. -/
lemma attempts (h : p.Tells shouldRetry i calls events) :
    calls.map Prod.fst = (List.range' i calls.length).map UInt32.ofNat := by
  induction h with
  | success value elapsed => rfl
  | cancelled h => rfl
  | exhausted h hlast => rfl
  | failed h hleft rest ih =>
    rw [List.map_cons, ih, List.length_cons, List.range'_succ, List.map_cons]

/-- The retryable failures come first, so their attempts are counted on from the `i`-th too. -/
lemma attempts_retryable (h : p.Tells shouldRetry i calls events) :
    (retryableFailures shouldRetry calls).map Prod.fst =
      (List.range' i (retryableFailures shouldRetry calls).length).map UInt32.ofNat := by
  induction h with
  | success value elapsed => rfl
  | cancelled h => simp [retryableFailures, h]
  | exhausted h hlast => simp [retryableFailures, h]
  | failed h hleft rest ih =>
    rw [retryableFailures_cons h, List.map_cons, ih, List.length_cons, List.range'_succ, List.map_cons]

/-- An observer made by `onRetry` is called for each failure that may be retried once, and for nothing else. -/
lemma foldl_onRetry (h : p.Tells shouldRetry i calls events) (callback : UInt32 → ε → o → o) (seen : o) :
    events.foldl (fun seen e => (RetryObserver.onRetry callback).notify e seen) seen =
      (retryableFailures shouldRetry calls).foldl (fun seen f => callback f.1 f.2 seen) seen := by
  induction h generalizing seen with
  | success value elapsed => rfl
  | cancelled h => simp [retryableFailures, h, RetryObserver.onRetry, RetryObserver.notify]
  | exhausted h hlast => simp [retryableFailures, h, RetryObserver.onRetry, RetryObserver.notify]
  | failed h hleft rest ih =>
    rw [retryableFailures_cons h]
    exact ih _

end RetryPolicy.Tells

/-! ### Observers that are put together -/

namespace RetryObserver

/-- All who are told in the end, from left to right. -/
def leaves : RetryObserver o ε → List (RetryEvent ε → o → o)
  | .leaf tell => [tell]
  | .both left right => left.leaves ++ right.leaves
  | .wrapped inner => inner.leaves

/-- The observers with their state in a part of a larger one. -/
def within (update : (o → o) → s → s) : RetryObserver o ε → RetryObserver s ε
  | .leaf tell => .leaf fun e => update (tell e)
  | .both left right => .both (left.within update) (right.within update)
  | .wrapped inner => .wrapped (inner.within update)

/-- The observers with notes of which leaf is told what. Leaves are counted from the left. -/
def noted (first : Nat) : RetryObserver o ε → RetryObserver (List (Nat × RetryEvent ε) × o) ε
  | .leaf tell => .leaf fun e state => (state.1 ++ [(first, e)], tell e state.2)
  | .both left right => .both (left.noted first) (right.noted (first + left.leaves.length))
  | .wrapped inner => .wrapped (inner.noted first)

@[simp] lemma notify_silent (e : RetryEvent ε) (seen : o) : silent.notify e seen = seen := rfl

lemma notify_eq_foldl (observer : RetryObserver o ε) (e : RetryEvent ε) (seen : o) :
    observer.notify e seen = observer.leaves.foldl (fun seen tell => tell e seen) seen := by
  induction observer generalizing seen with
  | leaf tell => rfl
  | both left right ihl ihr => rw [notify, ihl, ihr, leaves, List.foldl_append]
  | wrapped inner ih => exact ih seen

/-- Many events are told one after the other, each of them to one leaf after the other. -/
lemma foldl_notify (observer : RetryObserver o ε) (events : List (RetryEvent ε)) (seen : o) :
    events.foldl (fun seen e => observer.notify e seen) seen =
      (events.flatMap fun e => observer.leaves.map (· e)).foldl (fun seen tell => tell seen) seen := by
  rw [List.foldl_flatMap]
  congr 1
  funext seen e
  rw [notify_eq_foldl, List.foldl_map]

lemma notify_within {update : (o → o) → s → s}
    (h : ∀ f g state, update g (update f state) = update (g ∘ f) state) (observer : RetryObserver o ε)
    (e : RetryEvent ε) (state : s) :
    (observer.within update).notify e state = update (observer.notify e) state := by
  induction observer generalizing state with
  | leaf tell => rfl
  | both left right ihl ihr =>
    rw [within, notify, ihl, ihr, h]
    rfl
  | wrapped inner ih => exact ih state

/-- Each leaf is told the event once, the left ones before the right ones. -/
lemma notify_noted (observer : RetryObserver o ε) (first : Nat) (e : RetryEvent ε)
    (notes : List (Nat × RetryEvent ε)) (seen : o) :
    (observer.noted first).notify e (notes, seen) =
      (notes ++ (List.range' first observer.leaves.length).map (·, e), observer.notify e seen) := by
  induction observer generalizing first notes seen with
  | leaf tell => rfl
  | both left right ihl ihr =>
    rw [noted, notify, ihl, ihr, leaves, List.length_append, List.range'_append_1.symm, List.map_append,
      List.append_assoc]
    rfl
  | wrapped inner ih => exact ih first notes seen

lemma foldl_noted (observer : RetryObserver o ε) (events : List (RetryEvent ε))
    (notes : List (Nat × RetryEvent ε)) (seen : o) :
    events.foldl (fun state e => (observer.noted 0).notify e state) (notes, seen) =
      (notes ++ events.flatMap fun e => (List.range observer.leaves.length).map (·, e),
        events.foldl (fun seen e => observer.notify e seen) seen) := by
  induction events generalizing notes seen with
  | nil => rw [List.flatMap_nil, List.append_nil]; rfl
  | cons e rest ih =>
    rw [List.foldl_cons, notify_noted, ih, List.flatMap_cons, List.append_assoc, List.range_eq_range']
    rfl

/-- The events that one leaf is told. -/
def toldTo (leaf : Nat) (notes : List (Nat × RetryEvent ε)) : List (RetryEvent ε) :=
  (notes.filter fun note => note.1 = leaf).map Prod.snd

/-- Of what is told to all leaves, each leaf is told everything. -/
lemma toldTo_flatMap {leaf n : Nat} (h : leaf < n) (events : List (RetryEvent ε)) :
    toldTo leaf (events.flatMap fun e => (List.range n).map (·, e)) = events := by
  have hone : (List.range n).filter (fun k => k = leaf) = [leaf] := by
    rw [List.filter_eq, List.count_range, if_pos h]
    rfl
  induction events with
  | nil => rfl
  | cons e rest ih =>
    rw [toldTo] at ih ⊢
    rw [List.flatMap_cons, List.filter_append, List.map_append, ih, List.filter_map]
    have hsame : ((fun note : Nat × RetryEvent ε => decide (note.1 = leaf)) ∘ (·, e)) =
      fun k => decide (k = leaf) := rfl
    rw [hsame, hone]
    rfl

end RetryObserver

/-! ### Runs that are observed -/

/-- The record of a run: what its operation was called for and what came of each call, and the waits. -/
structure RetryRecord (ε α : Type) where
  calls : List (UInt32 × Except ε α) := []
  waits : List Span := []

namespace Retrier

/-- The retrier with nobody to look on. -/
def unobserved (r : Retrier s ε) : Retrier s ε := { r with observer := .silent }

/-- The retrier with other observers, who have a state of their own. Waits are recorded. -/
def observedBy (r : Retrier s ε) (observer : RetryObserver o ε) :
    Retrier (o × RetryRecord ε α × s) ε where
  policy := r.policy
  shouldRetry := r.shouldRetry
  observer := observer.within fun f state => (f state.1, state.2)
  clock := {
    now := fun state => r.clock.now state.2.2
    wait := fun time state => (state.1, { state.2.1 with waits := state.2.1.waits ++ [time] },
      r.clock.wait time state.2.2) }

/-- An operation whose calls are recorded, while others look on. -/
def recordedOp (op : UInt32 → StateM s (Except ε α)) :
    UInt32 → StateM (o × RetryRecord ε α × s) (Except ε α) :=
  fun attempt state =>
    ((op attempt state.2.2).1, state.1,
      { state.2.1 with calls := state.2.1.calls ++ [(attempt, (op attempt state.2.2).1)] },
      (op attempt state.2.2).2)

lemma notify_observedBy (r : Retrier s ε) (observer : RetryObserver o ε) (e : RetryEvent ε)
    (seen : o) (rest : RetryRecord ε α × s) :
    (r.observedBy observer).observer.notify e (seen, rest) = (observer.notify e seen, rest) :=
  RetryObserver.notify_within (fun _ _ _ => rfl) observer e (seen, rest)

lemma paused_observedBy (r : Retrier s ε) (observer : RetryObserver o ε) (seen : o)
    (record : RetryRecord ε α) (state : s) :
    (r.observedBy observer).paused (seen, record, state) =
      (seen, { record with waits := record.waits ++ r.policy.waits 1 }, r.paused state) := by
  have hwaits : (r.observedBy observer (α := α)).policy.waits 1 = r.policy.waits 1 := rfl
  rw [paused_eq_foldl, paused_eq_foldl, hwaits]
  obtain hnone | hone := r.policy.waits_one
  · rw [hnone, List.append_nil]
    rfl
  · rw [hone]
    rfl

/-- With other observers the work of `attemptFrom` makes one attempt, and its result decides what follows.
The observers are told of the attempt, and the rest is up to the operation. -/
lemma attemptFrom_observedBy_apply (r : Retrier s ε) (op : UInt32 → StateM s (Except ε α)) (began : Int)
    (left : Nat) (attempt : UInt32) (observer : RetryObserver o ε) (seen : o) (record : RetryRecord ε α)
    (state : s) :
    (r.observedBy observer).attemptFrom (recordedOp op) began left attempt (seen, record, state) =
      let seen := observer.notify (.start attempt r.policy.maxAttempts) seen
      let record := { record with calls := record.calls ++ [(attempt, (op attempt state).1)] }
      match op attempt state with
      | (.ok value, after) =>
        (.ok value, observer.notify (.success attempt (r.clock.now after - began).toNat) seen, record, after)
      | (.error e, after) =>
        if r.shouldRetry e then
          match left with
          | 0 =>
            (.error (.exhausted attempt e (r.clock.now after - began).toNat),
              observer.notify (.exhausted attempt e) (observer.notify (.retry attempt e 0) seen), record,
              after)
          | left + 1 =>
            (r.observedBy observer).attemptFrom (recordedOp op) began left (attempt + 1)
              (observer.notify (.retry attempt e r.policy.delay) seen,
                { record with waits := record.waits ++ r.policy.waits 1 }, r.paused after)
        else (.error (.nonRetryable attempt e), observer.notify (.cancelled attempt e) seen, record, after) := by
  have hcall : recordedOp op attempt ((r.observedBy observer).observer.notify
        (.start attempt (r.observedBy observer (α := α)).policy.maxAttempts) (seen, record, state)) =
      ((op attempt state).1, observer.notify (.start attempt r.policy.maxAttempts) seen,
        { record with calls := record.calls ++ [(attempt, (op attempt state).1)] },
        (op attempt state).2) := by
    rw [notify_observedBy]
    rfl
  have hretry : (r.observedBy observer (α := α)).shouldRetry = r.shouldRetry := rfl
  rw [attemptFrom_apply, hcall, hretry]
  obtain ⟨result, after⟩ := op attempt state
  cases result with
  | ok value =>
    dsimp only
    rw [notify_observedBy]
    rfl
  | error e =>
    dsimp only
    split
    · cases left with
      | zero =>
        dsimp only
        rw [notify_observedBy, notify_observedBy]
        rfl
      | succ left =>
        dsimp only
        rw [notify_observedBy, paused_observedBy]
        rfl
    · rw [notify_observedBy]

/-- The course that `attemptFrom` takes does not depend on who looks on, if anyone does. The recursion is on
the attempts that are left behind this one. -/
lemma attemptFrom_observedBy (r : Retrier s ε) (op : UInt32 → StateM s (Except ε α)) (began : Int)
    (left i : Nat) (state : s) (hn : i + left = r.policy.maxAttempts.toNat) :
    ∃ (calls : List (UInt32 × Except ε α)) (waits : List Span) (events : List (RetryEvent ε))
      (result : Except (RetryError ε) α) (after : s),
      r.policy.Tells r.shouldRetry i calls events ∧
      r.unobserved.attemptFrom op began left (.ofNat i) state = (result, after) ∧
      ∀ {o : Type} (observer : RetryObserver o ε) (seen : o) (record : RetryRecord ε α),
        (r.observedBy observer).attemptFrom (recordedOp op) began left (.ofNat i)
            (seen, record, state) =
          (result, events.foldl (fun seen e => observer.notify e seen) seen,
            ⟨record.calls ++ calls, record.waits ++ waits⟩, after) := by
  cases hop : op (.ofNat i) state with
  | mk result after =>
    cases result with
    | ok value =>
      refine ⟨_, [], _, .ok value, after, .success value (r.clock.now after - began).toNat, ?alone,
        fun observer seen record => ?observed⟩
      case alone =>
        rw [attemptFrom_apply]
        simp only [unobserved, RetryObserver.notify_silent, hop]
      case observed =>
        rw [attemptFrom_observedBy_apply, hop, List.append_nil]
        rfl
    | error e =>
      cases hr : r.shouldRetry e with
      | false =>
        refine ⟨_, [], _, .error (.nonRetryable (.ofNat i) e), after, .cancelled hr, ?alone,
          fun observer seen record => ?observed⟩
        case alone =>
          rw [attemptFrom_apply]
          simp only [unobserved, RetryObserver.notify_silent, hop, hr, Bool.false_eq_true, if_false]
        case observed =>
          rw [attemptFrom_observedBy_apply, hop, List.append_nil]
          simp only [hr, Bool.false_eq_true, if_false]
          rfl
      | true =>
        cases left with
        | zero =>
          refine ⟨_, [], _, .error (.exhausted (.ofNat i) e (r.clock.now after - began).toNat), after,
            .exhausted hr hn, ?alone, fun observer seen record => ?observed⟩
          case alone =>
            rw [attemptFrom_apply]
            simp only [unobserved, RetryObserver.notify_silent, hop, hr, if_true]
          case observed =>
            rw [attemptFrom_observedBy_apply, hop, List.append_nil]
            simp only [hr, if_true]
            rfl
        | succ left =>
          have hnext : UInt32.ofNat i + 1 = UInt32.ofNat (i + 1) := by simp
          obtain ⟨calls, waits, events, result, last, htells, halone, hrest⟩ :=
            attemptFrom_observedBy r op began left (i + 1) (r.paused after) (by omega)
          refine ⟨_, r.policy.waits 1 ++ waits, _, result, last, .failed hr (by omega) htells, ?alone,
            fun observer seen record => ?observed⟩
          case alone =>
            rw [attemptFrom_apply, hnext]
            simp only [unobserved, RetryObserver.notify_silent, hop, hr, if_true]
            exact halone
          case observed =>
            rw [attemptFrom_observedBy_apply, hop]
            simp only [hr, if_true]
            rw [hnext, hrest, List.append_assoc, List.append_assoc]
            rfl

lemma run_observedBy (r : Retrier s ε) (op : UInt32 → StateM s (Except ε α)) (state : s) :
    ∃ (events : List (RetryEvent ε)) (record : RetryRecord ε α) (result : Except (RetryError ε) α)
      (after : s), r.policy.Tells r.shouldRetry 1 record.calls events ∧
      r.unobserved.run op state = (result, after) ∧
      ∀ {o : Type} (observer : RetryObserver o ε) (seen : o),
        (r.observedBy observer).run (recordedOp op) (seen, {}, state) =
          (result, events.foldl (fun seen e => observer.notify e seen) seen, record, after) := by
  have hpos := r.policy.toNat_maxAttempts_pos
  obtain ⟨calls, waits, events, result, after, htells, halone, hrun⟩ :=
    r.attemptFrom_observedBy op (r.clock.now state) (r.policy.maxAttempts.toNat - 1) 1 state (by omega)
  exact ⟨events, ⟨calls, waits⟩, result, after, htells, halone,
    fun observer seen => hrun observer seen {}⟩

/-- A run of the retrier `r` on the operation `op` from `state` on has the result `result` and leaves
`after` behind, with its calls and waits in `record`, and it tells the events in `events`. Observers are
told these events, and nothing else about the run depends on them. -/
structure Observed (r : Retrier s ε) (op : UInt32 → StateM s (Except ε α)) (state : s)
    (events : List (RetryEvent ε)) (record : RetryRecord ε α) (result : Except (RetryError ε) α)
    (after : s) : Prop where
  /-- The events of the run are those of its calls and their results. -/
  tells : r.policy.Tells r.shouldRetry 1 record.calls events
  /-- With nobody to look on the run has the same result and leaves the same state behind. -/
  alone : r.unobserved.run op state = (result, after)
  /-- With any observers the run has the same calls, waits and result, and every leaf in turn is told every
  event. -/
  run : ∀ {o : Type} (observer : RetryObserver o ε) (seen : o),
    (r.observedBy observer).run (recordedOp op) (seen, {}, state) =
      (result, (events.flatMap fun e => observer.leaves.map (· e)).foldl (fun seen tell => tell seen) seen,
        record, after)
  /-- The leaves of any observers are told each event from left to right before any is told the next one. -/
  notes : ∀ {o : Type} (observer : RetryObserver o ε) (seen : o),
    ((r.observedBy (observer.noted 0)).run (recordedOp op) (([], seen), {}, state)).2.1.1 =
      events.flatMap fun e => (List.range observer.leaves.length).map (·, e)
  told : ∀ {o : Type} (observer : RetryObserver o ε) (seen : o), ∀ leaf < observer.leaves.length,
    RetryObserver.toldTo leaf
      ((r.observedBy (observer.noted 0)).run (recordedOp op) (([], seen), {}, state)).2.1.1 = events
  /-- An observer made by `onRetry` is called for each retryable failure of the run, and for nothing else. -/
  onRetry : ∀ {o : Type} (callback : UInt32 → ε → o → o) (seen : o),
    events.foldl (fun seen e => (RetryObserver.onRetry callback).notify e seen) seen =
      (retryableFailures r.shouldRetry record.calls).foldl (fun seen f => callback f.1 f.2 seen) seen
  attempts : record.calls.map Prod.fst = (List.range' 1 record.calls.length).map UInt32.ofNat
  attempts_retryable : (retryableFailures r.shouldRetry record.calls).map Prod.fst =
    (List.range' 1 (retryableFailures r.shouldRetry record.calls).length).map UInt32.ofNat

/-- Every run has a record, a result and events that do not depend on who looks on, and all who do are told
of the events. -/
theorem exists_observed (r : Retrier s ε) (op : UInt32 → StateM s (Except ε α)) (state : s) :
    ∃ events record result after, r.Observed op state events record result after := by
  obtain ⟨events, record, result, after, htells, halone, hrun⟩ := r.run_observedBy op state
  refine ⟨events, record, result, after, ?_⟩
  constructor
  case tells => exact htells
  case alone => exact halone
  case run =>
    intro o observer seen
    rw [hrun, RetryObserver.foldl_notify]
  case notes =>
    intro o observer seen
    rw [hrun, RetryObserver.foldl_noted]
    rfl
  case told =>
    intro o observer seen leaf hleaf
    rw [hrun, RetryObserver.foldl_noted]
    exact RetryObserver.toldTo_flatMap hleaf events
  case onRetry => exact htells.foldl_onRetry
  case attempts => exact htells.attempts
  case attempts_retryable => exact htells.attempts_retryable

end Retrier

end Reindex
