import Reindex.Proofs.Retry.Observers

/-!
# Statistics add up

One who counts the events of several runs has counted every call, has found an end for each run, and for
each attempt a failure that may be retried, a success or a failure that may not. The counters begin again at
zero when they are full, and all of this holds nevertheless.
-/

namespace Reindex

variable {s o ε α : Type}

namespace RetryStats

/-- Exactly one way in which runs can end was counted, once. -/
inductive EndsOnce (before after : RetryStats) : Prop
  | success (h : after.successes = before.successes + 1) (he : after.exhaustions = before.exhaustions)
    (hc : after.cancellations = before.cancellations)
  | exhausted (hs : after.successes = before.successes) (h : after.exhaustions = before.exhaustions + 1)
    (hc : after.cancellations = before.cancellations)
  | cancelled (hs : after.successes = before.successes) (he : after.exhaustions = before.exhaustions)
    (h : after.cancellations = before.cancellations + 1)

/-- The counters account for so many runs with so many calls. -/
structure Accounts (stats : RetryStats) (runs calls : Nat) : Prop where
  settled : stats.attemptStarts = stats.retries + stats.successes + stats.cancellations
  ended : stats.successes + stats.exhaustions + stats.cancellations = .ofNat runs
  called : stats.attemptStarts = .ofNat calls

/-- The counters before and after one run with so many calls. -/
structure Counts (calls : Nat) (before after : RetryStats) : Prop where
  ends : EndsOnce before after
  called : after.attemptStarts = before.attemptStarts + .ofNat calls
  settled : after.attemptStarts + (before.retries + before.successes + before.cancellations) =
    before.attemptStarts + (after.retries + after.successes + after.cancellations)

lemma EndsOnce.ended {before after : RetryStats} (h : EndsOnce before after) :
    after.successes + after.exhaustions + after.cancellations =
      before.successes + before.exhaustions + before.cancellations + 1 := by
  cases h <;> grind

/-- An attempt in front that failed and may be retried is one more call and settles itself. -/
lemma Counts.of_failed {calls : Nat} {before after : RetryStats}
    (h : Counts calls
      { before with attemptStarts := before.attemptStarts + 1, retries := before.retries + 1 } after) :
    Counts (calls + 1) before after := by
  constructor
  case ends =>
    cases h.ends with
    | success h he hc => exact .success h he hc
    | exhausted hs h hc => exact .exhausted hs h hc
    | cancelled hs he h => exact .cancelled hs he h
  case called =>
    rw [h.called, UInt32.ofNat_add]
    grind
  case settled =>
    have hsettled := h.settled
    grind

/-- The counters after some events. -/
def countAll (events : List (RetryEvent ε)) (stats : RetryStats) : RetryStats :=
  events.foldl (fun stats e => stats.count e) stats

/-- The events of a run add to the counters what `Counts` says. The induction is on the attempts. -/
lemma counts_countAll {p : RetryPolicy} {shouldRetry : ε → Bool} {i : Nat}
    {calls : List (UInt32 × Except ε α)} {events : List (RetryEvent ε)}
    (h : p.Tells shouldRetry i calls events) (stats : RetryStats) :
    Counts calls.length stats (countAll events stats) := by
  induction h generalizing stats with
  | success value elapsed =>
    exact ⟨.success rfl rfl rfl, rfl, by simp only [countAll, List.foldl, count]; grind⟩
  | cancelled h =>
    exact ⟨.cancelled rfl rfl rfl, rfl, by simp only [countAll, List.foldl, count]; grind⟩
  | exhausted h hlast =>
    exact ⟨.exhausted rfl rfl rfl, rfl, by simp only [countAll, List.foldl, count]; grind⟩
  | failed h hleft rest ih => exact (ih _).of_failed

lemma Counts.accounts {before after : RetryStats} {runs calls more : Nat}
    (h : Counts more before after) (hbefore : before.Accounts runs calls) :
    after.Accounts (runs + 1) (calls + more) where
  settled := by
    have hsettled := h.settled
    rw [hbefore.settled] at hsettled
    grind
  ended := by
    rw [h.ends.ended, hbefore.ended, UInt32.ofNat_add]
    rfl
  called := by rw [h.called, hbefore.called, UInt32.ofNat_add]

end RetryStats

/-! ### Observers of whom one counts -/

namespace RetryObserver

/-- One of the observers counts, wherever that one is among them. The others have a state of their own. -/
inductive CountsOnce : RetryObserver (RetryStats × o) ε → Prop
  | counting : CountsOnce (.counting fun count state => (count state.1, state.2))
  | left {counter : RetryObserver (RetryStats × o) ε} (h : CountsOnce counter)
    (other : RetryObserver o ε) :
    CountsOnce (.both counter (other.within fun f state => (state.1, f state.2)))
  | right {counter : RetryObserver (RetryStats × o) ε} (other : RetryObserver o ε)
    (h : CountsOnce counter) :
    CountsOnce (.both (other.within fun f state => (state.1, f state.2)) counter)
  | wrapped {counter : RetryObserver (RetryStats × o) ε} (h : CountsOnce counter) :
    CountsOnce (.wrapped counter)

/-- Observers with a state of their own leave the counters as they are. -/
lemma notify_within_snd (other : RetryObserver o ε) (e : RetryEvent ε) (state : RetryStats × o) :
    ((other.within fun f state => (state.1, f state.2)).notify e state).1 = state.1 := by
  rw [notify_within fun _ _ _ => rfl]

namespace CountsOnce

variable {observer : RetryObserver (RetryStats × o) ε}

lemma notify (h : observer.CountsOnce) (e : RetryEvent ε) (state : RetryStats × o) :
    (observer.notify e state).1 = state.1.count e := by
  induction h generalizing state with
  | counting => rfl
  | left h other ih => rw [RetryObserver.notify, notify_within_snd, ih]
  | right other h ih => rw [RetryObserver.notify, ih, notify_within_snd]
  | wrapped h ih => exact ih state

lemma foldl_notify (h : observer.CountsOnce) (events : List (RetryEvent ε)) (state : RetryStats × o) :
    (events.foldl (fun state e => observer.notify e state) state).1 =
      RetryStats.countAll events state.1 := by
  induction events generalizing state with
  | nil => rfl
  | cons e rest ih =>
    rw [List.foldl_cons, ih, h.notify]
    rfl

end CountsOnce

end RetryObserver

/-! ### Runs one after the other -/

/-- A run that is to be made, of any operation and under any policy, with observers of whom one counts. -/
structure RetryRun (s o : Type) where
  {ε α : Type}
  retrier : Retrier s ε
  op : UInt32 → StateM s (Except ε α)
  observer : RetryObserver (RetryStats × o) ε
  countsOnce : observer.CountsOnce

namespace RetryRun

/-- The run while its observers look on, the one of them who counts going on from the counters that are
there. -/
def counted (run : RetryRun s o) (seen : RetryStats × o) (state : s) :
    Except (RetryError run.ε) run.α × (RetryStats × o) × RetryRecord run.ε run.α × s :=
  (run.retrier.observedBy run.observer).run (Retrier.recordedOp run.op) (seen, {}, state)

/-- The counters after all runs, and how often operations were called in them. -/
def countedAll : List (RetryRun s o) → RetryStats × o → s → RetryStats × Nat
  | [], seen, _ => (seen.1, 0)
  | run :: rest, seen, state =>
    let (_, seen, record, state) := run.counted seen state
    let (stats, calls) := countedAll rest seen state
    (stats, record.calls.length + calls)

lemma counts_counted (run : RetryRun s o) (seen : RetryStats × o) (state : s) :
    RetryStats.Counts (run.counted seen state).2.2.1.calls.length seen.1
      (run.counted seen state).2.1.1 := by
  obtain ⟨events, record, result, after, htells, -, hrun⟩ := run.retrier.run_observedBy run.op state
  rw [counted, hrun, run.countsOnce.foldl_notify]
  exact RetryStats.counts_countAll htells seen.1

lemma accounts_countedAll {seen : RetryStats × o} {before calls : Nat} (h : seen.1.Accounts before calls)
    (runs : List (RetryRun s o)) (state : s) :
    (countedAll runs seen state).1.Accounts (before + runs.length)
      (calls + (countedAll runs seen state).2) := by
  induction runs generalizing seen before calls state with
  | nil => exact h
  | cons run rest ih =>
    have hrest := ih ((run.counts_counted seen state).accounts h) (run.counted seen state).2.2.2
    rw [Nat.add_assoc, Nat.add_assoc, Nat.add_comm 1] at hrest
    exact hrest

/-- The counters add up after any number of runs, whatever those are, and each run ends in one way. -/
theorem accounts_counted (runs : List (RetryRun s o)) (others : o) (state : s) :
    (countedAll runs ({}, others) state).1.Accounts runs.length
      (countedAll runs ({}, others) state).2 ∧
    ∀ (run : RetryRun s o) (seen : RetryStats × o) (state : s),
      seen.1.EndsOnce (run.counted seen state).2.1.1 := by
  have hnone : (({}, others) : RetryStats × o).1.Accounts 0 0 := ⟨rfl, rfl, rfl⟩
  have hall := accounts_countedAll hnone runs state
  rw [Nat.zero_add, Nat.zero_add] at hall
  exact ⟨hall, fun run seen state => (run.counts_counted seen state).ends⟩

/-- A run of an operation that always fails in a way that may be retried, with an error that is a text. The
counter is behind a wrapper and comes after an observer that notes how often it is told. -/
def vain : RetryRun Int Nat where
  ε := String
  α := Unit
  retrier := {
    policy := ⟨2, .ofMillis 3, by decide⟩
    shouldRetry := fun message => message = "closed"
    observer := .silent
    clock := ⟨id, fun time now => now + time.toNanos⟩ }
  op := fun _ => pure (.error "closed")
  observer := .both ((RetryObserver.leaf fun _ told => told + 1).within fun f state => (state.1, f state.2))
    (.wrapped (.counting fun count state => (count state.1, state.2)))
  countsOnce := .right _ (.wrapped .counting)

/-- A run of an operation that fails with a status, at first one that may be retried and then one that may not.
The counter comes before an observer that does nothing. -/
def cancelled : RetryRun Int Nat where
  ε := Nat
  α := Unit
  retrier := {
    policy := ⟨5, .ofMillis 3, by decide⟩
    shouldRetry := fun status => status = 503
    observer := .silent
    clock := ⟨id, fun time now => now + time.toNanos⟩ }
  op := fun attempt => pure (.error (if attempt = 1 then 503 else 400))
  observer := .wrapped (.both (.counting fun count state => (count state.1, state.2))
    (RetryObserver.silent.within fun f state => (state.1, f state.2)))
  countsOnce := .wrapped (.left .counting _)

/-- In two runs with errors of different types there are four calls, an exhaustion and a cancellation. -/
theorem vain_cancelled_counted :
    let counted := countedAll [vain, cancelled] ({}, 0) 0
    counted = (⟨4, 3, 0, 1, 1⟩, 4) ∧ counted.1.Accounts 2 counted.2 ∧
      ({} : RetryStats).EndsOnce (vain.counted ({}, 0) 0).2.1.1 := by
  intro counted
  obtain ⟨haccounts, hends⟩ := accounts_counted [vain, cancelled] 0 0
  exact ⟨by decide +kernel, haccounts, hends vain ({}, 0) 0⟩

end RetryRun

end Reindex
