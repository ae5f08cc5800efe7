import Reindex.Log.Event
import Reindex.Span

/-!
# Observers of retries

What happens while something is attempted again and again, and who is told about it. Observers can
be put together; each of them is told everything, in order.
-/

namespace Reindex

/-- Something that happens while attempts are made. Errors are of type `ε`. -/
inductive RetryEvent (ε : Type) where
  | start (attempt maxAttempts : UInt32)
  /-- An attempt failed, and the failure is one that may be retried. -/
  | retry (attempt : UInt32) (error : ε) (delay : Span)
  /-- An attempt succeeded, so many nanoseconds after the first one began. -/
  | success (attempt : UInt32) (elapsed : Nat)
  | exhausted (attempts : UInt32) (error : ε)
  /-- An attempt failed, and the failure is not one that may be retried. -/
  | cancelled (attempt : UInt32) (error : ε)
  deriving DecidableEq, Repr

/-- Someone who is told what happens, and changes a state of type `s` in response. -/
inductive RetryObserver (s ε : Type) where
  | leaf (tell : RetryEvent ε → s → s)
  /-- Two observers, the left one of which is told first. -/
  | both (left right : RetryObserver s ε)
  /-- An observer that is reached through another place. -/
  | wrapped (inner : RetryObserver s ε)

namespace RetryObserver

variable {s ε : Type}

def notify : RetryObserver s ε → RetryEvent ε → s → s
  | .leaf tell, e, state => tell e state
  | .both left right, e, state => right.notify e (left.notify e state)
  | .wrapped inner, e, state => inner.notify e state

def silent : RetryObserver s ε := .leaf fun _ state => state

/-- One who wants to know about failures that may be retried and nothing else. -/
def onRetry (callback : UInt32 → ε → s → s) : RetryObserver s ε :=
  .leaf fun
    | .retry attempt error _ => callback attempt error
    | _ => id

/-- The milliseconds in some nanoseconds. -/
def millis (nanos : Nat) : LogValue := .number (nanos / 1000000)

def logEvent (operation : String) (text : ε → String) (e : RetryEvent ε) : LogEvent :=
  let op := ("operation", LogValue.shown operation)
  let number (n : UInt32) : LogValue := .number n.toNat
  match e with
  | .start attempt maxAttempts =>
    ⟨.debug, "starting attempt",
      [op, ("attempt", number attempt), ("max_attempts", number maxAttempts)]⟩
  | .retry attempt error delay =>
    ⟨.warn, "attempt failed", [op, ("attempt", number attempt), ("error", .shown (text error)),
      ("delay_ms", .number delay.millis.toNat)]⟩
  | .success attempt elapsed =>
    if 1 < attempt then
      ⟨.info, "succeeded after retry",
        [op, ("attempt", number attempt), ("total_duration_ms", millis elapsed)]⟩
    else ⟨.debug, "succeeded on first attempt", [op, ("duration_ms", millis elapsed)]⟩
  | .exhausted attempts error =>
    ⟨.debug, "all retry attempts exhausted",
      [op, ("attempts", number attempts), ("error", .shown (text error))]⟩
  | .cancelled attempt error =>
    ⟨.warn, "retry cancelled due to non-retryable error",
      [op, ("attempt", number attempt), ("error", .shown (text error))]⟩

def logging (operation : String) (text : ε → String) (log : LogEvent → s → s) :
    RetryObserver s ε :=
  .leaf fun e => log (logEvent operation text e)

end RetryObserver

/-! ### Counting -/

/-- How often what happened. The counters begin again at zero when they are full. -/
structure RetryStats where
  attemptStarts : UInt32 := 0
  retries : UInt32 := 0
  successes : UInt32 := 0
  exhaustions : UInt32 := 0
  cancellations : UInt32 := 0
  deriving DecidableEq, Repr

namespace RetryStats

variable {ε : Type}

def count (e : RetryEvent ε) (st : RetryStats) : RetryStats :=
  match e with
  | .start .. => { st with attemptStarts := st.attemptStarts + 1 }
  | .retry .. => { st with retries := st.retries + 1 }
  | .success .. => { st with successes := st.successes + 1 }
  | .exhausted .. => { st with exhaustions := st.exhaustions + 1 }
  | .cancelled .. => { st with cancellations := st.cancellations + 1 }

end RetryStats

/-- One who counts, in a part of the state. -/
def RetryObserver.counting {s ε : Type} (update : (RetryStats → RetryStats) → s → s) :
    RetryObserver s ε :=
  .leaf fun e => update (RetryStats.count e)

end Reindex
