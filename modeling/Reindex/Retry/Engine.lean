import Reindex.Retry.Observer
import Reindex.Retry.Policy
import Reindex.Text.Seconds

/-!
# Attempting again and again

An operation is attempted until it succeeds, until it fails in a way that is not to be retried, or
until the policy allows no further attempt. There is a wait between two attempts, and none after the
last.
-/

namespace Reindex

/-- Why no attempt succeeded. Errors of the operation are of type `ε`. -/
inductive RetryError (ε : Type) where
  /-- All attempts failed, the last one with this error, in so many nanoseconds. -/
  | exhausted (attempts : UInt32) (error : ε) (elapsed : Nat)
  /-- An attempt failed with an error that is not to be retried. -/
  | nonRetryable (attempt : UInt32) (error : ε)
  deriving DecidableEq, Repr

namespace RetryError

variable {ε : Type}

/-- The number of attempts that were made. -/
def attempts : RetryError ε → UInt32
  | .exhausted n _ _ => n
  | .nonRetryable n _ => n

/-- The error of the last attempt that was made. -/
def error : RetryError ε → ε
  | .exhausted _ e _ => e
  | .nonRetryable _ e => e

def isExhausted : RetryError ε → Bool
  | .exhausted .. => true
  | .nonRetryable .. => false

/-- The error is one that is not to be retried. -/
def isNonRetryable (e : RetryError ε) : Bool := !e.isExhausted

def message (text : ε → String) : RetryError ε → String
  | .exhausted n e elapsed =>
    "retry exhausted after " ++ toString n.toNat ++ " attempts over " ++
      Text.secondsText elapsed ++ "s: " ++ text e
  | .nonRetryable n e => "non-retryable error on attempt " ++ toString n.toNat ++ ": " ++ text e

end RetryError

/-- The time in a state of type `s`. -/
structure Clock (s : Type) where
  /-- Nanoseconds since some point in the past. -/
  now : s → Int
  wait : Span → s → s

/-- How an operation is attempted. -/
structure Retrier (s ε : Type) where
  /-- How often, and with which wait in between. -/
  policy : RetryPolicy
  shouldRetry : ε → Bool
  observer : RetryObserver s ε
  clock : Clock s

namespace Retrier

variable {s ε α : Type}

def notify (r : Retrier s ε) (e : RetryEvent ε) : StateM s Unit := modify (r.observer.notify e)

/-- Nanoseconds since the first attempt began. -/
def elapsed (r : Retrier s ε) (began : Int) : StateM s Nat := fun state =>
  ((r.clock.now state - began).toNat, state)

/-- Let the time between two attempts pass. -/
def pause (r : Retrier s ε) : StateM s Unit :=
  if r.policy.delay = 0 then pure () else modify (r.clock.wait r.policy.delay)

/-- Make an attempt, and after it up to `left` others. -/
def attemptFrom (r : Retrier s ε) (op : UInt32 → StateM s (Except ε α)) (began : Int) :
    (left : Nat) → (attempt : UInt32) → StateM s (Except (RetryError ε) α)
  | left, attempt => do
    r.notify (.start attempt r.policy.maxAttempts)
    match ← op attempt with
    | .ok value =>
      r.notify (.success attempt (← r.elapsed began))
      return .ok value
    | .error e =>
      if !r.shouldRetry e then
        r.notify (.cancelled attempt e)
        return .error (.nonRetryable attempt e)
      else match left with
        | 0 =>
          r.notify (.retry attempt e 0)
          r.notify (.exhausted attempt e)
          return .error (.exhausted attempt e (← r.elapsed began))
        | left + 1 =>
          r.notify (.retry attempt e r.policy.delay)
          r.pause
          attemptFrom r op began left (attempt + 1)

/-- Attempt an operation as the policy allows. Attempts are counted from one. -/
def run (r : Retrier s ε) (op : UInt32 → StateM s (Except ε α)) :
    StateM s (Except (RetryError ε) α) := do
  let began ← modifyGet fun state => (r.clock.now state, state)
  r.attemptFrom op began (r.policy.maxAttempts.toNat - 1) 1

end Retrier

end Reindex
