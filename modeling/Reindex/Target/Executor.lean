import Reindex.Retry.Engine
import Reindex.Session.Basic
import Reindex.Target.Outcome
import Reindex.Target.Spec
import Reindex.Token.Basic

/-!
# Making the request

The request is attempted as often as the policy allows. Only the status of a response counts; its
body is not read.
-/

namespace Reindex

/-- A session as a clock. Waits are part of its history. -/
def Session.clock {σ : Type} : Clock (Session σ) where
  now := fun s => s.now.nanos
  wait := fun time s => s.pause time

namespace RequestSpec

variable {σ : Type}

/-- The request with a token to show. -/
def request (r : RequestSpec) (token : AccessToken) : Http.Request :=
  .get r.url ([("authorization", token.bearer), ("accept", "application/json")] ++ r.headers)

/-- What the status of a response means. -/
def judge (r : RequestSpec) (status : UInt16) : Except RequestError UInt16 :=
  if status = r.expectedStatus then .ok status
  else .error (.unexpectedStatus r.expectedStatus status)

def sendOnce (r : RequestSpec) (token : AccessToken) (attempt : UInt32) :
    Work σ (Except RequestError UInt16) :=
  if !Http.isHeaderValue token.bearer then pure (.error (.preparation .invalidToken))
  else do
    match ← Work.exchange (r.request token) with
    | .error fault => return .error (.transport (.transport fault))
    | .ok response =>
      Work.log ⟨.info, "Response code: " ++ toString response.status,
        [("attempt", .number attempt.toNat), ("status", .number response.status)]⟩
      return r.judge (UInt16.ofNat response.status)

def loggingObserver : RetryObserver (Session σ) RequestError :=
  .logging "reindex request" RequestError.message fun e s => s.record (.logged e)

/-- An optional status, as developers see it. -/
def inspectStatus (status : Option UInt16) : String :=
  match status with
  | some n => "Some(" ++ toString n.toNat ++ ")"
  | none => "None"

/-- Say what is about to be requested. -/
def announce (r : RequestSpec) : Work σ Unit := do
  if r.insecureSkipVerify then
    Work.log ⟨.warn, "TLS certificate verification is disabled for the target request",
      [("host", .text (r.url.hostText?.getD ""))]⟩
  Work.log ⟨.info, "GET " ++ r.url.text, []⟩

def retrier (policy : RetryPolicy) (observer : RetryObserver (Session σ) RequestError) :
    Retrier (Session σ) RequestError :=
  ⟨policy, RequestError.isRetryable, observer, Session.clock⟩

def conclude : Except (RetryError RequestError) UInt16 → Work σ RequestOutcome
  | .ok status => do
    Work.log ⟨.info, "Reindex request succeeded", [("status", .number status.toNat)]⟩
    return .success status
  | .error e => do
    Work.log ⟨.debug, "Reindex request gave up",
      [("attempts", .number e.attempts.toNat), ("status", .shown (inspectStatus e.error.status?))]⟩
    return .failure e.attempts e.error

def execute (r : RequestSpec) (policy : RetryPolicy)
    (observer : RetryObserver (Session σ) RequestError) (token : AccessToken) :
    Work σ RequestOutcome := do
  r.announce
  conclude (← (retrier policy observer).run (r.sendOnce token))

end RequestSpec

end Reindex
