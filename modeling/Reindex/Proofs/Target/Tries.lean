import Reindex.Proofs.Session.Topics
import Reindex.Proofs.Target.Attempts

/-!
# What is told of the attempts

Of what the attempts tell, operators watch for the responses and for the failures that may be retried,
and there is one event for each of them, the last attempt included.
-/

namespace Reindex

variable {σ : Type}

open Http (Message Network)
open Work (Quiet)

/-- One attempt at the request. -/
structure Try where
  /-- The messages that went out: one or none. -/
  sent : List Message
  /-- The answer of the target, if there was one. -/
  answer : Option Http.Response
  result : Except RequestError UInt16

namespace Try

/-- The attempt failed, and another one might do better. -/
def isRetryable (t : Try) : Bool :=
  match t.result with
  | .ok _ => false
  | .error e => e.isRetryable

def isAnswered (t : Try) : Bool := t.answer.isSome

end Try

namespace RequestSpec

/-! ### The attempts one by one -/

def tryOnce (r : RequestSpec) (token : AccessToken) (n : Network) : Try where
  sent := (r.attempt token n).sent
  answer :=
    if Http.isHeaderValue token.bearer then (n.exchange (r.request token)).outcome.toOption else none
  result := (r.attempt token n).result

/-- An attempt, and up to `left` others if it fails in a way that may be retried. -/
def tries (r : RequestSpec) (token : AccessToken) : (left : Nat) → Network → List Try
  | 0, n => [r.tryOnce token n]
  | left + 1, n =>
    r.tryOnce token n ::
      if (r.tryOnce token n).isRetryable then r.tries token left (r.attempt token n).network else []

lemma isRetryable_tryOnce_of_ok {r : RequestSpec} {token : AccessToken} {n : Network}
    {status : UInt16} (h : (r.attempt token n).result = .ok status) :
    (r.tryOnce token n).isRetryable = false := by
  rw [Try.isRetryable, tryOnce, h]

lemma isRetryable_tryOnce_of_error {r : RequestSpec} {token : AccessToken} {n : Network}
    {e : RequestError} (h : (r.attempt token n).result = .error e) :
    (r.tryOnce token n).isRetryable = e.isRetryable := by
  rw [Try.isRetryable, tryOnce, h]

/-- The event that tells of an answer of the target. -/
def responseEvent (number : UInt32) (answer : Http.Response) : LogEvent :=
  ⟨.info, "Response code: " ++ toString answer.status,
    [("attempt", .number number.toNat), ("status", .number answer.status)]⟩

/-- The event that tells of a failed attempt, and of the delay before the next one. -/
def failedEvent (number : UInt32) (e : RequestError) (delay : Span) : LogEvent :=
  RetryObserver.logEvent "reindex request" RequestError.message (.retry number e delay)

def insecureEvent (r : RequestSpec) : LogEvent :=
  ⟨.warn, "TLS certificate verification is disabled for the target request",
    [("host", .text (r.url.hostText?.getD ""))]⟩

/-- The events before the request is attempted. -/
def warnings (r : RequestSpec) : List LogEvent :=
  if r.insecureSkipVerify then [r.insecureEvent] else []

end RequestSpec

namespace Try

/-- The events about the answer to an attempt. -/
def responses (number : UInt32) (t : Try) : List LogEvent :=
  (t.answer.map (RequestSpec.responseEvent number)).toList

/-- The events about the failure of an attempt that up to `left` others follow. -/
def failures (policy : RetryPolicy) (number : UInt32) (left : Nat) (t : Try) : List LogEvent :=
  match t.result with
  | .ok _ => []
  | .error e =>
    if e.isRetryable then
      [RequestSpec.failedEvent number e (if left = 0 then 0 else policy.delay)]
    else []

/-- The events about an attempt that up to `left` others follow. -/
def events (policy : RetryPolicy) (number : UInt32) (left : Nat) (t : Try) : List LogEvent :=
  t.responses number ++ t.failures policy number left

/-- The events about attempts in a row. -/
def eventsFrom (policy : RetryPolicy) : (number : UInt32) → (left : Nat) → List Try → List LogEvent
  | _, _, [] => []
  | number, left, t :: rest =>
    t.events policy number left ++ eventsFrom policy (number + 1) (left - 1) rest

end Try

namespace RequestSpec

lemma isOnly_responseEvent (number : UInt32) (answer : Http.Response) :
    (responseEvent number answer).IsOnly .response := by
  have hne : ∀ t : Topic, t ≠ .error → t.differsFrom "Response code: " = true →
      (responseEvent number answer).isOn t = false := fun _ ht h =>
    LogEvent.isOn_append_eq_false ht h _ _ _
  intro t
  cases t with
  | error => rfl
  | response =>
    refine List.isPrefixOf_iff_prefix.mpr ?_
    rw [responseEvent, String.toList_append]
    exact List.prefix_append _ _
  | _ => exact hne _ (by decide) (by decide)

lemma isOnly_insecureEvent (r : RequestSpec) : r.insecureEvent.IsOnly .insecure := by
  have h : LogEvent.IsOnly .insecure
      ⟨.warn, "TLS certificate verification is disabled for the target request", []⟩ := by decide
  exact h.withFields _

end RequestSpec

namespace Try

end Try

namespace RequestSpec

lemma notable_sendOnce (r : RequestSpec) (token : AccessToken) (number : UInt32) (s : Session σ) :
    (r.sendOnce token number s).2.notable =
      s.notable ++ ((r.tryOnce token s.network).answer.map (responseEvent number)).toList := by
  unfold sendOnce tryOnce
  cases Http.isHeaderValue token.bearer with
  | false => exact (List.append_nil _).symm
  | true =>
    simp only [Bool.not_true, Bool.false_eq_true, if_false, if_true, Work.bind_apply,
      Work.exchange_apply]
    cases (s.network.exchange (r.request token)).outcome with
    | error fault => exact (s.notable_exchanged _).trans (List.append_nil _).symm
    | ok answer =>
      have htold := (s.exchanged (r.request token)).notable_record_of_notable
        (isOnly_responseEvent number answer).isNotable
      rw [Session.notable_exchanged] at htold
      exact htold

/-- Of what the engine tells, only failures that may be retried are notable. -/
lemma notable_notify (e : RetryEvent RequestError) (s : Session σ) :
    (loggingObserver.notify e s).notable = s.notable ++ match e with
      | .retry number error delay => [failedEvent number error delay]
      | _ => [] := by
  have hquiet : ∀ {level message}, LogEvent.isNotable ⟨level, message, []⟩ = false → ∀ fields,
      (s.record (.logged ⟨level, message, fields⟩)).notable = s.notable ++ [] := by
    intro level message h fields
    rw [List.append_nil]
    exact Quiet.say h fields s
  cases e with
  | start attempt maxAttempts => exact hquiet (by decide) _
  | retry attempt error delay =>
    exact s.notable_record_of_notable (e := failedEvent attempt error delay) rfl
  | success attempt elapsed =>
    show (s.record (.logged (RetryObserver.logEvent _ _ (.success attempt elapsed)))).notable = _
    rw [RetryObserver.logEvent]
    split
    · exact hquiet (by decide) _
    · exact hquiet (by decide) _
  | exhausted attempts error => exact hquiet (by decide) _
  | cancelled attempt error => exact hquiet (by decide) _

lemma notable_paused (policy : RetryPolicy) (observer : RetryObserver (Session σ) RequestError)
    (s : Session σ) : ((retrier policy observer).paused s).notable = s.notable := by
  simp only [Retrier.paused]
  split
  · rfl
  · exact s.notable_pause _

lemma tries_of_final {r : RequestSpec} {token : AccessToken} {n : Network}
    (h : (r.tryOnce token n).isRetryable = false) (left : Nat) :
    r.tries token left n = [r.tryOnce token n] := by
  cases left with
  | zero => rfl
  | succ left => rw [tries, h, if_neg Bool.false_ne_true]

/-- The work of `sendOnce` comes to what the attempt comes to, and tells of its answer if there is one. -/
lemma exists_notable_sendOnce (r : RequestSpec) (policy : RetryPolicy) (token : AccessToken)
    (number : UInt32) (s : Session σ) :
    ∃ s', r.sendOnce token number (loggingObserver.notify (.start number policy.maxAttempts) s) =
        ((r.attempt token s.network).result, s') ∧
      s'.network = (r.attempt token s.network).network ∧
      s'.notable =
        s.notable ++ ((r.tryOnce token s.network).answer.map (responseEvent number)).toList := by
  obtain ⟨s', hsend, hreaches⟩ :=
    r.sendOnce_apply token number (loggingObserver.notify (.start number policy.maxAttempts) s)
  have htold := r.notable_sendOnce token number
    (loggingObserver.notify (.start number policy.maxAttempts) s)
  rw [notable_notify, List.append_nil] at htold
  refine ⟨s', hsend, hreaches.network, ?_⟩
  rw [hsend] at htold
  exact htold

/-- Of what an attempt and those behind it tell, the events of the attempts are notable. The induction is
on the attempts that are left. -/
lemma notable_attemptFrom (r : RequestSpec) (policy : RetryPolicy) (token : AccessToken)
    (began : Int) (left : Nat) : ∀ (number : UInt32) (s : Session σ),
      ((retrier policy loggingObserver).attemptFrom (r.sendOnce token) began left number s).2.notable =
        s.notable ++ Try.eventsFrom policy number left (r.tries token left s.network) := by
  have hfinal : ∀ {left number} {s : Session σ}, (r.tryOnce token s.network).isRetryable = false →
      ((retrier policy loggingObserver).attemptFrom (r.sendOnce token) began left number s).2.notable =
        s.notable ++ Try.eventsFrom policy number left (r.tries token left s.network) := by
    intro left number s h
    obtain ⟨s₁, hsend, -, htold⟩ := r.exists_notable_sendOnce policy token number s
    rw [tries_of_final h, Retrier.attemptFrom_apply]
    simp only [retrier, hsend, Try.eventsFrom, Try.events, Try.responses, Try.failures, List.append_nil]
    cases hresult : (r.attempt token s.network).result with
    | ok status =>
      have hvalue : (r.tryOnce token s.network).result = .ok status := hresult
      simp only [hvalue, notable_notify, htold, List.append_nil]
    | error e =>
      have hvalue : (r.tryOnce token s.network).result = .error e := hresult
      rw [isRetryable_tryOnce_of_error hresult] at h
      simp only [hvalue, h, Bool.false_eq_true, if_false, notable_notify, htold, List.append_nil]
  have hfailed : ∀ {s : Session σ}, (r.tryOnce token s.network).isRetryable = true →
      ∃ e, (r.attempt token s.network).result = .error e ∧
        (r.tryOnce token s.network).result = .error e ∧ e.isRetryable = true := by
    intro s h
    cases hresult : (r.attempt token s.network).result with
    | ok status =>
      rw [isRetryable_tryOnce_of_ok hresult] at h
      cases h
    | error e => exact ⟨e, rfl, hresult, isRetryable_tryOnce_of_error hresult ▸ h⟩
  induction left with
  | zero =>
    intro number s
    cases h : (r.tryOnce token s.network).isRetryable with
    | false => exact hfinal h
    | true =>
      obtain ⟨s₁, hsend, -, htold⟩ := r.exists_notable_sendOnce policy token number s
      obtain ⟨e, hresult, hvalue, he⟩ := hfailed h
      rw [Retrier.attemptFrom_apply]
      simp only [retrier, hsend, hresult, he, if_true, notable_notify, htold, tries, Try.eventsFrom,
        Try.events, Try.responses, Try.failures, hvalue, List.append_nil, List.append_assoc]
  | succ left ih =>
    intro number s
    cases h : (r.tryOnce token s.network).isRetryable with
    | false => exact hfinal h
    | true =>
      obtain ⟨s₁, hsend, hnetwork, htold⟩ := r.exists_notable_sendOnce policy token number s
      obtain ⟨e, hresult, hvalue, he⟩ := hfailed h
      have hnext := ih (number + 1) ((retrier policy loggingObserver).paused
        (loggingObserver.notify (.retry number e policy.delay) s₁))
      have hsame : (loggingObserver.notify (.retry number e policy.delay) s₁).network =
        s₁.network := rfl
      rw [notable_paused, notable_notify, htold, paused_network, hsame, hnetwork] at hnext
      rw [Retrier.attemptFrom_apply]
      simp only [retrier, hsend, hresult, he, if_true] at hnext ⊢
      rw [hnext, tries, h, if_pos rfl]
      simp only [Try.eventsFrom, Try.events, Try.responses, Try.failures, hvalue, he, if_true,
        Nat.add_one_ne_zero, if_false, Nat.add_one_sub_one, List.append_assoc]

lemma notable_announce (r : RequestSpec) (s : Session σ) :
    (r.announce s).2.notable = s.notable ++ r.warnings := by
  have hget : LogEvent.isNotable ⟨.info, "GET " ++ r.url.text, []⟩ = false :=
    LogEvent.isNotable_append (by decide) (by decide) _ _
  simp only [announce, warnings]
  cases r.insecureSkipVerify with
  | false => exact (s.notable_record_of_quiet hget).trans (List.append_nil _).symm
  | true =>
    have htold := s.notable_record_of_notable r.isOnly_insecureEvent.isNotable
    exact (Session.notable_record_of_quiet hget _).trans htold

lemma quiet_conclude (result : Except (RetryError RequestError) UInt16) :
    Quiet (conclude result : Work σ _) := by
  cases result with
  | ok status => exact (Quiet.say (by decide) _).bind fun _ => .pure _
  | error e => exact (Quiet.say (by decide) _).bind fun _ => .pure _

/-- The work of `execute` tells whether certificates are checked, and how the attempts went. -/
lemma notable_execute (r : RequestSpec) (policy : RetryPolicy) (token : AccessToken)
    (s : Session σ) :
    (r.execute policy loggingObserver token s).2.notable =
      s.notable ++ r.warnings ++
        Try.eventsFrom policy 1 (policy.maxAttempts.toNat - 1)
          (r.tries token (policy.maxAttempts.toNat - 1) s.network) := by
  obtain ⟨s₀, hannounce, hreaches⟩ := r.announce_apply s
  have htold := r.notable_announce s
  have hattempts := r.notable_attemptFrom policy token (Session.clock.now s₀)
    (policy.maxAttempts.toNat - 1) 1 s₀
  rw [hannounce] at htold
  rw [htold, hreaches.network] at hattempts
  simp only [execute]
  simp only [Work.bind_apply, hannounce]
  rw [quiet_conclude]
  exact hattempts

end RequestSpec

end Reindex
