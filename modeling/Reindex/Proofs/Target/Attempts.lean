import Mathlib.Tactic.Common
import Reindex.Proofs.Http.Exchange
import Reindex.Proofs.Retry.Course
import Reindex.Proofs.Session.Work
import Reindex.Target.Executor

/-!
# Attempting the request

What the attempts at the request come to, as a function of the network. Every attempt makes the same
request, so what goes out is one message over and over; if the message can go out at all, it does so on
the first attempt.
-/

namespace Reindex

open Http (Message Network Traffic)

namespace RequestSpec

variable {σ : Type}

def attempt (r : RequestSpec) (token : AccessToken) (n : Network) :
    Traffic (Except RequestError UInt16) :=
  if !Http.isHeaderValue token.bearer then ⟨[], n, .error (.preparation .invalidToken)⟩
  else
    ⟨(n.exchange (r.request token)).sent.toList, (n.exchange (r.request token)).network,
      match (n.exchange (r.request token)).outcome with
      | .error fault => .error (.transport (.transport fault))
      | .ok response => r.judge (.ofNat response.status)⟩

/-- An attempt at the request, and up to `left` others while they fail in a way that may be retried. -/
def attempts (r : RequestSpec) (token : AccessToken) :
    (left : Nat) → Network → Traffic (Except RequestError UInt16)
  | 0, n => r.attempt token n
  | left + 1, n =>
    match r.attempt token n with
    | ⟨sent, n, .ok status⟩ => ⟨sent, n, .ok status⟩
    | ⟨sent, n, .error e⟩ =>
      if e.isRetryable then
        let others := r.attempts token left n
        ⟨sent ++ others.sent, others.network, others.result⟩
      else ⟨sent, n, .error e⟩

/-! ### One attempt -/

lemma sendOnce_apply (r : RequestSpec) (token : AccessToken) (number : UInt32) (s : Session σ) :
    ∃ s', r.sendOnce token number s = ((r.attempt token s.network).result, s') ∧
      s.Reaches (r.attempt token s.network).sent (r.attempt token s.network).network s' := by
  simp only [sendOnce, attempt]
  split
  · exact ⟨s, rfl, .refl s⟩
  · simp only [Work.bind_apply, Work.exchange_apply]
    cases (s.network.exchange (r.request token)).outcome with
    | error fault => exact ⟨_, rfl, s.reaches_exchanged _⟩
    | ok response => exact ⟨_, rfl, (s.reaches_exchanged _).said _⟩

/-- An attempt sends the request or nothing. -/
lemma sent_attempt (r : RequestSpec) (token : AccessToken) (n : Network) :
    (r.attempt token n).sent = [] ∨
      (r.attempt token n).sent = [(r.request token).recorded] := by
  simp only [attempt]
  split
  · exact .inl rfl
  · dsimp only
    rw [Network.exchange_sent]
    split_ifs
    · exact .inr rfl
    · exact .inl rfl

/-- An attempt sends the request where a message goes out for it. -/
lemma sent_attempt_of_carries {r : RequestSpec} {token : AccessToken} {n : Network}
    (htoken : Http.isHeaderValue token.bearer = true) (hn : n.carries (r.request token) = true) :
    (r.attempt token n).sent = [(r.request token).recorded] := by
  simp only [attempt]
  rw [htoken, Bool.not_true, if_neg Bool.false_ne_true]
  dsimp only
  rw [Network.exchange_sent, hn, if_pos rfl]
  rfl

/-- An attempt that is worth another one has made the request. -/
lemma attempt_of_retryable {r : RequestSpec} {token : AccessToken} {n : Network} {e : RequestError}
    (h : (r.attempt token n).result = .error e) (he : e.isRetryable = true) :
    Http.isHeaderValue token.bearer = true ∧
      (r.attempt token n).network = (n.exchange (r.request token)).network := by
  simp only [attempt] at h ⊢
  cases htoken : Http.isHeaderValue token.bearer with
  | true => exact ⟨rfl, rfl⟩
  | false =>
    rw [htoken] at h
    cases h
    cases he

lemma exists_answer_of_attempt {r : RequestSpec} {token : AccessToken} {n : Network}
    {status : UInt16} (h : (r.attempt token n).result = .ok status) :
    status = r.expectedStatus ∧ (r.attempt token n).sent = [(r.request token).recorded] ∧
      (r.attempt token n).network = (n.exchange (r.request token)).network ∧
      ∃ answer, (n.exchange (r.request token)).outcome = .ok answer ∧
        UInt16.ofNat answer.status = status := by
  simp only [attempt] at h ⊢
  split_ifs at h ⊢
  dsimp only at h ⊢
  cases houtcome : (n.exchange (r.request token)).outcome with
  | error fault =>
    rw [houtcome] at h
    cases h
  | ok answer =>
    rw [houtcome] at h
    dsimp only [judge] at h
    split_ifs at h with heq
    cases h
    refine ⟨heq, ?_, rfl, answer, rfl, rfl⟩
    rw [Network.exchange_sent_of_outcome houtcome]
    rfl

/-! ### Several attempts -/

lemma attempts_succ_of_ok {r : RequestSpec} {token : AccessToken} {left : Nat} {n : Network}
    {status : UInt16} (h : (r.attempt token n).result = .ok status) :
    r.attempts token (left + 1) n = r.attempt token n := by
  rw [attempts]
  cases hattempt : r.attempt token n with
  | mk sent n' result =>
    rw [hattempt] at h
    cases h
    rfl

lemma attempts_succ_of_final {r : RequestSpec} {token : AccessToken} {left : Nat} {n : Network}
    {e : RequestError} (h : (r.attempt token n).result = .error e) (he : e.isRetryable = false) :
    r.attempts token (left + 1) n = r.attempt token n := by
  rw [attempts]
  cases hattempt : r.attempt token n with
  | mk sent n' result =>
    rw [hattempt] at h
    cases h
    dsimp only
    rw [he, if_neg Bool.false_ne_true]

lemma attempts_succ_of_retryable {r : RequestSpec} {token : AccessToken} {left : Nat} {n : Network}
    {e : RequestError} (h : (r.attempt token n).result = .error e) (he : e.isRetryable = true) :
    r.attempts token (left + 1) n =
      ⟨(r.attempt token n).sent ++ (r.attempts token left (r.attempt token n).network).sent,
        (r.attempts token left (r.attempt token n).network).network,
        (r.attempts token left (r.attempt token n).network).result⟩ := by
  rw [attempts]
  cases hattempt : r.attempt token n with
  | mk sent n' result =>
    rw [hattempt] at h
    cases h
    dsimp only
    rw [he, if_pos rfl]

/-- All attempts together send one message over and over, at most once each. -/
lemma exists_sent_attempts (r : RequestSpec) (token : AccessToken) (left : Nat) :
    ∀ n : Network, ∃ i ≤ left + 1,
      (r.attempts token left n).sent = List.replicate i (r.request token).recorded := by
  have hone : ∀ n : Network, ∃ i ≤ 1,
      (r.attempt token n).sent = List.replicate i (r.request token).recorded := by
    intro n
    rcases r.sent_attempt token n with h | h
    · exact ⟨0, Nat.zero_le 1, h⟩
    · exact ⟨1, Nat.le_refl 1, h⟩
  induction left with
  | zero => exact hone
  | succ left ih =>
    intro n
    obtain ⟨i, hi, hsent⟩ := hone n
    cases hresult : (r.attempt token n).result with
    | ok status => exact ⟨i, by omega, by rw [attempts_succ_of_ok hresult, hsent]⟩
    | error e =>
      cases he : e.isRetryable with
      | false => exact ⟨i, by omega, by rw [attempts_succ_of_final hresult he, hsent]⟩
      | true =>
        obtain ⟨j, hj, hothers⟩ := ih (r.attempt token n).network
        refine ⟨i + j, by omega, ?_⟩
        rw [attempts_succ_of_retryable hresult he, hsent, hothers, List.replicate_append_replicate]

/-- The request is sent if it can be sent at all. -/
lemma sent_attempts_ne_nil {r : RequestSpec} {token : AccessToken} {n : Network}
    (htoken : Http.isHeaderValue token.bearer = true) (hn : n.carries (r.request token) = true)
    (left : Nat) : (r.attempts token left n).sent ≠ [] := by
  have hone := sent_attempt_of_carries htoken hn
  cases left with
  | zero => simp [attempts, hone]
  | succ left =>
    cases hresult : (r.attempt token n).result with
    | ok status => simp [attempts_succ_of_ok hresult, hone]
    | error e =>
      cases he : e.isRetryable with
      | false => simp [attempts_succ_of_final hresult he, hone]
      | true => simp [attempts_succ_of_retryable hresult he, hone]

/-- Success means that the last of the messages was answered with the expected status. -/
lemma exists_answer_of_attempts {r : RequestSpec} {token : AccessToken} {status : UInt16} (left : Nat) :
    ∀ n : Network, (r.attempts token left n).result = .ok status →
      status = r.expectedStatus ∧ ∃ i answer,
        (r.attempts token left n).sent = List.replicate (i + 1) (r.request token).recorded ∧
        ((n.after (List.replicate i (r.request token))).exchange (r.request token)).outcome =
          .ok answer ∧ UInt16.ofNat answer.status = status := by
  have hone : ∀ n : Network, (r.attempt token n).result = .ok status →
      status = r.expectedStatus ∧ ∃ i answer,
        (r.attempt token n).sent = List.replicate (i + 1) (r.request token).recorded ∧
        ((n.after (List.replicate i (r.request token))).exchange (r.request token)).outcome =
          .ok answer ∧ UInt16.ofNat answer.status = status := by
    intro n h
    obtain ⟨hstatus, hsent, -, answer, houtcome, hanswer⟩ := exists_answer_of_attempt h
    exact ⟨hstatus, 0, answer, hsent, houtcome, hanswer⟩
  induction left with
  | zero => exact hone
  | succ left ih =>
    intro n h
    cases hresult : (r.attempt token n).result with
    | ok status' =>
      rw [attempts_succ_of_ok hresult] at h ⊢
      exact hone n h
    | error e =>
      cases he : e.isRetryable with
      | false =>
        rw [attempts_succ_of_final hresult he, hresult] at h
        cases h
      | true =>
        rw [attempts_succ_of_retryable hresult he] at h ⊢
        obtain ⟨hstatus, i, answer, hsent, houtcome, hanswer⟩ := ih _ h
        obtain ⟨htoken, hnetwork⟩ := attempt_of_retryable hresult he
        rw [hnetwork] at houtcome
        have hcarries : n.carries (r.request token) = true := by
          simpa only [Network.carries_after, Network.carries_exchange] using
            Network.carries_of_outcome houtcome
        refine ⟨hstatus, i + 1, answer, ?_, houtcome, hanswer⟩
        rw [hsent, sent_attempt_of_carries htoken hcarries]
        rfl

/-! ### The engine at work -/

lemma notify_loggingObserver (e : RetryEvent RequestError) (s : Session σ) :
    ∃ event, loggingObserver.notify e s = s.record (.logged event) := ⟨_, rfl⟩

lemma notify_messages (e : RetryEvent RequestError) (s : Session σ) :
    (loggingObserver.notify e s).messages = s.messages :=
  s.messages_record_logged _

lemma paused_messages (policy : RetryPolicy) (observer : RetryObserver (Session σ) RequestError)
    (s : Session σ) : ((retrier policy observer).paused s).messages = s.messages := by
  simp only [Retrier.paused]
  split
  · rfl
  · exact s.messages_pause _

lemma paused_network (policy : RetryPolicy) (observer : RetryObserver (Session σ) RequestError)
    (s : Session σ) : ((retrier policy observer).paused s).network = s.network := by
  simp only [Retrier.paused]
  split <;> rfl

/-- The work of `attemptFrom` ends with an attempt that no other follows. -/
lemma attemptFrom_of_final (r : RequestSpec) (policy : RetryPolicy) (token : AccessToken)
    (began : Int) {left : Nat} (number : UInt32) {s : Session σ}
    (h : ∀ e, (r.attempt token s.network).result = .error e → e.isRetryable = true → left = 0) :
    ∃ result s', (retrier policy loggingObserver).attemptFrom (r.sendOnce token) began left number s =
        (result, s') ∧
      result.mapError RetryError.error = (r.attempt token s.network).result ∧
      s'.messages = s.messages ++ (r.attempt token s.network).sent := by
  obtain ⟨event, hstart⟩ := notify_loggingObserver (.start number policy.maxAttempts) s
  obtain ⟨s₁, hsend, hreaches⟩ := r.sendOnce_apply token number (s.record (.logged event))
  have hmessages := hreaches.of_said.messages
  rw [Retrier.attemptFrom_apply]
  simp only [retrier, hstart, hsend]
  rw [Session.record_network] at hmessages ⊢
  cases hresult : (r.attempt token s.network).result with
  | ok status => exact ⟨_, _, rfl, rfl, by rw [notify_messages, hmessages]⟩
  | error e =>
    cases he : e.isRetryable with
    | false =>
      simp only [he, Bool.false_eq_true, if_false]
      exact ⟨_, _, rfl, rfl, by rw [notify_messages, hmessages]⟩
    | true =>
      obtain rfl := h e hresult he
      simp only [he, if_true]
      exact ⟨_, _, rfl, rfl, by rw [notify_messages, notify_messages, hmessages]⟩

/-- The work of `attemptFrom` goes on behind an attempt that another one follows. -/
lemma attemptFrom_of_retryable (r : RequestSpec) (policy : RetryPolicy) (token : AccessToken)
    (began : Int) (left : Nat) (number : UInt32) {s : Session σ} {e : RequestError}
    (h : (r.attempt token s.network).result = .error e) (he : e.isRetryable = true) :
    ∃ s', (retrier policy loggingObserver).attemptFrom (r.sendOnce token) began (left + 1) number s =
        (retrier policy loggingObserver).attemptFrom (r.sendOnce token) began left (number + 1) s' ∧
      s'.network = (r.attempt token s.network).network ∧
      s'.messages = s.messages ++ (r.attempt token s.network).sent := by
  obtain ⟨event, hstart⟩ := notify_loggingObserver (.start number policy.maxAttempts) s
  obtain ⟨s₁, hsend, hreaches⟩ := r.sendOnce_apply token number (s.record (.logged event))
  have hreaches := hreaches.of_said
  rw [Session.record_network] at hsend hreaches
  refine ⟨(retrier policy loggingObserver).paused
    (loggingObserver.notify (.retry number e policy.delay) s₁), ?_, ?_, ?_⟩
  · rw [Retrier.attemptFrom_apply]
    simp only [retrier, hstart, hsend, h, he, if_true]
  · rw [paused_network]
    exact hreaches.network
  · rw [paused_messages, notify_messages, hreaches.messages]

/-- The work of `attemptFrom` makes the attempts at the request one after the other. The induction is on
those that are left. -/
lemma attemptFrom_sendOnce (r : RequestSpec) (policy : RetryPolicy) (token : AccessToken)
    (began : Int) (left : Nat) : ∀ (number : UInt32) (s : Session σ), ∃ result s',
      (retrier policy loggingObserver).attemptFrom (r.sendOnce token) began left number s =
        (result, s') ∧
      result.mapError RetryError.error = (r.attempts token left s.network).result ∧
      s'.messages = s.messages ++ (r.attempts token left s.network).sent := by
  induction left with
  | zero => exact fun number s => r.attemptFrom_of_final policy token began number fun _ _ _ => rfl
  | succ left ih =>
    intro number s
    cases hresult : (r.attempt token s.network).result with
    | ok status =>
      rw [attempts_succ_of_ok hresult]
      exact r.attemptFrom_of_final policy token began number (by simp [hresult])
    | error e =>
      cases he : e.isRetryable with
      | false =>
        rw [attempts_succ_of_final hresult he]
        exact r.attemptFrom_of_final policy token began number (by simp [hresult, he])
      | true =>
        obtain ⟨s₁, hnext, hnetwork, hmessages⟩ :=
          r.attemptFrom_of_retryable policy token began left number hresult he
        obtain ⟨result, s', hrun, hvalue, hothers⟩ := ih (number + 1) s₁
        rw [hnetwork] at hvalue hothers
        rw [attempts_succ_of_retryable hresult he]
        refine ⟨result, s', hnext.trans hrun, hvalue, ?_⟩
        rw [hothers, hmessages, List.append_assoc]

lemma announce_apply (r : RequestSpec) (s : Session σ) :
    ∃ s', r.announce s = ((), s') ∧ s.Reaches [] s.network s' := by
  simp only [announce]
  cases r.insecureSkipVerify with
  | false => exact ⟨_, rfl, (Session.Reaches.refl s).said _⟩
  | true => exact ⟨_, rfl, ((Session.Reaches.refl s).said _).said _⟩

/-- The outcome of `execute` and the messages that it sends are those of the attempts. -/
lemma execute_apply (r : RequestSpec) (policy : RetryPolicy) (token : AccessToken) (s : Session σ) :
    ∃ outcome s', r.execute policy loggingObserver token s = (outcome, s') ∧
      (match (r.attempts token (policy.maxAttempts.toNat - 1) s.network).result with
        | .ok status => outcome = .success status
        | .error e => ∃ made, outcome = .failure made e) ∧
      s'.messages = s.messages ++
        (r.attempts token (policy.maxAttempts.toNat - 1) s.network).sent := by
  obtain ⟨s₀, hannounce, hreaches⟩ := r.announce_apply s
  obtain ⟨result, s₁, hrun, hvalue, hmessages⟩ :=
    r.attemptFrom_sendOnce policy token (Session.clock.now s₀) (policy.maxAttempts.toNat - 1) 1 s₀
  rw [hreaches.messages, hreaches.network, List.append_nil] at hmessages
  rw [hreaches.network] at hvalue
  have hrun : (retrier policy loggingObserver).run (r.sendOnce token) s₀ = (result, s₁) := hrun
  simp only [execute]
  simp only [Work.bind_apply, hannounce, hrun, ← hvalue]
  cases result with
  | ok status => exact ⟨_, _, rfl, rfl, (Session.messages_record_logged _ _).trans hmessages⟩
  | error e =>
    exact ⟨_, _, rfl, ⟨e.attempts, rfl⟩, (Session.messages_record_logged _ _).trans hmessages⟩

end RequestSpec

end Reindex
