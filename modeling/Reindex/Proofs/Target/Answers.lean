import Mathlib.Order.Lattice.Nat
import Reindex.Proofs.Job.Plan
import Reindex.Proofs.Target.Attempts

/-!
# What the answers make of the request

The answers are given beforehand, one for each attempt. The request succeeds with the first one that has
the expected status, if that comes early enough, and otherwise it fails with the last one that is
waited for. Of an answer nothing matters but its status, and whether there is one.
-/

namespace Reindex

open Http (Answer Message Network)

/-! ### Scripts of answers -/

namespace Http

/-- The status of the response, if the answer is one. -/
def Answer.status? : Answer → Option UInt16
  | .response r => some (.ofNat r.status)
  | .close | .hang => none

namespace Network

/-- The answer to the `i`-th request, counted from one. -/
def answerTo (answers : List Answer) (i : Nat) : Answer :=
  answers.getD (i - 1) (.response ⟨500, ⟨[], true⟩⟩)

/-- The network when the `i`-th request is made. -/
def before (answers : List Answer) (i : Nat) : Network := .scripted (answers.drop (i - 1))

lemma exchange_before {answers : List Answer} {r : Request} (hscheme : r.url.scheme = "http")
    (hr : r.isSendable = true) {i : Nat} (hi : 1 ≤ i) :
    (before answers i).exchange r =
      ⟨(answerTo answers i).outcome, some r.message, before answers (i + 1)⟩ := by
  have hrest : answers.drop (i + 1 - 1) = (answers.drop (i - 1)).drop 1 := by
    rw [List.drop_drop]
    congr 1
    omega
  simp only [Request.isSendable, Bool.and_eq_true] at hr
  obtain ⟨⟨hheaders, -⟩, hurl⟩ := hr
  unfold exchange before answerTo
  rw [hrest, List.getD_eq_getElem?_getD, ← List.head?_drop]
  simp only [hheaders, hurl, hscheme]
  cases answers.drop (i - 1) <;> rfl

end Network

end Http

/-! ### Requests and their outcomes -/

/-- The outcomes are the same, up to the words for what happened on the way. -/
inductive RequestOutcome.SameButCause : RequestOutcome → RequestOutcome → Prop
  | same (o : RequestOutcome) : SameButCause o o
  | transport (n : UInt32) (f f' : ResponseFault) :
    SameButCause (.failure n (.transport f)) (.failure n (.transport f'))

/-- The observer keeps out of the exchange of messages. -/
structure RetryObserver.IsBystander {σ ε : Type} (o : RetryObserver (Session σ) ε) : Prop where
  network : ∀ e s, (o.notify e s).network = s.network
  messages : ∀ e s, (o.notify e s).messages = s.messages

namespace RequestSpec

variable {σ : Type}

/-- The requests that there can be: to some URL, and then with whatever they are given. -/
inductive IsBuilt : RequestSpec → Prop
  | create {url : Url} {status : UInt16} {r : RequestSpec} (h : create url status = .ok r) : IsBuilt r
  | withHeader {r r' : RequestSpec} {name value : String} (hr : IsBuilt r)
    (h : r.withHeader name value = .ok r') : IsBuilt r'
  | withTimeout {r : RequestSpec} (hr : IsBuilt r) (ms : Nat) : IsBuilt { r with timeoutMs := ms }
  | withInsecure {r : RequestSpec} (hr : IsBuilt r) (skip : Bool) :
    IsBuilt { r with insecureSkipVerify := skip }

/-- An `http` request that can be made with any token that can be sent. -/
structure IsPlain (r : RequestSpec) : Prop where
  built : r.IsBuilt
  scheme : r.url.scheme = "http"
  askable : r.url.isAskable = true
  length : r.url.isTooLong = false

/-- The error of the last attempt if this is the answer to it. -/
def lastError (r : RequestSpec) : Answer → RequestError
  | .response a => .unexpectedStatus r.expectedStatus (.ofNat a.status)
  | .close => .transport (.transport .closed)
  | .hang => .transport (.transport .timedOut)

/-- The result of an attempt if this is the answer to it. -/
def settle (r : RequestSpec) (a : Answer) : Except RequestError UInt16 :=
  if a.status? = some r.expectedStatus then .ok r.expectedStatus else .error (r.lastError a)

/-- The messages and the outcome of a request when the answers are given. -/
structure EndsBy (r : RequestSpec) (policy : RetryPolicy) (token : AccessToken)
    (answers : List Answer) (sent : List Message) (outcome : RequestOutcome) : Prop where
  /-- Nothing is sent with a token that cannot be sent, and there is no second attempt. -/
  unprepared : Http.isHeaderValue token.bearer = false →
    sent = [] ∧ outcome = .failure 1 (.preparation .invalidToken)
  /-- The first answer with the expected status is the last that is waited for. -/
  success : Http.isHeaderValue token.bearer = true → ∀ {j}, IsLeast {i | 1 ≤ i ∧
      i ≤ policy.maxAttempts.toNat ∧
      (Network.answerTo answers i).status? = some r.expectedStatus} j →
    sent = List.replicate j (r.request token).recorded ∧ outcome = .success r.expectedStatus
  /-- Without such an answer all attempts are made, and the last answer tells what was wrong. -/
  failure : Http.isHeaderValue token.bearer = true → (∀ i, 1 ≤ i → i ≤ policy.maxAttempts.toNat →
      (Network.answerTo answers i).status? ≠ some r.expectedStatus) →
    sent = List.replicate policy.maxAttempts.toNat (r.request token).recorded ∧
      outcome = .failure policy.maxAttempts
        (r.lastError (Network.answerTo answers policy.maxAttempts.toNat))

/-! ### One attempt -/

variable {r : RequestSpec} {token : AccessToken}

/-- A request is given no header field that cannot be sent. -/
lemma IsBuilt.isHeaderValue (hr : r.IsBuilt) : ∀ h ∈ r.headers, Http.isHeaderValue h.2 = true := by
  induction hr with
  | create h =>
    obtain ⟨-, rfl⟩ := create_eq_ok_iff.mp h
    exact nofun
  | withHeader hr h ih =>
    obtain ⟨field, -, hvalue, rfl⟩ := withHeader_eq_ok_iff.mp h
    intro header hmem
    rcases List.mem_append.mp hmem with hold | hnew
    · exact ih header hold
    · cases List.mem_singleton.mp hnew
      exact hvalue
  | withTimeout hr ms ih => exact ih
  | withInsecure hr skip ih => exact ih

lemma IsPlain.isSendable (hr : r.IsPlain) (htoken : Http.isHeaderValue token.bearer = true) :
    (r.request token).isSendable = true := by
  have hheaders : (r.request token).hasValidHeaders = true := by
    have haccept : Http.isHeaderValue "application/json" = true := by decide
    simp only [Http.Request.hasValidHeaders, request, Http.Request.get, List.all_append,
      List.all_cons, List.all_nil, htoken, haccept, Bool.and_true, Bool.true_and,
      List.all_eq_true]
    exact hr.built.isHeaderValue
  have haskable : (r.request token).url.isAskable = true := hr.askable
  have hlength : (r.request token).url.isTooLong = false := hr.length
  rw [Http.Request.isSendable_eq, hheaders, haskable, hlength]
  rfl

/-- The error of any answer is one that may be retried. -/
lemma isRetryable_lastError (r : RequestSpec) (a : Answer) : (r.lastError a).isRetryable = true := by
  cases a <;> rfl

lemma attempt_of_isPlain (hr : r.IsPlain) (htoken : Http.isHeaderValue token.bearer = true)
    (answers : List Answer) {i : Nat} (hi : 1 ≤ i) :
    r.attempt token (Network.before answers i) =
      ⟨[(r.request token).recorded], Network.before answers (i + 1),
        r.settle (Network.answerTo answers i)⟩ := by
  have hscheme : (r.request token).url.scheme = "http" := hr.scheme
  have hrecorded : (r.request token).recorded = (r.request token).message := if_pos hscheme
  unfold attempt
  rw [htoken, Bool.not_true, if_neg Bool.false_ne_true,
    Network.exchange_before hscheme (hr.isSendable htoken) hi, hrecorded]
  cases Network.answerTo answers i with
  | response a =>
    have hstatus : a.arriving.status = a.status := by
      unfold Http.Response.arriving
      split <;> rfl
    simp only [Answer.outcome, judge, settle, Answer.status?, lastError, hstatus, Option.some.injEq]
    split
    · rename_i h
      rw [h]
      rfl
    · rfl
  | close => rfl
  | hang => rfl

/-! ### All attempts -/

variable {policy : RetryPolicy} {observer : RetryObserver (Session σ) RequestError}

/-- No attempt follows the one whose answer has the expected status, and none the last one. -/
lemma isFinal_settle_iff {answers : List Answer} {i : Nat} :
    (retrier policy observer).IsFinal (fun i => r.settle (Network.answerTo answers i)) i ↔
      (Network.answerTo answers i).status? = some r.expectedStatus ∨
        i = policy.maxAttempts.toNat := by
  simp only [Retrier.IsFinal, settle, retrier]
  split
  · rename_i h
    exact ⟨fun _ => .inl h, fun _ => .inl ⟨_, rfl⟩⟩
  · rename_i h
    constructor
    · rintro (⟨_, hvalue⟩ | ⟨_, herror, hretry⟩ | hlast)
      · cases hvalue
      · cases herror
        rw [r.isRetryable_lastError] at hretry
        cases hretry
      · exact .inr hlast
    · rintro (hstatus | hlast)
      · exact absurd hstatus h
      · exact .inr (.inr hlast)

/-- Each call of an operation adds the same messages, and nothing else does. -/
lemma messages_foldl_perform (hobserver : observer.IsBystander) (P : Network → Prop)
    (sent : List Message) {effect : UInt32 → Session σ → Session σ}
    (heffect : ∀ i s, P s.network →
      P (effect i s).network ∧ (effect i s).messages = s.messages ++ sent)
    (steps : List (RetryStep RequestError)) : ∀ s : Session σ, P s.network →
      (steps.foldl ((retrier policy observer).perform effect) s).messages =
        s.messages ++ (List.replicate (RetryStep.calls steps).length sent).flatten := by
  induction steps with
  | nil => exact fun s _ => (List.append_nil _).symm
  | cons step steps ih =>
    intro s hs
    rw [List.foldl_cons]
    cases step with
    | told e =>
      have hnetwork : P (observer.notify e s).network := by rwa [hobserver.network]
      exact (ih _ hnetwork).trans (by rw [hobserver.messages]; rfl)
    | waited =>
      refine (ih (s.pause policy.delay) hs).trans ?_
      rw [Session.messages_pause]
      rfl
    | called i =>
      obtain ⟨hnetwork, hmessages⟩ := heffect i s hs
      refine (ih (effect i s) hnetwork).trans ?_
      rw [hmessages, List.append_assoc, ← List.flatten_cons, ← List.replicate_succ]
      rfl

/-- The results of the attempts are those that the answers give, one after the other. -/
lemma attemptFrom_sendOnce_eq (hr : r.IsPlain) (hobserver : observer.IsBystander)
    (htoken : Http.isHeaderValue token.bearer = true) {answers : List Answer} {s : Session σ}
    (hs : s.network = .scripted answers) (began : Int) :
    (retrier policy observer).attemptFrom (r.sendOnce token) began (policy.maxAttempts.toNat - 1)
        (.ofNat 1) s =
      (retrier policy observer).attemptFrom
        (Retrier.scripted (fun i => r.settle (Network.answerTo answers i))
          fun i s => (r.sendOnce token i s).2) began (policy.maxAttempts.toNat - 1) (.ofNat 1) s := by
  have hpos : 0 < policy.maxAttempts.toNat := UInt32.lt_iff_toNat_lt.mp policy.maxAttempts_pos
  have hcount : 1 + (policy.maxAttempts.toNat - 1) = policy.maxAttempts.toNat := by omega
  refine Retrier.attemptFrom_congr _
    (P := fun i s => 1 ≤ i ∧ s.network = Network.before answers i) ?told ?paused ?called _ _ _ _
    hcount ⟨le_rfl, hs⟩
  case told => exact fun i e s h => ⟨h.1, (hobserver.network e s).trans h.2⟩
  case paused => exact fun i s h => ⟨h.1, (paused_network policy observer s).trans h.2⟩
  case called =>
    rintro i s hi ⟨hpositive, hnetwork⟩
    obtain ⟨s', hsend, hreaches⟩ := r.sendOnce_apply token (.ofNat i) s
    rw [hnetwork, attempt_of_isPlain hr htoken answers hpositive] at hsend hreaches
    have hnumber : (UInt32.ofNat i).toNat = i := (retrier policy observer).toNat_ofNat_of_le hi
    simp only [Retrier.scripted, hsend, hnumber]
    exact ⟨trivial, by omega, hreaches.network⟩

/-- The attempts end with the first answer after which there is no reason to wait for another one. -/
lemma run_sendOnce (hr : r.IsPlain) (hobserver : observer.IsBystander)
    (htoken : Http.isHeaderValue token.bearer = true) {answers : List Answer} {s : Session σ}
    (hs : s.network = .scripted answers) :
    ∃ k elapsed s', 1 ≤ k ∧
      (retrier policy observer).IsFinal (fun i => r.settle (Network.answerTo answers i)) k ∧
      (∀ j, 1 ≤ j → j < k →
        ¬ (retrier policy observer).IsFinal (fun i => r.settle (Network.answerTo answers i)) j) ∧
      (retrier policy observer).run (r.sendOnce token) s =
        ((retrier policy observer).verdict (fun i => r.settle (Network.answerTo answers i)) k elapsed,
          s') ∧
      s'.messages = s.messages ++ List.replicate k (r.request token).recorded := by
  have hpos : 0 < policy.maxAttempts.toNat := UInt32.lt_iff_toNat_lt.mp policy.maxAttempts_pos
  have hcount : 1 + (policy.maxAttempts.toNat - 1) = policy.maxAttempts.toNat := by omega
  have hcarries : s.network.carries (r.request token) = true := by
    rw [Network.carries, hs, hr.isSendable htoken]
    rfl
  obtain ⟨k, elapsed, hk, hfinal, hleast, hrun⟩ := (retrier policy observer).attemptFrom_scripted
    (fun i => r.settle (Network.answerTo answers i)) (fun i s => (r.sendOnce token i s).2)
    (Session.clock.now s) (policy.maxAttempts.toNat - 1) 1 s hcount
  refine ⟨k, elapsed, _, hk, hfinal, hleast,
    (attemptFrom_sendOnce_eq hr hobserver htoken hs _).trans hrun, ?_⟩
  rw [messages_foldl_perform hobserver (fun n => n.carries (r.request token) = true)
    [(r.request token).recorded] ?_ _ s hcarries, Retrier.calls_courseFrom _ _ _ hk]
  · simp
  · intro i s hs
    obtain ⟨s', hsend, hreaches⟩ := r.sendOnce_apply token i s
    have hnetwork : (r.attempt token s.network).network =
        (s.network.exchange (r.request token)).network := by
      rw [attempt, htoken, Bool.not_true, if_neg Bool.false_ne_true]
    rw [hsend, hreaches.messages, sent_attempt_of_carries htoken hs, hreaches.network, hnetwork,
      Network.carries_exchange]
    exact ⟨hs, rfl⟩

/-- With a token that cannot be sent there is one attempt, and nothing is sent in it. -/
lemma run_sendOnce_of_invalid (hobserver : observer.IsBystander)
    (htoken : Http.isHeaderValue token.bearer = false) (s : Session σ) :
    ∃ s', (retrier policy observer).run (r.sendOnce token) s =
        (.error (.nonRetryable 1 (.preparation .invalidToken)), s') ∧ s'.messages = s.messages := by
  have hsend : ∀ s : Session σ,
      r.sendOnce token 1 s = (.error (.preparation .invalidToken), s) := by
    intro s
    unfold sendOnce
    rw [htoken, Bool.not_false, if_pos rfl]
    rfl
  have hrun := (retrier policy observer).attemptFrom_apply (r.sendOnce token) (Session.clock.now s)
    (policy.maxAttempts.toNat - 1) 1 s
  rw [hsend] at hrun
  refine ⟨_, hrun.trans (if_neg Bool.false_ne_true), ?_⟩
  simp only [retrier, hobserver.messages]

/-! ### The outcome -/

/-- The outcome of a request whose attempts had this result. -/
def concluded : Except (RetryError RequestError) UInt16 → RequestOutcome
  | .ok status => .success status
  | .error e => .failure e.attempts e.error

lemma conclude_apply (result : Except (RetryError RequestError) UInt16) (s : Session σ) :
    ∃ s', conclude result s = (concluded result, s') ∧ s'.messages = s.messages := by
  cases result with
  | ok status => exact ⟨_, rfl, s.messages_record_logged _⟩
  | error e => exact ⟨_, rfl, s.messages_record_logged _⟩

lemma concluded_verdict {answers : List Answer} (k elapsed : Nat) :
    concluded ((retrier policy observer).verdict
        (fun i => r.settle (Network.answerTo answers i)) k elapsed) =
      if (Network.answerTo answers k).status? = some r.expectedStatus then .success r.expectedStatus
      else .failure policy.maxAttempts (r.lastError (Network.answerTo answers k)) := by
  by_cases h : (Network.answerTo answers k).status? = some r.expectedStatus
  · simp only [Retrier.verdict, settle, if_pos h]
    rfl
  · simp only [Retrier.verdict, settle, if_neg h, retrier, isRetryable_lastError, if_true]
    rfl

/-- The work of `execute` is that of its attempts; before and after them only something is said. -/
lemma execute_eq_run (r : RequestSpec) (policy : RetryPolicy)
    (observer : RetryObserver (Session σ) RequestError) (token : AccessToken) (s : Session σ) :
    ∃ s₀ : Session σ, s₀.network = s.network ∧ s₀.messages = s.messages ∧
      ∀ {result s₁}, (retrier policy observer).run (r.sendOnce token) s₀ = (result, s₁) →
        (r.execute policy observer token s).1 = concluded result ∧
          (r.execute policy observer token s).2.messages = s₁.messages := by
  obtain ⟨s₀, hannounce, hreaches⟩ := r.announce_apply s
  refine ⟨s₀, hreaches.network, by rw [hreaches.messages, List.append_nil], fun {result s₁} hrun => ?_⟩
  obtain ⟨s₂, hconclude, hsame⟩ := conclude_apply result s₁
  simp only [execute]
  simp only [Work.bind_apply, hannounce, hrun, hconclude]
  exact ⟨trivial, hsame⟩

/-- The work of `execute` ends by the answers. -/
lemma endsBy_execute (hr : r.IsPlain) (hobserver : observer.IsBystander) (policy : RetryPolicy)
    (token : AccessToken) {answers : List Answer} {s : Session σ}
    (hs : s.network = .scripted answers) :
    ∃ sent, (r.execute policy observer token s).2.messages = s.messages ++ sent ∧
      r.EndsBy policy token answers sent (r.execute policy observer token s).1 := by
  have hpos : 0 < policy.maxAttempts.toNat := UInt32.lt_iff_toNat_lt.mp policy.maxAttempts_pos
  obtain ⟨s₀, hnetwork, hmessages, hexecute⟩ := r.execute_eq_run policy observer token s
  cases htoken : Http.isHeaderValue token.bearer with
  | false =>
    obtain ⟨s₁, hrun, hsame⟩ := run_sendOnce_of_invalid hobserver htoken s₀
    obtain ⟨houtcome, hsent⟩ := hexecute hrun
    refine ⟨[], by rw [hsent, hsame, hmessages, List.append_nil], fun _ => ⟨rfl, houtcome⟩, ?_, ?_⟩
    · exact fun h => absurd (htoken.symm.trans h) nofun
    · exact fun h => absurd (htoken.symm.trans h) nofun
  | true =>
    obtain ⟨k, elapsed, s₁, hk, hfinal, hleast, hrun, hsame⟩ :=
      run_sendOnce hr hobserver htoken (hnetwork.trans hs)
    obtain ⟨houtcome, hsent⟩ := hexecute hrun
    rw [concluded_verdict] at houtcome
    simp only [isFinal_settle_iff] at hfinal hleast
    refine ⟨_, by rw [hsent, hsame, hmessages], ?_, ?_, ?_⟩
    · exact fun h => absurd (htoken.symm.trans h) nofun
    · rintro - j ⟨⟨hpositive, hj, hstatus⟩, hfirst⟩
      obtain rfl : k = j := by
        refine le_antisymm (not_lt.mp fun hlt => hleast j hpositive hlt (.inl hstatus)) ?_
        rcases hfinal with hfinal | hlast
        · rcases le_total k policy.maxAttempts.toNat with hle | hle
          · exact hfirst ⟨hk, hle, hfinal⟩
          · exact hj.trans hle
        · exact hj.trans_eq hlast.symm
      exact ⟨rfl, houtcome.trans (if_pos hstatus)⟩
    · intro _ hnone
      obtain rfl : k = policy.maxAttempts.toNat := by
        rcases hfinal with hfinal | hlast
        · rcases le_or_gt k policy.maxAttempts.toNat with hle | hlt
          · exact absurd hfinal (hnone k hk hle)
          · exact absurd (.inr rfl) (hleast _ hpos hlt)
        · exact hlast
      exact ⟨rfl, houtcome.trans (if_neg (hnone _ hk le_rfl))⟩

lemma lastError_alike (n : UInt32) {a a' : Answer} (h : a.status? = a'.status?) :
    (RequestOutcome.failure n (r.lastError a)).SameButCause (.failure n (r.lastError a')) := by
  cases a with
  | response b =>
    cases a' with
    | response b' =>
      simp only [lastError]
      rw [Option.some.inj h]
      exact .same _
    | close => cases h
    | hang => cases h
  | close =>
    cases a' with
    | response b' => cases h
    | close => exact .same _
    | hang => exact .transport _ _ _
  | hang =>
    cases a' with
    | response b' => cases h
    | close => exact .transport _ _ _
    | hang => exact .same _

/-- Answers with the same statuses make the same of the request, whatever is in their bodies. -/
lemma EndsBy.alike {answers answers' : List Answer} {sent sent' : List Message}
    {outcome outcome' : RequestOutcome} (h : r.EndsBy policy token answers sent outcome)
    (h' : r.EndsBy policy token answers' sent' outcome')
    (hstatus : ∀ i, 1 ≤ i → i ≤ policy.maxAttempts.toNat →
      (Network.answerTo answers i).status? = (Network.answerTo answers' i).status?) :
    sent = sent' ∧ outcome.SameButCause outcome' := by
  have hpos : 0 < policy.maxAttempts.toNat := UInt32.lt_iff_toNat_lt.mp policy.maxAttempts_pos
  cases htoken : Http.isHeaderValue token.bearer with
  | false =>
    obtain ⟨rfl, rfl⟩ := h.unprepared htoken
    obtain ⟨rfl, rfl⟩ := h'.unprepared htoken
    exact ⟨rfl, .same _⟩
  | true =>
    by_cases hsome : {i | 1 ≤ i ∧ i ≤ policy.maxAttempts.toNat ∧
        (Network.answerTo answers i).status? = some r.expectedStatus}.Nonempty
    · have hleast := isLeast_csInf hsome
      have hsame : {i | 1 ≤ i ∧ i ≤ policy.maxAttempts.toNat ∧
          (Network.answerTo answers i).status? = some r.expectedStatus} =
            {i | 1 ≤ i ∧ i ≤ policy.maxAttempts.toNat ∧
              (Network.answerTo answers' i).status? = some r.expectedStatus} := by
        ext i
        refine and_congr_right fun hi => and_congr_right fun hle => ?_
        rw [hstatus i hi hle]
      obtain ⟨rfl, rfl⟩ := h.success htoken hleast
      rw [hsame] at hleast
      obtain ⟨hsent, rfl⟩ := h'.success htoken hleast
      rw [hsent, hsame]
      exact ⟨rfl, .same _⟩
    · have hnone : ∀ i, 1 ≤ i → i ≤ policy.maxAttempts.toNat →
          (Network.answerTo answers i).status? ≠ some r.expectedStatus :=
        fun i hi hle h => hsome ⟨i, hi, hle, h⟩
      obtain ⟨rfl, rfl⟩ := h.failure htoken hnone
      obtain ⟨rfl, rfl⟩ := h'.failure htoken fun i hi hle => hstatus i hi hle ▸ hnone i hi hle
      exact ⟨rfl, lastError_alike _ (hstatus _ hpos le_rfl)⟩

/-- The request ends by its answers, and nothing of them matters but their statuses: two runs whose
answers have the same ones send the same and have the same outcome, up to the words for what happened on
the way. -/
theorem execute_endsBy (hr : r.IsPlain) (hobserver : observer.IsBystander) (policy : RetryPolicy)
    (token : AccessToken) :
    (∀ (answers : List Answer) (s : Session σ), s.network = .scripted answers →
      ∃ sent, (r.execute policy observer token s).2.messages = s.messages ++ sent ∧
        r.EndsBy policy token answers sent (r.execute policy observer token s).1) ∧
      ∀ (answers answers' : List Answer) (s s' : Session σ), s.network = .scripted answers →
        s'.network = .scripted answers' →
        (∀ i, 1 ≤ i → i ≤ policy.maxAttempts.toNat →
          (Network.answerTo answers i).status? = (Network.answerTo answers' i).status?) →
        ∃ sent, (r.execute policy observer token s).2.messages = s.messages ++ sent ∧
          (r.execute policy observer token s').2.messages = s'.messages ++ sent ∧
          (r.execute policy observer token s).1.SameButCause
            (r.execute policy observer token s').1 := by
  refine ⟨fun answers s hs => endsBy_execute hr hobserver policy token hs, ?_⟩
  intro answers answers' s s' hs hs' hstatus
  obtain ⟨sent, hmessages, hends⟩ := endsBy_execute hr hobserver policy token hs
  obtain ⟨sent', hmessages', hends'⟩ := endsBy_execute hr hobserver policy token hs'
  obtain ⟨rfl, houtcome⟩ := hends.alike hends' hstatus
  exact ⟨sent, hmessages, hmessages', houtcome⟩

lemma isBystander_loggingObserver :
    (loggingObserver : RetryObserver (Session σ) RequestError).IsBystander where
  network := fun _ _ => rfl
  messages := notify_messages

/-- A request to a host, and the expected status is 200. -/
def toHost (name : String) : RequestSpec where
  url := ⟨"http", some ⟨"", none, .domain name, none⟩, .segments [""], none, none⟩
  expectedStatus := 200

/-- A network that gives one answer. -/
def answering (a : Answer) : Session Unit := ⟨.scripted [a], ⟨[]⟩, ⟨0⟩, [], ()⟩

theorem toHost_endsBy :
    let observer : RetryObserver (Session Unit) RequestError := loggingObserver
    let token : AccessToken := ⟨⟨"t"⟩, none⟩
    (toHost "t").IsPlain ∧ observer.IsBystander ∧
      (∀ (answers : List Answer) (s : Session Unit), s.network = .scripted answers →
        ∃ sent, ((toHost "t").execute .single observer token s).2.messages = s.messages ++ sent ∧
          (toHost "t").EndsBy .single token answers sent
            ((toHost "t").execute .single observer token s).1) ∧
        ∀ (answers answers' : List Answer) (s s' : Session Unit), s.network = .scripted answers →
          s'.network = .scripted answers' →
          (∀ i, 1 ≤ i → i ≤ RetryPolicy.single.maxAttempts.toNat →
            (Network.answerTo answers i).status? = (Network.answerTo answers' i).status?) →
          ∃ sent, ((toHost "t").execute .single observer token s).2.messages = s.messages ++ sent ∧
            ((toHost "t").execute .single observer token s').2.messages = s'.messages ++ sent ∧
            ((toHost "t").execute .single observer token s).1.SameButCause
              ((toHost "t").execute .single observer token s').1 := by
  intro observer token
  have hbuilt : (toHost "t").IsBuilt := .create (create_eq_ok_iff.mpr ⟨by decide, rfl⟩)
  have hr : (toHost "t").IsPlain := ⟨hbuilt, rfl, by decide, by decide +kernel⟩
  exact ⟨hr, isBystander_loggingObserver, execute_endsBy hr isBystander_loggingObserver .single token⟩

/-- There are hosts of URLs that no request is sent to, whatever would be answered; and of two answers
without a status the outcome tells which one it was. -/
theorem unaskable_request_is_not_sent :
    Url.parse "http://a\x7bb" = .ok (toHost "a\x7bb").url ∧
      (Network.answerTo [.response ⟨200, ⟨[], true⟩⟩] 1).status? = some (toHost "a\x7bb").expectedStatus ∧
      ((toHost "a\x7bb").execute .single loggingObserver ⟨⟨"t"⟩, none⟩
        (answering (.response ⟨200, ⟨[], true⟩⟩))).1 =
          .failure 1 (.transport (.transport .invalidUrl)) ∧
      ((toHost "a\x7bb").execute .single loggingObserver ⟨⟨"t"⟩, none⟩
        (answering (.response ⟨200, ⟨[], true⟩⟩))).2.messages = [] ∧
      Answer.status? .close = Answer.status? .hang ∧
      ((toHost "t").execute .single loggingObserver ⟨⟨"t"⟩, none⟩ (answering .close)).1 ≠
        ((toHost "t").execute .single loggingObserver ⟨⟨"t"⟩, none⟩ (answering .hang)).1 := by
  decide +kernel

end RequestSpec

end Reindex
