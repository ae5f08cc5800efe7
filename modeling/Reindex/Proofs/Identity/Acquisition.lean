import Mathlib.Tactic.Common
import Reindex.Identity.Token
import Reindex.Proofs.Http.Exchange
import Reindex.Proofs.Session.Work

/-!
# Getting a token for an identity

An identity asks its authority once. The request is known beforehand, and so is what each answer to it
means.
-/

namespace Reindex

open Http (Network Request Traffic)

namespace TokenProvider

variable {σ : Type}

/-- The request by which an identity asks an authority for a token, if it can ask it. -/
def question? (authority : Url) (i : ClientIdentity) (scopes : List String) : Option Request :=
  (TokenEndpoint.url authority i.tenantId).toOption.map fun endpoint =>
    .postForm endpoint (form i (scopesFor i scopes))

/-- The token or the failure that the outcome of a request for a token means. -/
def meaning (now : Instant) :
    Except Http.TransportFault Http.Response → Except TokenFailure AccessToken
  | .error fault => .error (.transport (.transport fault))
  | .ok answer => TokenAnswer.read now answer

def acquisition (authority : Url) (i : ClientIdentity) (scopes : List String) (now : Instant)
    (n : Network) : Traffic (Except AuthError AccessToken) :=
  match question? authority i scopes with
  | none => ⟨[], n, .error (.authenticationFailed (.noPath authority))⟩
  | some r =>
    ⟨(n.exchange r).sent.toList, (n.exchange r).network,
      (meaning now (n.exchange r).outcome).mapError fun f => .authenticationFailed f.fault⟩

lemma ask_apply (r : Request) (s : Session σ) :
    (TokenEndpoint.ask r : Work σ _) s =
      (meaning s.now (s.network.exchange r).outcome, s.exchanged r) := by
  simp only [TokenEndpoint.ask, meaning]
  simp only [Work.bind_apply, Work.exchange_apply]
  cases (s.network.exchange r).outcome with
  | error fault => rfl
  | ok answer =>
    simp only [Work.bind_apply, Work.now_apply, Session.exchanged_now]
    rfl

lemma request_apply (authority : Url) (i : ClientIdentity) (scopes : List String) (s : Session σ) :
    ∃ s', (TokenProvider.authority authority).request i (scopesFor i scopes) s =
        ((acquisition authority i scopes s.now s.network).result, s') ∧
      s.Reaches (acquisition authority i scopes s.now s.network).sent
        (acquisition authority i scopes s.now s.network).network s' := by
  unfold TokenProvider.authority acquisition question?
  dsimp only
  cases hurl : TokenEndpoint.url authority i.tenantId with
  | error fault =>
    simp only [TokenEndpoint.url] at hurl
    split at hurl
    · cases hurl
    · cases hurl
      exact ⟨s, rfl, .refl s⟩
  | ok endpoint =>
    simp only [Work.bind_apply, TokenEndpoint.askWithForm, ask_apply]
    exact ⟨_, rfl, s.reaches_exchanged _⟩

lemma acquire_apply (authority : Url) (i : ClientIdentity) (scopes : List String) (s : Session σ) :
    ∃ s', (TokenProvider.authority authority).acquire i scopes s =
        ((acquisition authority i scopes s.now s.network).result, s') ∧
      s.Reaches (acquisition authority i scopes s.now s.network).sent
        (acquisition authority i scopes s.now s.network).network s' := by
  simp only [acquire]
  simp only [Work.bind_apply, Work.log_apply]
  generalize hs₀ : (s.record _).record _ = s₀
  have hsaid : s.Reaches [] s.network s₀ := by
    rw [← hs₀]
    exact ((Session.Reaches.refl s).said _).said _
  obtain ⟨s', hrequest, hreaches⟩ := request_apply authority i scopes s₀
  rw [hsaid.now, hsaid.network] at hrequest hreaches
  simp only [hrequest]
  have hreaches := hsaid.trans hreaches
  cases hresult : (acquisition authority i scopes s.now s.network).result with
  | error e => exact ⟨s', rfl, hreaches⟩
  | ok token => exact ⟨_, rfl, hreaches.said _⟩

/-- An identity sends nothing but its request for a token. -/
lemma sent_acquisition (authority : Url) (i : ClientIdentity) (scopes : List String) (now : Instant)
    (n : Network) : (acquisition authority i scopes now n).sent = [] ∨
      ∃ r, question? authority i scopes = some r ∧
        (acquisition authority i scopes now n).sent = [r.recorded] := by
  simp only [acquisition]
  cases question? authority i scopes with
  | none => exact .inl rfl
  | some r =>
    dsimp only
    rw [Network.exchange_sent]
    split_ifs
    · exact .inr ⟨r, rfl, rfl⟩
    · exact .inl rfl

/-- An identity with a token has an answer to its request, and the token was read from that answer. -/
lemma exists_answer_of_acquisition {authority : Url} {i : ClientIdentity} {scopes : List String}
    {now : Instant} {n : Network} {token : AccessToken}
    (h : (acquisition authority i scopes now n).result = .ok token) :
    ∃ r answer, question? authority i scopes = some r ∧
      (acquisition authority i scopes now n).sent = [r.recorded] ∧
      (n.exchange r).outcome = .ok answer ∧ TokenAnswer.read now answer = .ok token := by
  simp only [acquisition] at h ⊢
  cases hq : question? authority i scopes with
  | none =>
    rw [hq] at h
    cases h
  | some r =>
    simp only [hq] at h ⊢
    cases houtcome : (n.exchange r).outcome with
    | error fault =>
      rw [houtcome] at h
      cases h
    | ok answer =>
      rw [houtcome] at h
      refine ⟨r, answer, rfl, ?_, houtcome, ?_⟩
      · rw [Network.exchange_sent_of_outcome houtcome]
        rfl
      dsimp only [meaning] at h
      cases hread : TokenAnswer.read now answer with
      | error f =>
        rw [hread] at h
        cases h
      | ok token' =>
        rw [hread] at h
        cases h
        rfl

lemma isScripted_acquisition (authority : Url) (i : ClientIdentity) (scopes : List String)
    (now : Instant) (n : Network) :
    (acquisition authority i scopes now n).network.isScripted = n.isScripted := by
  simp only [acquisition]
  cases question? authority i scopes with
  | none => rfl
  | some r => exact n.isScripted_exchange r

end TokenProvider

/-- No answer gives a blank token. -/
lemma TokenAnswer.not_isBlank_of_read {now : Instant} {answer : Http.Response} {token : AccessToken}
    (h : read now answer = .ok token) : token.value.isBlank = false := by
  unfold read at h
  split at h
  · cases h
  · dsimp only at h
    split at h
    · split at h
      · cases h
      · split at h
        · cases h
        · rename_i hblank
          cases h
          exact Bool.eq_false_iff.mpr hblank
    · split at h <;> cases h

end Reindex
