import Reindex.Proofs.Identity.Acquisition
import Reindex.Proofs.Outcome
import Reindex.Proofs.Token.Endpoint
import Reindex.Proofs.Url.Placing

/-!
# Authorities that can be asked

A token can be asked for where the address of the authority has a path to put the tenant in, a scheme
that requests are made by, and a host that they are made to. If one of these is missing, every identity
fails with a fault that shows before anything is sent. A URL with one of the two schemes always has a
path.
-/

namespace Reindex

open Http (Network Request)

/-! ### URLs -/

namespace Url

lemma isFlat_of_parse {s : String} {u : Url} (h : parse s = .ok u)
    (hscheme : u.scheme = "http" ∨ u.scheme = "https") : u.isFlat = false := by
  obtain ⟨raw, hpath⟩ := exists_segmentsOf_of_parse h hscheme
  rw [isFlat, hpath]
  rfl

lemma isSome_append?_iff (u : Url) (raws : List String) :
    (u.append? raws).isSome = true ↔ u.isFlat = false := by
  unfold append? isFlat
  cases u.path with
  | flat text => exact ⟨nofun, nofun⟩
  | segments list => exact ⟨fun _ => rfl, fun _ => rfl⟩

/-- Appending segments to a URL changes nothing but its path. -/
lemma exists_segments_of_append? {u u' : Url} {raws : List String} (h : u.append? raws = some u') :
    ∃ list, u' = { u with path := .segments list } := by
  unfold append? at h
  split at h
  · cases h
  · cases h
    exact ⟨_, rfl⟩

end Url

lemma Http.Request.isSendable_postForm (endpoint : Url) (pairs : List (String × String)) :
    (postForm endpoint pairs).isSendable = (endpoint.isAskable && !endpoint.isTooLong) := by
  have hheaders : (postForm endpoint pairs).hasValidHeaders = true := by
    simp only [hasValidHeaders, postForm]
    decide
  rw [isSendable_eq, hheaders, Bool.true_and]
  rfl

/-! ### Faults that show before anything is sent -/

/-- The fault of an exchange shows before anything is sent. -/
def Http.TransportFault.isLocal : Http.TransportFault → Bool
  | .invalidHeader | .invalidScheme | .invalidUrl => true
  | _ => false

/-- The fault of a question for a token shows before anything is sent. -/
def TokenFault.isLocal : TokenFault → Bool
  | .noPath _ => true
  | .transport fault => fault.isLocal
  | _ => false

lemma Http.Answer.isLocal_of_outcome {a : Http.Answer} {fault : Http.TransportFault}
    (h : a.outcome = .error fault) : fault.isLocal = false := by
  cases a with
  | response r => cases h
  | close => cases h; rfl
  | hang => cases h; rfl

/-- An exchange fails before anything is sent exactly if the request cannot be sent. -/
lemma Http.Network.isLocal_outcome_iff (n : Network) (r : Request) :
    (∃ fault, (n.exchange r).outcome = .error fault ∧ fault.isLocal = true) ↔
      r.isSendable = false := by
  constructor
  · rintro ⟨fault, houtcome, hlocal⟩
    by_contra hsendable
    rw [Bool.not_eq_false] at hsendable
    simp only [Request.isSendable, Bool.and_eq_true, Bool.or_eq_true, decide_eq_true_eq]
      at hsendable
    obtain ⟨⟨hheaders, hscheme⟩, hurl⟩ := hsendable
    have hknown : ¬ (r.url.scheme ≠ "http" ∧ r.url.scheme ≠ "https") := by tauto
    unfold exchange at houtcome
    rw [hheaders, hurl, Bool.not_true, if_neg Bool.false_ne_true, if_neg hknown,
      if_neg Bool.false_ne_true] at houtcome
    split at houtcome
    · cases n with
      | unreachable => cases houtcome; cases hlocal
      | scripted answers =>
        cases answers with
        | nil => cases houtcome
        | cons a rest =>
          rw [Answer.isLocal_of_outcome houtcome] at hlocal
          cases hlocal
    · cases n with
      | unreachable => cases houtcome; cases hlocal
      | scripted answers => cases houtcome; cases hlocal
  · intro hsendable
    unfold exchange
    by_cases hheaders : r.hasValidHeaders = true
    · by_cases hscheme : r.url.scheme ≠ "http" ∧ r.url.scheme ≠ "https"
      · rw [hheaders, Bool.not_true, if_neg Bool.false_ne_true, if_pos hscheme]
        exact ⟨_, rfl, rfl⟩
      · have hurl : r.hasValidUrl = false := by
          by_contra hurl
          simp only [Request.isSendable] at hsendable
          simp_all
        rw [hheaders, Bool.not_true, if_neg Bool.false_ne_true, if_neg hscheme, hurl, Bool.not_false,
          if_pos rfl]
        exact ⟨_, rfl, rfl⟩
    · rw [Bool.eq_false_iff.mpr hheaders, Bool.not_false, if_pos rfl]
      exact ⟨_, rfl, rfl⟩

/-- What is wrong with an answer does not show before the answer is there. -/
lemma TokenAnswer.isLocal_of_read {now : Instant} {answer : Http.Response} {failure : TokenFailure}
    (h : read now answer = .error failure) : failure.fault.isLocal = false := by
  have hfault : ∀ status body, (faultOf status body).isLocal = false := by
    intro status body
    unfold faultOf
    split <;> rfl
  unfold read at h
  split at h
  · cases h
    rfl
  · dsimp only at h
    split at h
    · split at h
      · cases h
        rfl
      · split at h
        · cases h
          rfl
        · cases h
    · split at h
      · cases h
        exact hfault _ _
      · cases h
        exact hfault _ _

/-! ### Endpoints and their requests -/

namespace TokenEndpoint

/-- An authority has an endpoint for a tenant if and only if it has a path, whatever the tenant is. -/
lemma isOk_url_iff (authority : Url) (tenant : String) :
    (url authority tenant).isOk = true ↔ authority.isFlat = false := by
  rw [← authority.isSome_append?_iff [tenant, "oauth2", "v2.0", "token"]]
  unfold url
  cases authority.append? [tenant, "oauth2", "v2.0", "token"] with
  | none => exact ⟨nofun, nofun⟩
  | some endpoint => exact ⟨fun _ => rfl, fun _ => rfl⟩

/-- An endpoint is at the host of its authority. -/
lemma isAskable_of_url {authority endpoint : Url} {tenant : String}
    (h : url authority tenant = .ok endpoint) : endpoint.isAskable = authority.isAskable := by
  unfold url at h
  split at h
  · rename_i hendpoint
    cases h
    obtain ⟨list, rfl⟩ := Url.exists_segments_of_append? hendpoint
    rfl
  · cases h

end TokenEndpoint

namespace TokenProvider

/-- Getting a token fails before anything is sent exactly if there is no request that can be sent. -/
lemma isLocal_acquisition_iff (authority : Url) (i : ClientIdentity) (scopes : List String)
    (now : Instant) (n : Network) :
    (∃ fault, (acquisition authority i scopes now n).result = .error (.authenticationFailed fault) ∧
        fault.isLocal = true) ↔
      ∀ r, question? authority i scopes = some r → r.isSendable = false := by
  unfold acquisition
  cases question? authority i scopes with
  | none =>
    refine ⟨fun _ _ h => ?_, fun _ => ⟨_, rfl, rfl⟩⟩
    cases h
  | some r =>
    simp only [Option.some.injEq, forall_eq']
    rw [← n.isLocal_outcome_iff r]
    constructor
    · rintro ⟨fault, hresult, hlocal⟩
      obtain ⟨failure, hmeaning, heq⟩ := mapError_eq_error.mp hresult
      cases heq
      cases houtcome : (n.exchange r).outcome with
      | error fault =>
        rw [houtcome] at hmeaning
        cases hmeaning
        exact ⟨fault, rfl, hlocal⟩
      | ok answer =>
        rw [houtcome] at hmeaning
        rw [TokenAnswer.isLocal_of_read hmeaning] at hlocal
        cases hlocal
    · rintro ⟨fault, houtcome, hlocal⟩
      rw [houtcome]
      exact ⟨_, rfl, hlocal⟩

/-- The request of an identity can be sent if the authority can be asked, and if the tenant does not make
the address of its endpoint too long. -/
lemma isLocal_acquisition_iff_of_parse {text : String} {authority : Url}
    (h : Url.parse text = .ok authority) (i : ClientIdentity) (scopes : List String) (now : Instant)
    (n : Network) :
    (∃ fault, (acquisition authority i scopes now n).result = .error (.authenticationFailed fault) ∧
        fault.isLocal = true) ↔
      authority.isAskable = false ∨
        ∃ endpoint, TokenEndpoint.url authority i.tenantId = .ok endpoint ∧
          endpoint.isTooLong = true := by
  rw [isLocal_acquisition_iff]
  unfold question?
  cases hurl : TokenEndpoint.url authority i.tenantId with
  | error fault =>
    -- Without a path the scheme is not one that requests are made by.
    have hflat : authority.isFlat = true := by
      rw [← Bool.not_eq_false, ← TokenEndpoint.isOk_url_iff authority i.tenantId, hurl]
      exact nofun
    constructor
    · intro _
      left
      by_contra haskable
      simp only [Url.isAskable, Bool.not_eq_false, Bool.and_eq_true, Bool.or_eq_true,
        decide_eq_true_eq] at haskable
      rw [Url.isFlat_of_parse h haskable.1] at hflat
      cases hflat
    · intro _ r hr
      cases hr
  | ok endpoint =>
    simp only [Except.toOption, Option.map_some, Option.some.injEq, forall_eq', Except.ok.injEq,
      exists_eq_left', Http.Request.isSendable_postForm, TokenEndpoint.isAskable_of_url hurl]
    rw [Bool.and_eq_false_iff, Bool.not_eq_false']

end TokenProvider

end Reindex
