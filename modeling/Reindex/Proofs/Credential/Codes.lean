import Reindex.Proofs.Credential.Source
import Reindex.Proofs.Session.Codes

/-!
# Credentials and the codes of errors

A credential that is asked in two sessions that differ in the values of codes gives the same token in
both, or it fails in both with errors that differ in such values. What the program says about such an
error where it redacts the text is the same.
-/

namespace Reindex

open Redaction (SameButValue)

open Work (SameButCodes)

variable {σ : Type} {chained : Prop}

/-! ### Errors -/

/-- Two faults are the same but for the value in the code that an endpoint names. -/
inductive TokenFault.SameButCodes : TokenFault → TokenFault → Prop
  | same (fault : TokenFault) : SameButCodes fault fault
  | refused {error error' : String} (h : SameButValue error error') (code : Option String) :
      SameButCodes (.refused error code) (.refused error' code)

/-- Two failures have the same party to blame, for faults that are the same but for values in codes. -/
inductive TokenFailure.SameButCodes : TokenFailure → TokenFailure → Prop
  | transport {fault fault' : TokenFault} (h : fault.SameButCodes fault') :
      SameButCodes (.transport fault) (.transport fault')
  | rejected {fault fault' : TokenFault} (h : fault.SameButCodes fault') :
      SameButCodes (.rejected fault) (.rejected fault')

lemma TokenFailure.SameButCodes.fault {e e' : TokenFailure} (h : e.SameButCodes e') :
    e.fault.SameButCodes e'.fault := by
  cases h with
  | transport h => exact h
  | rejected h => exact h

namespace CredentialError

/-- The names of the sources that ask endpoints for their tokens. -/
def sources : List String := [SecretCredential.name, WorkloadCredential.name, ManagedCredential.name]

/-- Two reasons why a source was of no use are the same but for the value in a code. -/
inductive SameReason : String → String → Prop
  | same (reason : String) : SameReason reason reason
  | unavailable {source : String} (hsource : source ∈ sources) {fault fault' : TokenFault}
      (h : fault.SameButCodes fault') :
      SameReason (message (.unavailable source (.token fault)))
        (message (.unavailable source (.token fault')))

/-- Two errors are the same but for values in codes. -/
inductive SameButCodes : CredentialError → CredentialError → Prop
  | same (e : CredentialError) : SameButCodes e e
  | unavailable {source : String} (hsource : source ∈ sources) {fault fault' : TokenFault}
      (h : fault.SameButCodes fault') :
      SameButCodes (.unavailable source (.token fault)) (.unavailable source (.token fault'))
  | rejected {source : String} (hsource : source ∈ sources) {fault fault' : TokenFault}
      (h : fault.SameButCodes fault') :
      SameButCodes (.rejected source (.token fault)) (.rejected source (.token fault'))
  | exhausted {attempted attempted' : List String} (h : List.Forall₂ SameReason attempted attempted') :
      SameButCodes (.exhausted attempted) (.exhausted attempted')

lemma SameButCodes.isFallthrough_eq {e e' : CredentialError} (h : e.SameButCodes e') :
    e.isFallthrough = e'.isFallthrough := by
  cases h <;> rfl

/-- An error that leaves the question to others is among the reasons for the failure of all. -/
lemma SameButCodes.sameReason {e e' : CredentialError} (h : e.SameButCodes e')
    (hfall : e.isFallthrough = true) : SameReason e.message e'.message := by
  cases h with
  | same e => exact .same _
  | unavailable hsource h => exact .unavailable hsource h
  | rejected hsource h => cases hfall
  | exhausted h => cases hfall

lemma ofFailure_sameButCodes {source : String} (hsource : source ∈ sources) {e e' : TokenFailure}
    (h : e.SameButCodes e') : (ofFailure source e).SameButCodes (ofFailure source e') := by
  cases h with
  | transport h => exact .unavailable hsource h
  | rejected h => exact .rejected hsource h

end CredentialError

/-! ### What is read of an answer -/

lemma TokenAnswer.faultOf_sameButCodes {b b' : Http.Body} (h : b.SameButCodes b') (status : Nat) :
    (faultOf status b.lossyText).SameButCodes (faultOf status b'.lossyText) := by
  have hcomplaint := h.complaint
  unfold faultOf
  revert hcomplaint
  generalize complaint? b.lossyText = complaint, complaint? b'.lossyText = complaint'
  intro hcomplaint
  cases hcomplaint with
  | none => exact .same _
  | some hsame =>
    rename_i c c'
    obtain ⟨error, description⟩ := c
    obtain ⟨error', description'⟩ := c'
    obtain ⟨hvalue, rfl⟩ := hsame
    exact .refused hvalue _

lemma TokenAnswer.read_sameButCodes {answer answer' : Http.Response} (h : answer.SameButCodes answer')
    (now : Instant) :
    SameUpTo TokenFailure.SameButCodes (read now answer) (read now answer') := by
  have hfault := faultOf_sameButCodes h.body answer'.status
  simp only [read]
  rw [h.body.complete, h.body.token, h.status]
  split
  · exact .error (.transport (.same _))
  · split
    · exact .refl (fun e => by cases e <;> constructor <;> exact .same _) _
    · split
      · exact .error (.transport hfault)
      · exact .error (.rejected hfault)

lemma TokenEndpoint.ask_sameButCodes (r : Http.Request) :
    SameButCodes chained (SameUpTo TokenFailure.SameButCodes) (ask r : Work σ _) (ask r) := by
  refine (SameButCodes.exchange r).bind fun outcome outcome' houtcome => ?_
  cases houtcome with
  | error fault => exact .pure (.error (.transport (.same _)))
  | ok hanswer =>
    exact SameButCodes.now.bind_eq fun now => .pure (TokenAnswer.read_sameButCodes hanswer now)

/-! ### Sources -/

/-- Asked in sessions that differ in the values of codes, the credential gives the same answer but for
such values. -/
def Credential.Discreet (chained : Prop) (k : Credential σ) : Prop :=
  ∀ scopes, SameButCodes chained (SameUpTo CredentialError.SameButCodes) (k.token scopes) (k.token scopes)

lemma SecretCredential.discreet (c : SecretCredential) : (c.credential : Credential σ).Discreet chained := by
  intro scopes
  show SameButCodes chained _ (c.token scopes) (c.token scopes)
  unfold token
  split
  · exact .pure (.error (.same _))
  · refine (TokenEndpoint.ask_sameButCodes _).bind fun result result' hresult => ?_
    exact .pure (hresult.mapError fun e e' he => CredentialError.ofFailure_sameButCodes (by decide) he)

lemma WorkloadCredential.discreet (c : WorkloadCredential) :
    (c.credential : Credential σ).Discreet chained := by
  intro scopes
  refine (SameButCodes.readFile c.tokenFile).bind_eq fun contents => ?_
  split
  · exact .pure (.error (.same _))
  · split
    · exact .pure (.error (.same _))
    · refine (TokenEndpoint.ask_sameButCodes _).bind fun result result' hresult => ?_
      exact .pure (hresult.mapError fun e e' he =>
        CredentialError.ofFailure_sameButCodes (by decide) he)

lemma ManagedCredential.discreet (c : ManagedCredential) :
    (c.credential : Credential σ).Discreet chained := by
  intro scopes
  show SameButCodes chained _ (c.token scopes) (c.token scopes)
  unfold token
  split
  · refine (TokenEndpoint.ask_sameButCodes _).bind fun result result' hresult => ?_
    exact .pure (hresult.mapError fun e e' he => .unavailable (by decide) he.fault)
  · exact .pure (.error (.same _))

lemma CredentialSource.discreet (source : CredentialSource) :
    (source.credential : Credential σ).Discreet chained := by
  cases source with
  | fixed token => exact fun _ => .pure (.ok token)
  | secret client => exact client.discreet
  | workload client => exact client.discreet
  | managed client => exact client.discreet

/-! ### Chains -/

namespace CredentialChain

/-- The events about an unavailable member differ in the value of a code at most. -/
lemma unavailableEvent_sameButCodes (hchained : chained) (member : String) {e e' : CredentialError}
    (h : e.SameButCodes e') (hfall : e.isFallthrough = true) :
    (Occurrence.logged (unavailableEvent member e)).SameButCodes chained
      (.logged (unavailableEvent member e')) := by
  cases h with
  | same e => exact .same _
  | unavailable hsource h =>
    rename_i source fault fault'
    cases h with
    | same fault => exact .same _
    | refused h code =>
      cases h with
      | same error => exact .same _
      | values hv hw => exact .unavailable hchained member source code hv hw
  | rejected hsource h => cases hfall
  | exhausted h => cases hfall

lemma tryAll_sameButCodes (hchained : chained) (scopes : List String) {members : List (Credential σ)}
    (h : ∀ member ∈ members, member.Discreet chained) {attempted attempted' : List String}
    (hattempted : List.Forall₂ CredentialError.SameReason attempted attempted') :
    SameButCodes chained (SameUpTo CredentialError.SameButCodes) (tryAll scopes attempted members)
      (tryAll scopes attempted' members) := by
  induction members generalizing attempted attempted' with
  | nil => exact .pure (.error (.exhausted hattempted))
  | cons member rest ih =>
    have hrest := fun {tried tried'} => @ih (fun m hm => h m (List.mem_cons_of_mem _ hm)) tried tried'
    refine (h member List.mem_cons_self scopes).bind fun answer answer' hanswer => ?_
    cases hanswer with
    | ok token => exact (SameButCodes.log _).seq (.pure (.ok token))
    | error he =>
      rename_i e e'
      dsimp only
      rw [← he.isFallthrough_eq]
      by_cases hfall : e.isFallthrough = true
      · rw [if_pos hfall, if_pos hfall]
        apply (SameButCodes.log_of (unavailableEvent_sameButCodes hchained member.name he hfall)).seq
        exact hrest (List.rel_append hattempted (.cons (he.sameReason hfall) .nil))
      · rw [if_neg hfall, if_neg hfall]
        exact .pure (.error he)

end CredentialChain

/-- A chain may talk about its members, a single source has nobody to talk about. -/
lemma StoreCredential.discreet (hchained : chained) (k : StoreCredential) :
    (k.credential : Credential σ).Discreet chained := by
  cases k with
  | single source => exact source.discreet
  | chain sources skipped =>
    intro scopes
    apply CredentialChain.tryAll_sameButCodes hchained scopes
    · intro member hmember
      obtain ⟨source, -, rfl⟩ := List.mem_map.mp hmember
      exact source.discreet
    · exact List.forall₂_same.mpr fun reason _ => .same reason

end Reindex
