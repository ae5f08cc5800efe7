import Reindex.Proofs.Credential.Codes
import Reindex.Proofs.Secret.Batch

/-!
# Batches and the codes of errors

An error that keeps a batch from being read is put on record in a redacted form, so in two sessions that
differ in the values of codes the same is said about it. That the texts of such errors are redacted to
the same text is shown by taking them apart at the places where codes can stand.
-/

namespace Reindex

open Redaction (Veiled Closes Announces codeText valueName phrases)

open Work (SameButCodes)

variable {σ : Type} {chained : Prop}

/-! ### The texts of faults -/

/-- A service's own code behind the code of an endpoint. -/
def serviceText : Option String → List Char
  | some code => ':' :: ' ' :: code.toList
  | none => []

lemma toList_message_refused (error : String) (code : Option String) :
    (TokenFault.refused error code).message.toList = error.toList ++ serviceText code := by
  cases code with
  | none => exact (List.append_nil _).symm
  | some code =>
    have htext : (TokenFault.refused error (some code)).message = error ++ ": " ++ code := rfl
    rw [htext, String.toList_append, String.toList_append, List.append_assoc]
    rfl

lemma closes_serviceText {rest : List Char} (h : Closes rest) (code : Option String) :
    Closes (serviceText code ++ rest) := by
  cases code with
  | none => exact h
  | some code =>
    rintro c ⟨⟩
    rfl

/-- Behind a phrase that announces a code, faults differ in the value of the code at most. What follows
may differ in further codes, whatever stands in front of it. -/
lemma TokenFault.SameButCodes.veiled {fault fault' : TokenFault} (h : fault.SameButCodes fault')
    {p : List Char} (hp : Announces p) {rest rest' : List Char} (hrest : Closes rest)
    (hrest' : Closes rest') (hveiled : ∀ q, Veiled (q ++ rest) (q ++ rest')) :
    Veiled (p ++ ':' :: ' ' :: (fault.message.toList ++ rest))
      (p ++ ':' :: ' ' :: (fault'.message.toList ++ rest')) := by
  have hsame : ∀ text : List Char, Veiled (p ++ ':' :: ' ' :: (text ++ rest))
      (p ++ ':' :: ' ' :: (text ++ rest')) := by
    intro text
    have htext := hveiled (p ++ ':' :: ' ' :: text)
    rw [List.append_assoc, List.append_assoc] at htext
    exact htext
  cases h with
  | same fault => exact hsame _
  | refused h code =>
    cases h with
    | same error => exact hsame _
    | values hv hw =>
      have hcode : ∀ value rest : List Char, ':' :: ' ' :: (valueName ++ value ++ serviceText code ++
          rest) = codeText value ++ (serviceText code ++ rest) := by
        intro value rest
        simp only [codeText, List.append_assoc, List.cons_append]
      rw [toList_message_refused, toList_message_refused, Redaction.toList_valueName,
        Redaction.toList_valueName, hcode, hcode]
      exact .code hp hv hw (closes_serviceText hrest code) (closes_serviceText hrest' code) (hveiled _)

/-- Faults that differ in the value of a code may also end the text. -/
lemma TokenFault.SameButCodes.veiled_end {fault fault' : TokenFault} (h : fault.SameButCodes fault')
    {p : List Char} (hp : Announces p) :
    Veiled (p ++ ':' :: ' ' :: fault.message.toList) (p ++ ':' :: ' ' :: fault'.message.toList) := by
  have hend : Closes [] := by rintro c ⟨⟩
  have hveiled := h.veiled hp hend hend fun q => .same _
  rw [List.append_nil, List.append_nil] at hveiled
  exact hveiled

/-! ### The texts of errors -/

namespace CredentialError

lemma toList_message_unavailable (source : String) (fault : TokenFault) :
    (message (.unavailable source (.token fault))).toList =
      source.toList ++ " is unavailable".toList ++ ':' :: ' ' :: fault.message.toList := by
  have hphrase : " is unavailable: ".toList = " is unavailable".toList ++ [':', ' '] := rfl
  apply Redaction.toList_append_phrase
  rw [String.toList_append, hphrase, List.append_assoc]

lemma toList_message_rejected (source : String) (fault : TokenFault) :
    (message (.rejected source (.token fault))).toList =
      source.toList ++ " was rejected".toList ++ ':' :: ' ' :: fault.message.toList := by
  have hphrase : " was rejected: ".toList = " was rejected".toList ++ [':', ' '] := rfl
  apply Redaction.toList_append_phrase
  rw [String.toList_append, hphrase, List.append_assoc]

/-- Reasons in a list that is closed, from the second one on. -/
def furtherReasons (reasons : List String) : List Char :=
  reasons.flatMap (fun reason => ';' :: ' ' :: reason.toList) ++ [')']

lemma furtherReasons_cons (reason : String) (reasons : List String) :
    furtherReasons (reason :: reasons) = ';' :: ' ' :: (reason.toList ++ furtherReasons reasons) := by
  simp [furtherReasons]

lemma closes_furtherReasons (reasons : List String) : Closes (furtherReasons reasons) := by
  cases reasons with
  | nil =>
    rintro c ⟨⟩
    rfl
  | cons reason rest =>
    rintro c ⟨⟩
    rfl

lemma intercalate_append_furtherReasons (reason : String) (reasons : List String) :
    ("; ".intercalate (reason :: reasons)).toList ++ [')'] =
      reason.toList ++ furtherReasons reasons := by
  have hsep : "; ".toList = [';', ' '] := rfl
  rw [String.toList_intercalate, hsep]
  induction reasons generalizing reason with
  | nil => simp [furtherReasons]
  | cons next rest ih =>
    have hnext := ih next
    rw [List.map_cons] at hnext
    rw [List.map_cons, List.map_cons, List.intercalate_cons_cons, furtherReasons_cons, ← hnext]
    simp only [List.append_assoc, List.cons_append, List.nil_append]

lemma toList_message_exhausted (reason : String) (reasons : List String) :
    (message (.exhausted (reason :: reasons))).toList =
      "No ambient credential could produce a token ".toList ++
        '(' :: (reason.toList ++ furtherReasons reasons) := by
  have htext : message (.exhausted (reason :: reasons)) =
      "No ambient credential could produce a token (" ++ "; ".intercalate (reason :: reasons) ++
        ")" := rfl
  have hopen : "No ambient credential could produce a token (".toList =
      "No ambient credential could produce a token ".toList ++ ['('] := rfl
  have hclose : ")".toList = [')'] := rfl
  rw [htext, String.toList_append, String.toList_append, hopen, hclose, List.append_assoc,
    List.append_assoc, intercalate_append_furtherReasons]
  rfl

lemma phrase_of_source : ∀ source ∈ sources,
    source.toList ++ " is unavailable".toList ∈ phrases ∧
      ' ' :: (source.toList ++ " is unavailable".toList) ∈ phrases ∧
      ' ' :: (source.toList ++ " was rejected".toList) ∈ phrases := by
  decide +kernel

/-- A reason differs in the value of a code at most, wherever the phrase that announces it begins. -/
lemma SameReason.veiled {reason reason' : String} (h : SameReason reason reason') {p : List Char}
    (hp : ∀ source ∈ sources, Announces (p ++ (source.toList ++ " is unavailable".toList)))
    {rest rest' : List Char} (hrest : Closes rest) (hrest' : Closes rest')
    (hveiled : ∀ q, Veiled (q ++ rest) (q ++ rest')) :
    Veiled (p ++ (reason.toList ++ rest)) (p ++ (reason'.toList ++ rest')) := by
  cases h with
  | same reason =>
    rw [← List.append_assoc, ← List.append_assoc]
    exact hveiled _
  | unavailable hsource h =>
    have hfault := h.veiled (hp _ hsource) hrest hrest' hveiled
    rw [toList_message_unavailable, toList_message_unavailable]
    simpa using hfault

/-- Further reasons that differ in the values of codes at most differ so as a text, too. The induction is on
the reasons that are left. -/
lemma furtherReasons_veiled {reasons reasons' : List String}
    (h : List.Forall₂ SameReason reasons reasons') :
    ∀ q, Veiled (q ++ furtherReasons reasons) (q ++ furtherReasons reasons') := by
  induction h with
  | nil => exact fun q => .same _
  | cons h _ ih =>
    intro q
    have hp : ∀ source ∈ sources,
        Announces ((q ++ [';', ' ']) ++ (source.toList ++ " is unavailable".toList)) := by
      intro source hsource
      rw [List.append_assoc]
      exact .behind q rfl (phrase_of_source source hsource).2.1
    have hreason := h.veiled hp (closes_furtherReasons _) (closes_furtherReasons _) ih
    rw [List.append_assoc, List.append_assoc] at hreason
    rw [furtherReasons_cons, furtherReasons_cons]
    exact hreason

lemma exhausted_veiled {reasons reasons' : List String} (h : List.Forall₂ SameReason reasons reasons')
    (p : List Char) :
    Veiled (p ++ (message (.exhausted reasons)).toList)
      (p ++ (message (.exhausted reasons')).toList) := by
  cases h with
  | nil => exact .same _
  | cons h hrest =>
    have hp : ∀ source ∈ sources,
        Announces ((p ++ "No ambient credential could produce a token ".toList ++ ['(']) ++
          (source.toList ++ " is unavailable".toList)) := by
      intro source hsource
      rw [List.append_assoc]
      exact .behind _ rfl (phrase_of_source source hsource).1
    have hreason := h.veiled hp (closes_furtherReasons _) (closes_furtherReasons _)
      (furtherReasons_veiled hrest)
    rw [toList_message_exhausted, toList_message_exhausted]
    simpa using hreason

/-- Behind other words and a colon, errors differ in the values of codes at most. -/
lemma SameButCodes.veiled {e e' : CredentialError} (h : e.SameButCodes e') (p : List Char) :
    Veiled (p ++ ':' :: ' ' :: e.message.toList) (p ++ ':' :: ' ' :: e'.message.toList) := by
  have hcolon : Redaction.isSeparator ':' = true := rfl
  cases h with
  | same e => exact .same _
  | unavailable hsource h =>
    have hfault := h.veiled_end (.behind p hcolon (phrase_of_source _ hsource).2.1)
    rw [toList_message_unavailable, toList_message_unavailable]
    simpa using hfault
  | rejected hsource h =>
    have hfault := h.veiled_end (.behind p hcolon (phrase_of_source _ hsource).2.2)
    rw [toList_message_rejected, toList_message_rejected]
    simpa using hfault
  | exhausted h =>
    have hreasons := exhausted_veiled h (p ++ [':', ' '])
    rw [List.append_assoc, List.append_assoc] at hreasons
    exact hreasons

end CredentialError

namespace SecretError

/-- Two errors are the same, or there is nothing to show to the store for reasons that differ in the
values of codes. -/
inductive SameButCodes : SecretError → SecretError → Prop
  | same (e : SecretError) : SameButCodes e e
  | credential {e e' : CredentialError} (h : e.SameButCodes e') :
      SameButCodes (.credential e) (.credential e')

/-- Errors of secrets that differ in the values of codes are redacted to the same text. -/
lemma SameButCodes.redact_eq {e e' : SecretError} (h : e.SameButCodes e') :
    redact e.message = redact e'.message := by
  cases h with
  | same e => rfl
  | credential h =>
    rename_i e e'
    have htext : ∀ e : CredentialError, (message (.credential e)).toList =
        "Could not obtain a secret store credential".toList ++ ':' :: ' ' :: e.message.toList :=
      fun e => Redaction.toList_append_phrase rfl e.message
    apply redact_of_veiled
    rw [htext, htext]
    exact h.veiled _

end SecretError

/-! ### Reading from a vault -/

namespace Vault

/-- The code that a vault names is redacted before anything is made of it. -/
lemma meaning_eq_of_sameButCodes (label : String) (name : SecretName) {answer answer' : Http.Response}
    (h : answer.SameButCodes answer') : meaning label name answer = meaning label name answer' := by
  have hcode : (errorCode? answer.body.lossyText).map redact =
      (errorCode? answer'.body.lossyText).map redact := by
    have hcode := h.body.code
    revert hcode
    generalize errorCode? answer.body.lossyText = code, errorCode? answer'.body.lossyText = code'
    intro hcode
    cases hcode with
    | none => rfl
    | some hvalue => exact congrArg some hvalue.redact_eq
  unfold meaning
  dsimp only
  rw [h.status, h.body.complete, h.body.secret]
  cases answer'.body.complete with
  | false => rfl
  | true =>
    simp only [if_true]
    rw [hcode]

variable (v : Vault σ)

lemma readWith_sameButCodes (token : AccessToken) (name : SecretName) :
    SameButCodes chained Eq (v.readWith token name) (v.readWith token name) := by
  unfold readWith
  split
  · exact .pure rfl
  · refine (SameButCodes.exchange _).bind fun outcome outcome' houtcome => ?_
    cases houtcome with
    | error fault => exact .pure rfl
    | ok hanswer =>
      dsimp only
      rw [hanswer.status, meaning_eq_of_sameButCodes v.label name hanswer]
      exact (SameButCodes.log _).seq (.pure rfl)

lemma audit_sameButCodes (name : SecretName) {e e' : SecretError} (h : e.SameButCodes e') :
    SameButCodes chained Eq (v.store.audit name (some e)) (v.store.audit name (some e')) := by
  unfold SecretStore.audit AuditRecord.withError
  refine SameButCodes.now.bind_eq fun now => ?_
  dsimp only
  rw [h.redact_eq]
  exact .log _

/-- With a token at hand, `readAll` does the same in sessions that differ in codes. The induction is on the
names that are left. -/
lemma readAll_sameButCodes (token : AccessToken) (names : List SecretName) (found : ResolvedSecrets) :
    SameButCodes chained Eq (v.store.readAll found names (some token))
      (v.store.readAll found names (some token)) := by
  induction names generalizing found with
  | nil => exact .pure rfl
  | cons name rest ih =>
    rw [readAll_some_cons]
    split
    · exact (SameButCodes.log _).seq (ih found)
    · refine (v.readWith_sameButCodes token name).bind_eq fun result => ?_
      cases result with
      | error e => exact (v.audit_sameButCodes name (.same e)).seq (.pure rfl)
      | ok value =>
        have haudit : SameButCodes chained Eq (v.store.audit name none) (v.store.audit name none) :=
          SameButCodes.now.bind_eq fun now => .log _
        exact haudit.seq (ih _)

/-- In sessions that differ in codes `resolve` reads the same secrets, or fails for reasons that differ in
the values of codes. -/
lemma resolve_sameButCodes (hv : v.credential.Discreet chained) (names : List SecretName) :
    SameButCodes chained (SameUpTo SecretError.SameButCodes) (v.resolve names) (v.resolve names) := by
  have hread : SameButCodes chained (fun result result' => SameUpTo SecretError.SameButCodes result.1 result'.1)
      (v.store.readAll {} names none) (v.store.readAll {} names none) := by
    cases names with
    | nil => exact .pure (.ok _)
    | cons name rest =>
      rw [readAll_none_cons]
      refine (SameButCodes.log _).seq ((hv [scope]).bind fun answer answer' hanswer => ?_)
      cases hanswer with
      | error h =>
        exact (v.audit_sameButCodes name (.credential h)).seq (.pure (.error (.credential h)))
      | ok token =>
        refine (v.readAll_sameButCodes token (name :: rest) {}).mono fun result result' hresult => ?_
        rw [hresult]
        exact .refl .same _
  rw [resolve_eq]
  refine hread.bind fun result result' hresult => ?_
  obtain ⟨result, cell⟩ := result
  obtain ⟨result', cell'⟩ := result'
  cases hresult with
  | error h => exact .pure (.error h)
  | ok found => exact (SameButCodes.log _).seq (.pure (.ok found))

end Vault

end Reindex
