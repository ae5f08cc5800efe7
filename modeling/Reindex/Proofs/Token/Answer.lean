import Reindex.Proofs.Http.Exchange
import Reindex.Proofs.Json.Records
import Reindex.Proofs.Text.Alphanumeric
import Reindex.Proofs.Text.Blank
import Reindex.Proofs.Text.Numeral
import Reindex.Token.Answer

/-!
# What answers of token endpoints mean

The meaning of an answer depends on whether its body arrived as a whole, on its status, and on two shapes
that the body may have. `Means` is the table of that, row by row; reading an answer follows the table.
-/

namespace Reindex.TokenAnswer

open Text

variable {status : Nat} {body text error : String} {description : Option String} {field : Option Json}
  {lifetime : Option Int} {now : Instant} {answer : Http.Response}

/-! ### Bodies with tokens -/

/-- The lifetime that a field tells: there may be none, and a text may spell one. -/
inductive IsLifetime : Option Json → Option Int → Prop
  | absent : IsLifetime none none
  | null : IsLifetime (some .null) none
  | number {spelling : List Char} {n : Int} (h : Json.int64? spelling = some n) :
      IsLifetime (some (.number spelling)) (some n)
  | text (t : String) : IsLifetime (some (.string (some t))) (int64? (trim t))

lemma lifetime?_eq_some_iff : lifetime? field = some lifetime ↔ IsLifetime field lifetime := by
  constructor
  · intro h
    unfold lifetime? at h
    split at h
    · cases h
      exact .absent
    · cases h
      exact .null
    · obtain ⟨n, hn, rfl⟩ := Option.map_eq_some_iff.mp h
      exact .number hn
    · cases h
      exact .text _
    · cases h
  · intro h
    cases h with
    | absent => rfl
    | null => rfl
    | number h => rw [lifetime?, h]; rfl
    | text t => rfl

/-- The body is a record with a token and perhaps its lifetime. -/
def IsTokenResponse (body text : String) (lifetime : Option Int) : Prop :=
  ∃ j field, Json.readText? body = some j ∧
    Json.HasFields "access_token" (.string (some text)) "expires_in" field j ∧ IsLifetime field lifetime

lemma grant?_eq_some_iff : grant? body = some (text, lifetime) ↔ IsTokenResponse body text lifetime := by
  have hread : grant? body = some (text, lifetime) ↔ ∃ j, Json.readText? body = some j ∧
      ∃ field, Json.HasFields "access_token" (.string (some text)) "expires_in" field j ∧
        lifetime? field = some lifetime :=
    Option.bind_eq_some_iff.trans (exists_congr fun j => and_congr_right fun _ =>
      Json.bind_fields?_eq_some_iff)
  rw [hread]
  simp only [lifetime?_eq_some_iff, IsTokenResponse, exists_and_left]

/-! ### Bodies with errors -/

/-- The description that a field gives: there may be none. -/
inductive IsDescription : Option Json → Option String → Prop
  | absent : IsDescription none none
  | null : IsDescription (some .null) none
  | text (t : String) : IsDescription (some (.string (some t))) (some t)

lemma optionalText?_eq_some_iff :
    Json.optionalText? field = some description ↔ IsDescription field description := by
  constructor
  · intro h
    unfold Json.optionalText? at h
    split at h
    · cases h
      exact .absent
    · cases h
      exact .null
    · obtain ⟨t, ht, rfl⟩ := Option.map_eq_some_iff.mp h
      rw [Json.text?_eq_some_iff.mp ht]
      exact .text t
  · intro h
    cases h with
    | absent => rfl
    | null => rfl
    | text t => rfl

/-- The body is a record with an error and perhaps its description. -/
def IsErrorResponse (body error : String) (description : Option String) : Prop :=
  ∃ j field, Json.readText? body = some j ∧
    Json.HasFields "error" (.string (some error)) "error_description" field j ∧
      IsDescription field description

lemma complaint?_eq_some_iff :
    complaint? body = some (error, description) ↔ IsErrorResponse body error description := by
  have hread : complaint? body = some (error, description) ↔ ∃ j, Json.readText? body = some j ∧
      ∃ field, Json.HasFields "error" (.string (some error)) "error_description" field j ∧
        Json.optionalText? field = some description :=
    Option.bind_eq_some_iff.trans (exists_congr fun j => and_congr_right fun _ =>
      Json.bind_fields?_eq_some_iff)
  rw [hread]
  simp only [optionalText?_eq_some_iff, IsErrorResponse, exists_and_left]

/-- The code that a description begins with: behind it there is nothing, or blanks, or a colon. -/
inductive IsServiceCode : String → String → Prop
  | intro {gap digits space rest : List Char} (hgap : ∀ c ∈ gap, isBlankChar c = true) (hne : digits ≠ [])
      (hdigits : ∀ c ∈ digits, c.isDigit = true) (hspace : ∀ c ∈ space, isBlankChar c = true)
      (hrest : ∀ c ∈ rest.head?, c = ':') :
      IsServiceCode (String.ofList (gap ++ ("AADSTS".toList ++ digits ++ space ++ rest)))
        (String.ofList ("AADSTS".toList ++ digits))

lemma not_isBlankChar_of_isDigit {c : Char} (h : c.isDigit = true) : isBlankChar c = false :=
  isBlankChar_of_isAlphanum (by rw [Char.isAlphanum, h, Bool.or_true])

/-- Letters and digits in front of blanks are what is left without them. -/
lemma trimEndList_code {digits space : List Char} (hne : digits ≠ [])
    (hdigits : ∀ c ∈ digits, c.isDigit = true) (hspace : ∀ c ∈ space, isBlankChar c = true) :
    trimEndList (codePrefix ++ digits ++ space) = codePrefix ++ digits := by
  obtain ⟨front, c, rfl⟩ := (List.eq_nil_or_concat' digits).resolve_left hne
  rw [trimEndList_append (List.all_eq_true.mpr hspace), ← List.append_assoc,
    trimEndList_concat (not_isBlankChar_of_isDigit (hdigits c (by simp)))]

lemma serviceCode?_eq_some_iff {description code : String} :
    serviceCode? description = some code ↔ IsServiceCode description code := by
  constructor
  · intro h
    unfold serviceCode? at h
    dsimp only at h
    split at h
    · rename_i hhead
      cases h
      obtain ⟨space, hspace, hblank⟩ := exists_eq_trimEndList_append
        ((trimStartList description.toList).takeWhile fun c => decide (c ≠ ':'))
      generalize trimEndList ((trimStartList description.toList).takeWhile fun c => decide (c ≠ ':')) =
        head at *
      rw [Bool.and_eq_true, Bool.and_eq_true, List.isPrefixOf_iff_prefix] at hhead
      obtain ⟨⟨⟨digits, rfl⟩, hne⟩, hdigits⟩ := hhead
      rw [List.drop_left] at hne hdigits
      have htext : description = String.ofList (description.toList.takeWhile isBlankChar ++
          (codePrefix ++ digits ++ space ++
            (trimStartList description.toList).dropWhile fun c => decide (c ≠ ':'))) := by
        rw [← hspace, List.takeWhile_append_dropWhile, trimStartList, List.takeWhile_append_dropWhile,
          String.ofList_toList]
      rw [htext]
      refine .intro (fun c => List.mem_takeWhile_imp) ?_ ?_ hblank ?_
      · simpa using hne
      · exact fun c hc => isSome_digit?_iff.mp (List.all_eq_true.mp hdigits c hc)
      · intro c hc
        have hstop := List.head?_dropWhile_not (fun c => decide (c ≠ ':')) (trimStartList description.toList)
        rw [Option.mem_def.mp hc] at hstop
        simpa using hstop
    · cases h
  · rintro ⟨hgap, hne, hdigits, hspace, hrest⟩
    rename_i gap digits space rest
    have hstart : trimStartList (gap ++ (codePrefix ++ digits ++ space ++ rest)) =
        codePrefix ++ digits ++ space ++ rest :=
      dropWhile_append_break hgap (by rintro c ⟨⟩; rfl)
    have hfront : ∀ c ∈ codePrefix ++ digits ++ space, decide (c ≠ ':') = true := by
      intro c hc
      refine decide_eq_true ?_
      rintro rfl
      rcases List.mem_append.mp hc with hc | hc
      · rcases List.mem_append.mp hc with hc | hc
        · exact absurd hc (by decide)
        · exact absurd (hdigits _ hc) (by decide)
      · exact absurd (hspace _ hc) (by decide)
    have hhead : (codePrefix ++ digits ++ space ++ rest).takeWhile (fun c => decide (c ≠ ':')) =
        codePrefix ++ digits ++ space :=
      takeWhile_append_break hfront fun c hc => by rw [hrest c hc]; rfl
    have hall : digits.all (fun c => (digit? c).isSome) = true :=
      List.all_eq_true.mpr fun c hc => isSome_digit?_iff.mpr (hdigits c hc)
    have hsome : digits.isEmpty = false := by simpa using hne
    have hletters : "AADSTS".toList = codePrefix := rfl
    rw [serviceCode?, String.toList_ofList, hletters, hstart, hhead, trimEndList_code hne hdigits hspace,
      List.drop_left, hall, hsome, List.isPrefixOf_iff_prefix.mpr (List.prefix_append _ _)]
    rfl

/-- The fault that a bad answer names, and its cause in words. -/
inductive IsCause (status : Nat) (body : String) : TokenFault → String → Prop
  | code {error description code : String} (h : IsErrorResponse body error (some description))
      (hcode : IsServiceCode description code) :
      IsCause status body (.refused error (some code)) (error ++ ": " ++ code)
  | error {error : String} {description : Option String} (h : IsErrorResponse body error description)
      (hnone : ∀ d ∈ description, ∀ code, ¬ IsServiceCode d code) :
      IsCause status body (.refused error none) error
  | status (h : ∀ error description, ¬ IsErrorResponse body error description) :
      IsCause status body (.status status) ("token endpoint returned status " ++ toString status)

lemma isCause_faultOf (status : Nat) (body : String) :
    IsCause status body (faultOf status body) (faultOf status body).message := by
  unfold faultOf
  cases hcomplaint : complaint? body with
  | none =>
    refine .status fun error description h => ?_
    rw [complaint?_eq_some_iff.mpr h] at hcomplaint
    cases hcomplaint
  | some complaint =>
    obtain ⟨error, description⟩ := complaint
    have hresponse := complaint?_eq_some_iff.mp hcomplaint
    dsimp only
    cases hcode : description.bind serviceCode? with
    | none =>
      refine .error hresponse fun d hd code h => ?_
      rw [Option.mem_def.mp hd, Option.bind_some, serviceCode?_eq_some_iff.mpr h] at hcode
      cases hcode
    | some code =>
      obtain ⟨d, rfl, hd⟩ := Option.bind_eq_some_iff.mp hcode
      exact .code hresponse (serviceCode?_eq_some_iff.mp hd)

/-- A bad answer has one cause, in these words. -/
lemma IsCause.eq {fault : TokenFault} {cause : String} (h : IsCause status body fault cause) :
    faultOf status body = fault ∧ fault.message = cause := by
  cases h with
  | code h hcode =>
    rw [faultOf, complaint?_eq_some_iff.mpr h]
    dsimp only
    rw [Option.bind_some, serviceCode?_eq_some_iff.mpr hcode]
    exact ⟨rfl, rfl⟩
  | @error error description h hnone =>
    have hcode : description.bind serviceCode? = none := by
      cases description with
      | none => rfl
      | some d =>
        cases hcode : serviceCode? d with
        | none => exact hcode
        | some code => exact absurd (serviceCode?_eq_some_iff.mp hcode) (hnone d rfl code)
    rw [faultOf, complaint?_eq_some_iff.mpr h]
    dsimp only
    rw [hcode]
    exact ⟨rfl, rfl⟩
  | status h =>
    cases hcomplaint : complaint? body with
    | none =>
      rw [faultOf, hcomplaint]
      exact ⟨rfl, rfl⟩
    | some complaint => exact absurd (complaint?_eq_some_iff.mp hcomplaint) (h _ _)

/-! ### The table -/

/-- The meaning of an answer of a token endpoint, by its body and its status. -/
inductive Means (now : Instant) (answer : Http.Response) : Except TokenFailure AccessToken → Prop
  | broken (hbody : answer.body.complete = false) :
      Means now answer (.error (.transport (.transport .brokenBody)))
  | token {text : String} {lifetime : Option Int} (hbody : answer.body.complete = true)
      (hstatus : 200 ≤ answer.status ∧ answer.status ≤ 299)
      (hresponse : IsTokenResponse answer.body.lossyText text lifetime) (htext : isBlank text = false) :
      Means now answer (.ok ⟨⟨text⟩, lifetime.bind (AccessToken.expiry? now)⟩)
  | blank {text : String} {lifetime : Option Int} (hbody : answer.body.complete = true)
      (hstatus : 200 ≤ answer.status ∧ answer.status ≤ 299)
      (hresponse : IsTokenResponse answer.body.lossyText text lifetime) (htext : isBlank text = true) :
      Means now answer (.error (.rejected .emptyToken))
  | malformed (hbody : answer.body.complete = true)
      (hstatus : 200 ≤ answer.status ∧ answer.status ≤ 299)
      (hnone : ∀ text lifetime, ¬ IsTokenResponse answer.body.lossyText text lifetime) :
      Means now answer (.error (.rejected .malformed))
  | outage {fault : TokenFault} {cause : String} (hbody : answer.body.complete = true)
      (hstatus : 500 ≤ answer.status ∧ answer.status ≤ 599)
      (hcause : IsCause answer.status answer.body.lossyText fault cause) :
      Means now answer (.error (.transport fault))
  | refusal {fault : TokenFault} {cause : String} (hbody : answer.body.complete = true)
      (hsuccess : ¬ (200 ≤ answer.status ∧ answer.status ≤ 299))
      (houtage : ¬ (500 ≤ answer.status ∧ answer.status ≤ 599))
      (hcause : IsCause answer.status answer.body.lossyText fault cause) :
      Means now answer (.error (.rejected fault))

/-- An answer means what it is read as. -/
lemma means_read (now : Instant) (answer : Http.Response) : Means now answer (read now answer) := by
  unfold read
  cases hbody : answer.body.complete with
  | false => exact .broken hbody
  | true =>
    rw [Bool.not_true, if_neg Bool.false_ne_true]
    dsimp only
    split
    · rename_i hsuccess
      have hstatus := Http.isSuccess_iff.mp hsuccess
      cases hgrant : grant? answer.body.lossyText with
      | none =>
        refine .malformed hbody hstatus fun text lifetime h => ?_
        rw [grant?_eq_some_iff.mpr h] at hgrant
        cases hgrant
      | some grant =>
        obtain ⟨text, lifetime⟩ := grant
        have hresponse := grant?_eq_some_iff.mp hgrant
        dsimp only
        split
        · rename_i htext
          exact .blank hbody hstatus hresponse htext
        · rename_i htext
          exact .token hbody hstatus hresponse (Bool.eq_false_iff.mpr htext)
    · rename_i hsuccess
      rw [Http.isSuccess_iff] at hsuccess
      have hcause := isCause_faultOf answer.status answer.body.lossyText
      split
      · rename_i houtage
        exact .outage hbody (Http.isServerError_iff.mp houtage) hcause
      · rename_i houtage
        exact .refusal hbody hsuccess (fun h => houtage (Http.isServerError_iff.mpr h)) hcause

/-- An answer means nothing but what it is read as. -/
lemma Means.eq {result : Except TokenFailure AccessToken} (h : Means now answer result) :
    read now answer = result := by
  unfold read
  cases h with
  | broken hbody =>
    rw [hbody]
    rfl
  | token hbody hstatus hresponse htext =>
    rw [hbody, Bool.not_true, if_neg Bool.false_ne_true, if_pos (Http.isSuccess_iff.mpr hstatus),
      grant?_eq_some_iff.mpr hresponse]
    dsimp only
    rw [htext]
    rfl
  | blank hbody hstatus hresponse htext =>
    rw [hbody, Bool.not_true, if_neg Bool.false_ne_true, if_pos (Http.isSuccess_iff.mpr hstatus),
      grant?_eq_some_iff.mpr hresponse]
    dsimp only
    rw [htext]
    rfl
  | malformed hbody hstatus hnone =>
    rw [hbody, Bool.not_true, if_neg Bool.false_ne_true, if_pos (Http.isSuccess_iff.mpr hstatus)]
    cases hgrant : grant? answer.body.lossyText with
    | none => rfl
    | some grant => exact absurd (grant?_eq_some_iff.mp hgrant) (hnone _ _)
  | outage hbody hstatus hcause =>
    have hsuccess : ¬ Http.isSuccess answer.status = true := by
      rw [Http.isSuccess_iff]
      omega
    rw [hbody, Bool.not_true, if_neg Bool.false_ne_true, if_neg hsuccess, hcause.eq.1]
    dsimp only
    rw [if_pos (Http.isServerError_iff.mpr hstatus)]
  | refusal hbody hsuccess houtage hcause =>
    rw [← Http.isSuccess_iff] at hsuccess
    rw [← Http.isServerError_iff] at houtage
    rw [hbody, Bool.not_true, if_neg Bool.false_ne_true, if_neg hsuccess, hcause.eq.1]
    dsimp only
    rw [if_neg houtage]

/-- Reading an answer follows the table. -/
lemma read_eq_iff {result : Except TokenFailure AccessToken} :
    read now answer = result ↔ Means now answer result :=
  ⟨fun h => h ▸ means_read now answer, Means.eq⟩

end Reindex.TokenAnswer
