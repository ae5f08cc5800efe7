import Reindex.Proofs.Json.Records
import Reindex.Proofs.Secret.Reading

/-!
# What answers of vaults mean

An answer of a vault gives the value of a secret, or tells that there is none, or that the vault is out of
order. What is kept of a bad answer is its status and the code of its error, from which all that must not
be seen is taken out. `Gives` is the table of that, row by row; reading from a vault follows the table.

A vault that hangs up in the middle of a good answer counts as one that gives no secret. In all other cases
the network and the vault are told apart as they should be.
-/

namespace Reindex.Vault

open Http (Request)

variable {σ : Type} {v : Vault σ} {token : AccessToken} {name : SecretName} {s : Session σ}
  {label value code : String} {body : Http.Body} {answer : Http.Response}
  {result : Except SecretError SecretValue}

/-! ### Bodies -/

/-- The octets are a record with the value of a secret. -/
def IsBundle (octets : List UInt8) (value : String) : Prop :=
  ∃ j, Json.read? octets = some j ∧ Json.HasField "value" (.string (some value)) j

/-- The text is a record with the record of an error in it, and that one has a code. -/
def IsErrorBody (text code : String) : Prop :=
  ∃ j error, Json.readText? text = some j ∧ Json.HasField "error" error j ∧
    Json.HasField "code" (.string (some code)) error

lemma value?_eq_some_iff : value? body = some value ↔ IsBundle body.octets value := by
  have hread : value? body = some value ↔ ∃ j, Json.read? body.octets = some j ∧
      ∃ field, Json.HasField "value" field j ∧ field.text? = some value :=
    Option.bind_eq_some_iff.trans (exists_congr fun j => and_congr_right fun _ =>
      Json.bind_field?_eq_some_iff)
  simp only [hread, Json.text?_eq_some_iff, exists_eq_right, IsBundle]

lemma errorCode?_eq_some_iff {text : String} : errorCode? text = some code ↔ IsErrorBody text code := by
  have hread : errorCode? text = some code ↔ ∃ j, Json.readText? text = some j ∧
      ∃ error, Json.HasField "error" error j ∧
        ∃ field, Json.HasField "code" field error ∧ field.text? = some code :=
    Option.bind_eq_some_iff.trans (exists_congr fun j => and_congr_right fun _ =>
      Json.bind_field?_eq_some_iff.trans (exists_congr fun error => and_congr_right fun _ =>
        Json.bind_field?_eq_some_iff))
  simp only [hread, Json.text?_eq_some_iff, exists_eq_right, IsErrorBody, exists_and_left]

/-- An empty text names no code of an error. -/
lemma errorCode?_empty : errorCode? "" = none := by decide +kernel

/-! ### The table -/

/-- The meaning of an answer of a vault, by its status and its body. -/
inductive Means (label : String) (name : SecretName) (answer : Http.Response) :
    Except SecretError SecretValue → Prop
  | value {value : String} (hstatus : answer.status = 200) (hbody : answer.body.complete = true)
      (h : IsBundle answer.body.octets value) : Means label name answer (.ok (.ofText value))
  | malformed (hstatus : answer.status = 200)
      (hnone : answer.body.complete = true → ∀ value, ¬ IsBundle answer.body.octets value) :
      Means label name answer (.error (.unavailable name.text .malformed))
  | outage (hstatus : 500 ≤ answer.status ∧ answer.status ≤ 599) :
      Means label name answer (.error (.unreachable label (.status answer.status)))
  | code {code : String} (hstatus : answer.status ≠ 200)
      (houtage : ¬ (500 ≤ answer.status ∧ answer.status ≤ 599)) (hbody : answer.body.complete = true)
      (h : IsErrorBody answer.body.lossyText code) :
      Means label name answer (.error (.unavailable name.text (.status answer.status (some (redact code)))))
  | status (hstatus : answer.status ≠ 200) (houtage : ¬ (500 ≤ answer.status ∧ answer.status ≤ 599))
      (hnone : answer.body.complete = true → ∀ code, ¬ IsErrorBody answer.body.lossyText code) :
      Means label name answer (.error (.unavailable name.text (.status answer.status none)))

/-- An answer means what the table says. -/
lemma means_meaning (label : String) (name : SecretName) (answer : Http.Response) :
    Means label name answer (meaning label name answer) := by
  unfold meaning
  dsimp only
  split
  · rename_i hstatus
    cases hvalue : if answer.body.complete = true then value? answer.body else none with
    | some value =>
      rw [Option.ite_none_right_eq_some] at hvalue
      exact .value hstatus hvalue.1 (value?_eq_some_iff.mp hvalue.2)
    | none =>
      refine .malformed hstatus fun hbody value h => ?_
      rw [if_pos hbody, value?_eq_some_iff.mpr h] at hvalue
      cases hvalue
  · rename_i hstatus
    split
    · rename_i houtage
      exact .outage (Http.isServerError_iff.mp houtage)
    · rename_i houtage
      rw [Http.isServerError_iff] at houtage
      cases hbody : answer.body.complete with
      | false =>
        rw [if_neg Bool.false_ne_true, errorCode?_empty]
        exact .status hstatus houtage fun h => by rw [hbody] at h; cases h
      | true =>
        rw [if_pos rfl]
        cases hcode : errorCode? answer.body.lossyText with
        | some code => exact .code hstatus houtage hbody (errorCode?_eq_some_iff.mp hcode)
        | none =>
          refine .status hstatus houtage fun _ code h => ?_
          rw [errorCode?_eq_some_iff.mpr h] at hcode
          cases hcode

/-- An answer means nothing but what `meaning` makes of it. -/
lemma Means.eq (h : Means label name answer result) : meaning label name answer = result := by
  unfold meaning
  dsimp only
  cases h with
  | value hstatus hbody h =>
    rw [if_pos hstatus, if_pos hbody, value?_eq_some_iff.mpr h]
  | malformed hstatus hnone =>
    rw [if_pos hstatus]
    cases hvalue : if answer.body.complete = true then value? answer.body else none with
    | none => rfl
    | some value =>
      rw [Option.ite_none_right_eq_some] at hvalue
      exact absurd (value?_eq_some_iff.mp hvalue.2) (hnone hvalue.1 value)
  | outage hstatus =>
    have hgood : answer.status ≠ 200 := by omega
    rw [if_neg hgood, if_pos (Http.isServerError_iff.mpr hstatus)]
  | code hstatus houtage hbody h =>
    rw [← Http.isServerError_iff] at houtage
    rw [if_neg hstatus, if_neg houtage, if_pos hbody, errorCode?_eq_some_iff.mpr h]
    rfl
  | status hstatus houtage hnone =>
    rw [← Http.isServerError_iff] at houtage
    rw [if_neg hstatus, if_neg houtage]
    cases hbody : answer.body.complete with
    | false =>
      rw [if_neg Bool.false_ne_true, errorCode?_empty]
      rfl
    | true =>
      rw [if_pos rfl]
      cases hcode : errorCode? answer.body.lossyText with
      | none => rfl
      | some code => exact absurd (errorCode?_eq_some_iff.mp hcode) (hnone hbody code)

/-- There is an answer to the request for a secret. -/
def Answered (v : Vault σ) (token : AccessToken) (name : SecretName) (s : Session σ)
    (answer : Http.Response) : Prop :=
  ∃ r, question? v.url token name = some r ∧ (s.network.exchange r).outcome = .ok answer

/-- The result of reading a secret: it cannot be asked for, or there is no answer, or there is one. -/
inductive Gives (v : Vault σ) (token : AccessToken) (name : SecretName) (s : Session σ) :
    Except SecretError SecretValue → Prop
  | unasked (h : question? v.url token name = none) :
      Gives v token name s (.error (.unreachable v.url.text .noPath))
  | unanswered {r : Request} {fault : Http.TransportFault} (h : question? v.url token name = some r)
      (houtcome : (s.network.exchange r).outcome = .error fault) :
      Gives v token name s (.error (.unreachable v.label (.transport fault)))
  | answered {answer : Http.Response} {result : Except SecretError SecretValue}
      (h : Answered v token name s answer) (hmeans : Means v.label name answer result) :
      Gives v token name s result

lemma reading_eq_iff : (v.reading token s.network name).result = result ↔ Gives v token name s result := by
  constructor
  · rintro rfl
    unfold reading
    cases hq : question? v.url token name with
    | none => exact .unasked hq
    | some r =>
      dsimp only
      cases houtcome : (s.network.exchange r).outcome with
      | error fault => exact .unanswered hq houtcome
      | ok answer => exact .answered ⟨r, hq, houtcome⟩ (means_meaning v.label name answer)
  · intro h
    unfold reading
    cases h with
    | unasked h => rw [h]
    | unanswered h houtcome => simp only [h, houtcome]
    | answered h hmeans =>
      obtain ⟨r, hq, houtcome⟩ := h
      simp only [hq, houtcome, hmeans.eq]

/-- The work of `readWith` gives a secret exactly as the table says. -/
lemma readWith_eq_iff : (v.readWith token name s).1 = result ↔ Gives v token name s result := by
  obtain ⟨s', happly, -⟩ := v.readWith_apply token name s
  rw [happly, reading_eq_iff]

/-! ### The vault and the network -/

/-- The reason that is kept of an answer where there is no secret. -/
inductive IsReason (answer : Http.Response) : SecretRefusal → Prop
  | malformed : IsReason answer .malformed
  | status : IsReason answer (.status answer.status none)
  | code {code : String} (h : IsErrorBody answer.body.lossyText code) :
      IsReason answer (.status answer.status (some (redact code)))

/-- The result of reading a secret tells what the vault gives from what the vault or the network fail to do. -/
structure TellsApart (v : Vault σ) (token : AccessToken) (name : SecretName) (s : Session σ)
    (result : Except SecretError SecretValue) : Prop where
  /-- The value of a secret is the one in a bundle. -/
  value : ∀ value, result = .ok value ↔ ∃ answer, Answered v token name s answer ∧
    answer.status = 200 ∧ answer.body.complete = true ∧ IsBundle answer.body.octets value.reveal
  /-- The vault is out of reach if it does not answer, not to the end, or not for itself. -/
  unreachable : (∃ endpoint fault, result = .error (.unreachable endpoint fault)) ↔
    (∀ answer, ¬ Answered v token name s answer) ∨ ∃ answer, Answered v token name s answer ∧
      (500 ≤ answer.status ∧ answer.status ≤ 599 ∨ answer.status = 200 ∧ answer.body.complete = false)
  /-- In all other cases there is no secret of that name. -/
  unavailable : ∀ e, result = .error e → (∀ endpoint fault, e ≠ .unreachable endpoint fault) →
    ∃ answer reason, Answered v token name s answer ∧ e = .unavailable name.text reason ∧
      IsReason answer reason

/-- There is at most one answer to the request for a secret. -/
lemma Answered.unique {answer' : Http.Response} (h : Answered v token name s answer)
    (h' : Answered v token name s answer') : answer' = answer := by
  obtain ⟨r, hq, houtcome⟩ := h
  obtain ⟨r', hq', houtcome'⟩ := h'
  rw [hq] at hq'
  cases hq'
  rw [houtcome] at houtcome'
  cases houtcome'
  rfl

/-- Where nobody answers, the vault is out of reach. -/
lemma tellsApart_of_not_answered {endpoint : String} {fault : StoreFault}
    (h : ∀ answer, ¬ Answered v token name s answer) :
    TellsApart v token name s (.error (.unreachable endpoint fault)) where
  value := fun value => ⟨nofun, fun ⟨answer, ha, _⟩ => absurd ha (h answer)⟩
  unreachable := ⟨fun _ => .inl h, fun _ => ⟨_, _, rfl⟩⟩
  unavailable := by
    rintro e ⟨⟩ hne
    exact absurd rfl (hne _ _)

lemma exists_answered_iff {P : Http.Response → Prop} (h : Answered v token name s answer) :
    (∃ answer, Answered v token name s answer ∧ P answer) ↔ P answer := by
  constructor
  · rintro ⟨answer', h', hP⟩
    rwa [h.unique h'] at hP
  · exact fun hP => ⟨answer, h, hP⟩

lemma Means.eq_ok_iff {value : SecretValue} (h : Means label name answer result) :
    result = .ok value ↔
      answer.status = 200 ∧ answer.body.complete = true ∧ IsBundle answer.body.octets value.reveal := by
  constructor
  · rintro rfl
    cases h with
    | value hstatus hbody h => exact ⟨hstatus, hbody, h⟩
  · rintro ⟨hstatus, hbody, hbundle⟩
    have hvalue : Means label name answer (.ok value) := .value hstatus hbody hbundle
    rw [← h.eq, hvalue.eq]

lemma Means.eq_unreachable_iff (h : Means label name answer result) :
    (∃ endpoint fault, result = .error (.unreachable endpoint fault)) ↔
      500 ≤ answer.status ∧ answer.status ≤ 599 := by
  constructor
  · rintro ⟨endpoint, fault, rfl⟩
    cases h with
    | outage hstatus => exact hstatus
  · intro hstatus
    have houtage : Means label name answer _ := .outage hstatus
    exact ⟨_, _, by rw [← h.eq, houtage.eq]⟩

lemma Means.exists_reason {e : SecretError} (h : Means label name answer (.error e))
    (he : ∀ endpoint fault, e ≠ .unreachable endpoint fault) :
    ∃ reason, e = .unavailable name.text reason ∧ IsReason answer reason := by
  cases h with
  | malformed => exact ⟨_, rfl, .malformed⟩
  | outage => exact absurd rfl (he _ _)
  | code _ _ _ h => exact ⟨_, rfl, .code h⟩
  | status => exact ⟨_, rfl, .status⟩

/-- An answer is taken for what it is unless it is cut short behind a good status. -/
lemma tellsApart_iff_of_means (ha : Answered v token name s answer)
    (h : Means v.label name answer result) :
    TellsApart v token name s result ↔ (answer.status = 200 → answer.body.complete = true) := by
  constructor
  · intro hapart hstatus
    -- If it were cut short, the vault would have to be out of reach, and for an answer that is an outage.
    by_contra hbody
    rw [Bool.not_eq_true] at hbody
    have hunreachable := hapart.unreachable.mpr (.inr ⟨answer, ha, .inr ⟨hstatus, hbody⟩⟩)
    have houtage := h.eq_unreachable_iff.mp hunreachable
    omega
  · intro hwhole
    refine ⟨fun value => ?_, ?_, ?_⟩
    · rw [exists_answered_iff ha, h.eq_ok_iff]
    · have hcut : ¬ (answer.status = 200 ∧ answer.body.complete = false) := by
        rintro ⟨hstatus, hbody⟩
        rw [hwhole hstatus] at hbody
        cases hbody
      rw [exists_answered_iff ha, h.eq_unreachable_iff, or_iff_right (fun hnone => hnone answer ha),
        or_iff_left hcut]
    · rintro e rfl he
      obtain ⟨reason, heq, hreason⟩ := h.exists_reason he
      exact ⟨answer, reason, ha, heq, hreason⟩

/-- A vault that has got its token gives what its table says. That tells the vault and the network apart
unless the vault hangs up in the middle of a good answer. -/
theorem read_tellsApart {cell cell' : Option AccessToken} {s s' : Session σ}
    (htoken : v.storeToken cell s = ((.ok token, cell'), s')) (name : SecretName) :
    (∀ result, (v.read name cell s).1.1 = result ↔ Gives v token name s' result) ∧
    (TellsApart v token name s' (v.read name cell s).1.1 ↔
      ∀ answer, Answered v token name s' answer → answer.status = 200 → answer.body.complete = true) := by
  have hread : (v.read name cell s).1.1 = (v.readWith token name s').1 := by
    simp only [read, Work.cell_bind_apply, htoken, Work.lift_apply]
  rw [hread]
  refine ⟨fun result => readWith_eq_iff, ?_⟩
  have hgives : Gives v token name s' (v.readWith token name s').1 := readWith_eq_iff.mp rfl
  generalize (v.readWith token name s').1 = result at hgives
  cases hgives with
  | unasked h =>
    have hnone : ∀ answer, ¬ Answered v token name s' answer := by
      rintro answer ⟨r, hq, -⟩
      rw [h] at hq
      cases hq
    exact iff_of_true (tellsApart_of_not_answered hnone) fun answer ha => absurd ha (hnone answer)
  | unanswered h houtcome =>
    have hnone : ∀ answer, ¬ Answered v token name s' answer := by
      rintro answer ⟨r, hq, hanswer⟩
      rw [h] at hq
      cases hq
      rw [houtcome] at hanswer
      cases hanswer
    exact iff_of_true (tellsApart_of_not_answered hnone) fun answer ha => absurd ha (hnone answer)
  | answered h hmeans =>
    rw [tellsApart_iff_of_means h hmeans]
    constructor
    · intro hwhole answer' h'
      rw [h.unique h']
      exact hwhole
    · exact fun hwhole => hwhole _ h

def exampleVault : Vault Unit :=
  ⟨⟨"http", some ⟨"", none, .domain "v", none⟩, .segments [""], none, none⟩, .fixed ⟨⟨"k"⟩, none⟩⟩

def exampleToken : AccessToken := ⟨⟨"k"⟩, none⟩

def exampleName : SecretName := ⟨"tenant", by decide⟩

/-- A network that gives one answer. -/
def answering (answer : Http.Response) : Session Unit where
  network := .scripted [.response answer]
  files := ⟨[]⟩
  now := ⟨0⟩
  parts := ()

/-- A refusal; what it says about its cause is not to be seen. -/
def forbidden : Http.Response :=
  ⟨403, .ofText "\x7b\"error\":\x7b\"code\":\"Forbidden\",\"message\":\"password=hunter2\"\x7d\x7d"⟩

/-- A good answer that breaks off. -/
def brokenBundle : Http.Response := ⟨200, ⟨Text.Utf8.encode "\x7b\"val", false⟩⟩

lemma answered_forbidden : Answered exampleVault exampleToken exampleName (answering forbidden) forbidden :=
  ⟨_, rfl, by decide +kernel⟩

lemma answered_brokenBundle :
    Answered exampleVault exampleToken exampleName (answering brokenBundle) brokenBundle :=
  ⟨_, rfl, by decide +kernel⟩

theorem read_tellsApart_forbidden :
    Gives exampleVault exampleToken exampleName (answering forbidden)
        (.error (.unavailable "tenant" (.status 403 (some "Forbidden")))) ∧
      TellsApart exampleVault exampleToken exampleName (answering forbidden)
        (.error (.unavailable "tenant" (.status 403 (some "Forbidden")))) := by
  have hread : (exampleVault.read exampleName (some exampleToken) (answering forbidden)).1.1 =
      .error (.unavailable "tenant" (.status 403 (some "Forbidden"))) := by decide +kernel
  have htoken : exampleVault.storeToken (some exampleToken) (answering forbidden) =
      ((.ok exampleToken, some exampleToken), answering forbidden) := rfl
  obtain ⟨hgives, hapart⟩ := read_tellsApart htoken exampleName
  rw [hread] at hapart
  refine ⟨(hgives _).mp hread, hapart.mpr fun answer h _ => ?_⟩
  rw [answered_forbidden.unique h]
  rfl

/-- A vault that hangs up in the middle of a good answer is not taken to be out of reach, as it should be,
but to have no such secret. -/
theorem brokenBundle_unavailable :
    (exampleVault.readWith exampleToken exampleName (answering brokenBundle)).1 =
        .error (.unavailable "tenant" .malformed) ∧
      ¬ TellsApart exampleVault exampleToken exampleName (answering brokenBundle)
        (exampleVault.readWith exampleToken exampleName (answering brokenBundle)).1 := by
  have hread : (exampleVault.readWith exampleToken exampleName (answering brokenBundle)).1 =
      .error (.unavailable "tenant" .malformed) := by decide +kernel
  refine ⟨hread, fun hapart => ?_⟩
  obtain ⟨endpoint, fault, h⟩ :=
    hapart.unreachable.mpr (.inr ⟨_, answered_brokenBundle, .inr ⟨rfl, rfl⟩⟩)
  rw [hread] at h
  cases h

end Reindex.Vault
