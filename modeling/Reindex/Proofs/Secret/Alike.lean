import Reindex.Proofs.Credential.Alike
import Reindex.Proofs.Secret.Batch

/-!
# Reading from a vault without telling what was read

The value of a secret changes nothing that is said or asked while a batch is read, only whether it is
blank may matter later. The same holds of the token that the vault is shown, as long as it can be
shown at all.
-/

namespace Reindex

open Work (Related Alike)

variable {σ : Type}

/-- Two values of secrets are both blank or neither is. -/
def SecretValue.Alike (value value' : SecretValue) : Prop := value.isBlank = value'.isBlank

/-- Two tokens can both be shown or neither can. -/
def AccessToken.Alike (token token' : AccessToken) : Prop :=
  Http.isHeaderValue token.bearer = Http.isHeaderValue token'.bearer

/-- The time of an audit record is among the times that are left out of its event. -/
lemma AuditRecord.withoutTimes_event (a : AuditRecord) (now : Instant) :
    ({ a with time := now } : AuditRecord).event.withoutTimes = a.event.withoutTimes := by
  obtain ⟨operation, name, store, failure, time⟩ := a
  cases failure with
  | none => simp [event, LogEvent.withoutTimes, LogEvent.timeFields]
  | some error => simp [event, LogEvent.withoutTimes, LogEvent.timeFields]

/-! ### Secrets that were read -/

namespace ResolvedSecrets

/-- There are values under the same names, and those of one name are blank in both or in neither. -/
def Alike (found found' : ResolvedSecrets) : Prop :=
  List.Forall₂ (fun e e' => e.1 = e'.1 ∧ e.2.Alike e'.2) found.entries found'.entries

namespace Alike

variable {found found' : ResolvedSecrets}

lemma size_eq (h : found.Alike found') : found.size = found'.size := h.length_eq

lemma get? (h : found.Alike found') (name : String) :
    Option.Rel SecretValue.Alike (found.get? name) (found'.get? name) := by
  obtain ⟨entries⟩ := found
  obtain ⟨entries'⟩ := found'
  simp only [ResolvedSecrets.get?]
  unfold Alike at h
  dsimp only at h ⊢
  induction h with
  | nil => exact .none
  | cons he _ ih =>
    rw [List.find?_cons, List.find?_cons, he.1]
    split
    · exact .some he.2
    · exact ih

lemma contains_eq (h : found.Alike found') (name : String) :
    found.contains name = found'.contains name := by
  simp only [ResolvedSecrets.contains]
  have hget := h.get? name
  revert hget
  generalize found.get? name = value, found'.get? name = value'
  intro hget
  cases hget <;> rfl

lemma insert (h : found.Alike found') (name : SecretName) {value value' : SecretValue}
    (hvalue : value.Alike value') : (found.insert name value).Alike (found'.insert name value') := by
  refine List.rel_append ?_ (.cons ⟨rfl, hvalue⟩ .nil)
  refine List.rel_filter ?_ h
  intro e e' he
  dsimp only
  rw [he.1]

end Alike

end ResolvedSecrets

/-! ### Answers of a vault -/

namespace Vault

lemma value?_alike {b b' : Http.Body} (h : b.SameButSecrets b') :
    Option.Rel (fun t t' => Text.isBlank t = Text.isBlank t') (value? b) (value? b') := by
  refine rel_bind h.octets fun j j' hj => rel_bind (hj.fields? _) fun fields fields' hfields => ?_
  cases hfields with
  | nil => exact .none
  | cons hvalue hrest =>
    cases hvalue with
    | none => exact .none
    | some hvalue =>
      cases hrest with
      | nil => exact hvalue.text?
      | cons _ _ => exact .none

/-- Two bodies that are the same but for secrets name the same code of an error. -/
lemma errorCode?_eq {body body' : String}
    (h : Option.Rel Json.SameButSecrets (Json.readText? body) (Json.readText? body')) :
    errorCode? body = errorCode? body' := by
  refine rel_eq (rel_bind h fun j j' hj => rel_bind (hj.fields? _) fun fields fields' hfields => ?_)
  cases hfields with
  | nil => exact .none
  | cons herror hrest =>
    cases herror with
    | none => exact .none
    | some herror =>
      cases hrest with
      | nil =>
        cases herror with
        | same error => exact rel_refl (fun _ => rfl) _
        | texts _ _ => exact .none
      | cons _ _ => exact .none

/-- Two answers that are the same but for secrets mean values that are alike, or the same error. -/
lemma meaning_alike (label : String) (name : SecretName) {answer answer' : Http.Response}
    (h : answer.SameButSecrets answer') :
    Agree SecretValue.Alike (meaning label name answer) (meaning label name answer') := by
  cases h with
  | same answer => exact .refl (fun value => Eq.refl value.isBlank) _
  | @secret status b b' hstatus h =>
    have hvalue : Option.Rel (fun t t' => Text.isBlank t = Text.isBlank t')
        (if b'.complete then value? b else none) (if b'.complete then value? b' else none) := by
      split
      · exact value?_alike h
      · exact .none
    unfold meaning
    dsimp only
    rw [h.complete]
    split
    · revert hvalue
      generalize (if b'.complete then value? b else none) = value,
        (if b'.complete then value? b' else none) = value'
      intro hvalue
      cases hvalue with
      | none => exact .error _
      | some hblank => exact .ok hblank
    · split
      · exact .error _
      · split
        · rw [errorCode?_eq h.text]
          exact .error _
        · exact .error _

lemma value?_memberText {text : String} (h : Json.isPlain text = true) :
    value? (.ofText (Json.memberText "value" text)) = some text := by
  have hread : Json.read? (Http.Body.ofText (Json.memberText "value" text)).octets = _ :=
    Json.readText?_memberText (by decide : Json.isPlain "value" = true) h
  simp only [value?]
  rw [hread]
  rfl

lemma meaning_memberText {text : String} (h : Json.isPlain text = true) (label : String)
    (name : SecretName) :
    meaning label name ⟨200, .ofText (Json.memberText "value" text)⟩ = .ok (.ofText text) := by
  have hcomplete : (Http.Body.ofText (Json.memberText "value" text)).complete = true := rfl
  unfold meaning
  dsimp only
  rw [if_pos rfl, if_pos hcomplete, value?_memberText h]

/-! ### Reading with a token -/

variable {v v' : Vault σ}

lemma label_eq (hurl : v.url = v'.url) : v.label = v'.label := by
  simp only [label]
  rw [hurl]

/-- Two requests for a secret are alike if the tokens they show are. -/
lemma request_alike (url : Url) {token token' : AccessToken} (h : token.Alike token') :
    (request url token).Alike (request url token') :=
  .get _ (congrArg (· && _) h)

lemma readWith_alike (hurl : v.url = v'.url) {token token' : AccessToken} (h : token.Alike token')
    (name : SecretName) :
    Alike (Agree SecretValue.Alike) (v.readWith token name) (v'.readWith token' name) := by
  simp only [readWith]
  rw [hurl, label_eq hurl]
  split
  · exact .pure (.error _)
  · refine (Alike.exchange (request_alike _ h)).bind fun outcome outcome' houtcome => ?_
    cases houtcome with
    | error fault => exact .pure (.error _)
    | ok hanswer =>
      have hmeaning := meaning_alike v'.label name hanswer
      cases hanswer with
      | same answer => exact (Alike.log rfl).seq (.pure hmeaning)
      | secret hstatus h => exact (Alike.log rfl).seq (.pure hmeaning)

/-- The audits of two reads put the same on record but for the time, whatever the value is. -/
lemma audit_alike (hurl : v.url = v'.url) (name : SecretName) (error : Option SecretError) :
    Alike Eq (v.store.audit name error) (v'.store.audit name error) := by
  unfold SecretStore.audit store
  dsimp only
  rw [label_eq hurl]
  refine Alike.now.bind fun now now' _ => Alike.log ?_
  cases error with
  | none => exact (AuditRecord.mk "get" name.text v'.label none now').withoutTimes_event now
  | some e =>
    exact ((AuditRecord.mk "get" name.text v'.label none now').withError e.message).withoutTimes_event now

/-! ### Batches -/

/-- With tokens that are alike at hand, the reads of two batches go alike. The induction is on the names
that are left. -/
lemma readAll_alike (hurl : v.url = v'.url) {token token' : AccessToken} (h : token.Alike token')
    (names : List SecretName) {found found' : ResolvedSecrets} (hfound : found.Alike found') :
    Alike (fun result result' => Agree ResolvedSecrets.Alike result.1 result'.1)
      (v.store.readAll found names (some token)) (v'.store.readAll found' names (some token')) := by
  induction names generalizing found found' with
  | nil => exact .pure (.ok hfound)
  | cons name rest ih =>
    rw [readAll_some_cons, readAll_some_cons, hfound.contains_eq]
    split
    · exact (Alike.log rfl).seq (ih hfound)
    · refine (readWith_alike hurl h name).bind fun result result' hresult => ?_
      cases hresult with
      | error e => exact (audit_alike hurl name _).seq (.pure (.error e))
      | ok hvalue => exact (audit_alike hurl name none).seq (ih (hfound.insert name hvalue))

/-- If credentials give tokens that are alike, batches of the same names go alike. -/
lemma resolve_alike (hurl : v.url = v'.url) (hname : v.credential.name = v'.credential.name)
    {s s' : Session σ} (h : Related (Session.AlikeBehind s s') Session.Alike (Agree AccessToken.Alike)
      (v.credential.token [scope]) (v'.credential.token [scope]))
    {names : List SecretName} (hne : names ≠ []) :
    Related (Session.AlikeBehind s s') Session.Alike (Agree ResolvedSecrets.Alike) (v.resolve names)
      (v'.resolve names) := by
  obtain ⟨name, rest, rfl⟩ := List.exists_cons_of_ne_nil hne
  have hread : Related (Session.AlikeBehind s s') Session.Alike
      (fun result result' => Agree ResolvedSecrets.Alike result.1 result'.1)
      (v.store.readAll {} (name :: rest) none) (v'.store.readAll {} (name :: rest) none) := by
    rw [readAll_none_cons, readAll_none_cons, hname, label_eq hurl]
    refine (Alike.log_behind rfl).seq (h.bind fun answer answer' hanswer => ?_)
    cases hanswer with
    | error e => exact (audit_alike hurl name _).seq (.pure (.error _))
    | ok htoken => exact readAll_alike hurl htoken (name :: rest) .nil
  rw [resolve_eq, resolve_eq]
  refine hread.bind fun result result' hresult => ?_
  revert hresult
  generalize result.1 = found, result'.1 = found'
  intro hfound
  cases hfound with
  | error e => exact .pure (.error e)
  | ok hfound =>
    have hendpoint : v.store.endpoint = v'.store.endpoint := label_eq hurl
    dsimp only
    rw [hendpoint, hfound.size_eq]
    exact (Alike.log rfl).seq (.pure (.ok hfound))

end Vault

end Reindex
