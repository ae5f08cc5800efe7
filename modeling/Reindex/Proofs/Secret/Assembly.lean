import Reindex.Proofs.Secret.Turns
import Reindex.Proofs.Text.Blank
import Reindex.Secret.Assembly

/-!
# What identities are made of

A batch makes up an identity if it has a text for each of the four fields. A field for which there is no
value under its name, or for which there are only blanks, is missing, and the first such field is the one
that is named. A batch that was read from a store under the names of the fields has values for them all.
-/

namespace Reindex

open Text

lemma PerField.get_map {α β : Type} (f : α → β) (p : PerField α) (field : IdentityField) :
    (p.map f).get field = f (p.get field) := by
  cases field <;> rfl

/-- Names that a store was asked for are not missing from what it gave. -/
lemma SecretStore.exists_get?_of_resolve {σ τ : Type} {store : SecretStore σ τ}
    {names : List SecretName} {cell : τ} {s : Session σ} {found : ResolvedSecrets}
    (h : (store.resolve names cell s).1.1 = .ok found) {name : SecretName} (hname : name ∈ names) :
    ∃ value, found.get? name.text = some value := by
  obtain ⟨reads, -, hreads⟩ := store.resolve_watched names cell s
  have hnames := hreads.resolvesInTurn.names found h
  rw [← List.mem_eraseDups, ← hnames] at hname
  obtain ⟨⟨_, value⟩, hmem, rfl⟩ := List.mem_map.mp hname
  exact Option.isSome_iff_exists.mp ((found.contains_iff _).mpr ⟨value, hmem⟩)

namespace ClientIdentity

variable {names : IdentitySecretNames} {secrets : ResolvedSecrets} {field : IdentityField}
  {identity : ClientIdentity}

/-! ### Fields that are missing -/

/-- There is no text for a field: no value is under its name, or nothing but blanks. -/
inductive Lacks (names : IdentitySecretNames) (secrets : ResolvedSecrets) (field : IdentityField) : Prop
  | absent (h : ∀ value, (names.get field, value) ∉ secrets.entries)
  | blank {value : SecretValue} (hvalue : secrets.get? (names.get field).text = some value)
      (h : ∀ c ∈ value.reveal.toList, isBlankChar c = true)

/-- There is no text for a field, but for all fields in front of it. -/
def LacksFirst (names : IdentitySecretNames) (secrets : ResolvedSecrets) (field : IdentityField) :
    Prop :=
  ∃ before after,
    [.tenantId, .clientId, .clientSecret, .audience] = before ++ field :: after ∧
      Lacks names secrets field ∧ ∀ other ∈ before, ¬Lacks names secrets other

/-- The text for each field, which is empty if there is no value. -/
def texts (names : IdentitySecretNames) (secrets : ResolvedSecrets) : PerField String :=
  names.map fun name => ((secrets.get? name.text).map SecretValue.reveal).getD ""

lemma get_texts_of_get? {value : SecretValue}
    (h : secrets.get? (names.get field).text = some value) :
    (texts names secrets).get field = value.reveal := by
  rw [texts, PerField.get_map, h]
  rfl

lemma lacks_iff_isBlank :
    Lacks names secrets field ↔ isBlank ((texts names secrets).get field) = true := by
  cases hvalue : secrets.get? (names.get field).text with
  | none =>
    have habsent : ∀ value, (names.get field, value) ∉ secrets.entries := by
      intro value hmem
      have hsome := (secrets.contains_iff (names.get field)).mpr ⟨value, hmem⟩
      rw [ResolvedSecrets.contains, hvalue] at hsome
      exact Bool.false_ne_true hsome
    rw [texts, PerField.get_map, hvalue]
    exact iff_of_true (.absent habsent) rfl
  | some value =>
    rw [get_texts_of_get? hvalue, isBlank, List.all_eq_true]
    constructor
    · rintro (hnone | ⟨hvalue', hblank⟩)
      · exact absurd (ResolvedSecrets.mem_of_get? hvalue) (hnone value)
      · rw [hvalue] at hvalue'
        cases hvalue'
        exact hblank
    · exact .blank hvalue

lemma lacksFirst_iff_firstBlank? :
    LacksFirst names secrets field ↔ firstBlank? (texts names secrets) = some field := by
  rw [firstBlank?, List.find?_eq_some_iff_append, LacksFirst]
  simp only [lacks_iff_isBlank, Bool.not_eq_true, Bool.not_eq_eq_eq_not, Bool.not_true]
  constructor
  · rintro ⟨before, after, hall, hfield, hbefore⟩
    exact ⟨hfield, before, after, hall, hbefore⟩
  · rintro ⟨hfield, before, after, hall, hbefore⟩
    exact ⟨before, after, hall, hfield, hbefore⟩

/-! ### Identities of batches -/

/-- An identity is made of the values under its names. -/
lemma given_of_ofSecrets (h : ofSecrets names secrets = .ok identity) :
    identity.given = texts names secrets := by
  have hcreate := mapError_eq_ok.mp h
  simp only [create] at hcreate
  split at hcreate
  · cases hcreate
    rfl
  · cases hcreate

lemma ofSecrets_eq_error_iff {e : SecretError} : ofSecrets names secrets = .error e ↔
    ∃ field, LacksFirst names secrets field ∧ e = .incomplete field := by
  have hcreate : ∀ field, create (texts names secrets) = .error field ↔
      LacksFirst names secrets field := by
    intro field
    rw [lacksFirst_iff_firstBlank?]
    unfold create
    split
    · rename_i hnone
      refine iff_of_false nofun fun hfirst => ?_
      rw [hnone] at hfirst
      cases hfirst
    · rename_i first hfirst
      rw [hfirst, Except.error.injEq, Option.some.injEq]
  rw [ofSecrets, mapError_eq_error]
  constructor
  · rintro ⟨field, hfield, rfl⟩
    exact ⟨field, (hcreate field).mp hfield, rfl⟩
  · rintro ⟨field, hfield, rfl⟩
    exact ⟨field, (hcreate field).mpr hfield, rfl⟩

/-- Values that make up an identity are there for every field, and none of them is blank. -/
lemma exists_value_of_ofSecrets (h : ofSecrets names secrets = .ok identity) (field : IdentityField) :
    ∃ value, secrets.get? (names.get field).text = some value ∧ value.isBlank = false := by
  have hfield : field ∈ IdentityField.all := by cases field <;> decide
  have hblank := List.find?_eq_none.mp identity.complete field hfield
  rw [given_of_ofSecrets h] at hblank
  cases hvalue : secrets.get? (names.get field).text with
  | none =>
    rw [texts, PerField.get_map, hvalue] at hblank
    exact absurd rfl hblank
  | some value =>
    rw [get_texts_of_get? hvalue] at hblank
    exact ⟨value, rfl, Bool.eq_false_iff.mpr hblank⟩

/-- An identity is made of a value for each field: of the secret as it is, of the others without the
blanks around them. Something is left of every value. -/
structure IsMadeOf (identity : ClientIdentity) (values : PerField SecretValue) : Prop where
  tenantId : IsTrimmed values.tenantId.reveal identity.tenantId
  clientId : IsTrimmed values.clientId.reveal identity.clientId
  clientSecret : identity.clientSecret = values.clientSecret.reveal
  audience : IsTrimmed values.audience.reveal identity.audience
  not_empty : identity.tenantId ≠ "" ∧ identity.clientId ≠ "" ∧ identity.clientSecret ≠ "" ∧
    identity.audience ≠ ""

lemma isMadeOf_of_ofSecrets (h : ofSecrets names secrets = .ok identity) :
    ∃ values : PerField SecretValue,
      (∀ field, secrets.get? (names.get field).text = some (values.get field)) ∧
        identity.IsMadeOf values := by
  choose values hvalues hblank using exists_value_of_ofSecrets h
  have hgiven : ∀ field, identity.given.get field = (values field).reveal := by
    intro field
    rw [given_of_ofSecrets h]
    exact get_texts_of_get? (hvalues field)
  have hfilled : ∀ field, isBlank (identity.given.get field) = false := by
    intro field
    rw [hgiven field]
    exact hblank field
  have htrim : ∀ field, IsTrimmed (values field).reveal (trim (identity.given.get field)) := by
    intro field
    rw [hgiven field]
    exact isTrimmed_trim _
  have hleft : ∀ field, trim (identity.given.get field) ≠ "" := by
    intro field hempty
    have hisEmpty := isEmpty_trim (identity.given.get field)
    rw [hempty, hfilled field] at hisEmpty
    cases hisEmpty
  refine ⟨⟨values .tenantId, values .clientId, values .clientSecret, values .audience⟩, ?_, ?_⟩
  · intro field
    cases field <;> exact hvalues _
  · refine ⟨htrim .tenantId, htrim .clientId, hgiven .clientSecret, htrim .audience,
      hleft .tenantId, hleft .clientId, ?_, hleft .audience⟩
    intro hempty
    have hsecret : isBlank identity.clientSecret = false := hfilled .clientSecret
    rw [hempty] at hsecret
    cases hsecret

/-- For any batch of secrets, it is the first field that is missing that is named, and if none is, there
is an identity, made of the values under the names. If the batch is what a store gave for those names,
a field that is named has a value, and it is nothing but blanks. -/
theorem ofSecrets_assembles (names : IdentitySecretNames) :
    (∀ secrets : ResolvedSecrets,
      (∀ field, ofSecrets names secrets = .error (.incomplete field) ↔
        LacksFirst names secrets field) ∧
      ((∀ field, ¬LacksFirst names secrets field) → ∃ identity values,
        ofSecrets names secrets = .ok identity ∧
        (∀ field, secrets.get? (names.get field).text = some (values.get field)) ∧
        identity.IsMadeOf values)) ∧
    ∀ (σ τ : Type) (store : SecretStore σ τ) (cell : τ) (s : Session σ) (found : ResolvedSecrets),
      (store.resolve names.toList cell s).1.1 = .ok found →
      ∀ e, ofSecrets names found = .error e → ∃ field value,
        e = .incomplete field ∧ found.get? (names.get field).text = some value ∧
        ∀ c ∈ value.reveal.toList, isBlankChar c = true := by
  constructor
  · intro secrets
    constructor
    · intro field
      rw [ofSecrets_eq_error_iff]
      constructor
      · rintro ⟨_, hfirst, ⟨⟩⟩
        exact hfirst
      · intro hfirst
        exact ⟨field, hfirst, rfl⟩
    · intro hall
      cases hresult : ofSecrets names secrets with
      | error e =>
        obtain ⟨field, hfirst, -⟩ := ofSecrets_eq_error_iff.mp hresult
        exact absurd hfirst (hall field)
      | ok identity =>
        obtain ⟨values, hvalues, hmade⟩ := isMadeOf_of_ofSecrets hresult
        exact ⟨identity, values, rfl, hvalues, hmade⟩
  · intro σ τ store cell s found hfound e he
    obtain ⟨field, ⟨before, after, -, hlacks, -⟩, rfl⟩ := ofSecrets_eq_error_iff.mp he
    have hname : names.get field ∈ names.toList :=
      List.mem_map_of_mem (by cases field <;> decide)
    obtain ⟨value, hvalue⟩ := SecretStore.exists_get?_of_resolve hfound hname
    cases hlacks with
    | absent habsent => exact absurd (ResolvedSecrets.mem_of_get? hvalue) (habsent value)
    | blank hblank h => exact ⟨field, _, rfl, hblank, h⟩

/-- Two secrets for the four fields. -/
def sharedNames : IdentitySecretNames :=
  let id : SecretName := ⟨"id", by decide⟩
  ⟨id, id, ⟨"password", by decide⟩, id⟩

/-- A store in which every secret is a blank. -/
def blankStore : SecretStore Unit Unit := ⟨"memory", "memory", fun _ => pure (.ok (.ofText " "))⟩

/-- A value can be there for several fields, with blanks around it. A store of blanks gives nothing that
makes up an identity, and the tenant is the first field that is missing. -/
theorem ofSecrets_assembles_shared :
    (∃ identity values,
      ofSecrets sharedNames ⟨[(sharedNames.tenantId, .ofText " x "),
        (sharedNames.clientSecret, .ofText " p ")]⟩ = .ok identity ∧
      identity.IsMadeOf values) ∧
    ∃ field value found,
      (blankStore.resolve sharedNames.toList () ⟨.scripted [], ⟨[]⟩, ⟨0⟩, [], ()⟩).1.1 = .ok found ∧
      ofSecrets sharedNames found = .error (.incomplete field) ∧
      found.get? (sharedNames.get field).text = some value ∧
      ∀ c ∈ value.reveal.toList, isBlankChar c = true := by
  constructor
  · have hall : ∀ field, ¬LacksFirst sharedNames ⟨[(sharedNames.tenantId, .ofText " x "),
        (sharedNames.clientSecret, .ofText " p ")]⟩ field := by
      intro field
      rw [lacksFirst_iff_firstBlank?]
      cases field <;> decide
    obtain ⟨identity, values, hok, -, hmade⟩ := ((ofSecrets_assembles sharedNames).1 _).2 hall
    exact ⟨identity, values, hok, hmade⟩
  · have hfound : (blankStore.resolve sharedNames.toList () ⟨.scripted [], ⟨[]⟩, ⟨0⟩, [], ()⟩).1.1 =
        .ok ⟨[(sharedNames.tenantId, .ofText " "), (sharedNames.clientSecret, .ofText " ")]⟩ :=
      rfl
    have herror : ofSecrets sharedNames
        ⟨[(sharedNames.tenantId, .ofText " "), (sharedNames.clientSecret, .ofText " ")]⟩ =
          .error (.incomplete .tenantId) := by
      rw [ofSecrets_eq_error_iff]
      exact ⟨.tenantId, lacksFirst_iff_firstBlank?.mpr (by decide), rfl⟩
    obtain ⟨field, value, hfield, hvalue, hblank⟩ :=
      (ofSecrets_assembles sharedNames).2 Unit Unit blankStore () _ _ hfound _ herror
    rw [hfield] at herror
    exact ⟨field, value, _, hfound, herror, hvalue, hblank⟩

end ClientIdentity

end Reindex
