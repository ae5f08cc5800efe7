import Mathlib.Tactic.Common
import Reindex.Json.Reader

/-!
# Records

A record is an object with its fields among the members, or an array of its fields in their order. What is
found of its fields is what stands there, if no key stands there twice.
-/

namespace Reindex.Json

variable {key key' : String} {j x : Json} {field : Option Json} {members : List (Option String × Json)}

/-! ### Members -/

/-- The member with the key: there is one and no other, or there is none. -/
def Holds (key : String) : Option Json → List (Option String × Json) → Prop
  | none, members => ∀ m ∈ members, m.1 ≠ some key
  | some j, members => ∃ front back, members = front ++ (some key, j) :: back ∧
      ∀ m ∈ front ++ back, m.1 ≠ some key

lemma filter_key_eq_nil : members.filter (·.1 == some key) = [] ↔ ∀ m ∈ members, m.1 ≠ some key := by
  rw [List.filter_eq_nil_iff]
  exact forall₂_congr fun m _ => not_congr beq_iff_eq

lemma filter_key_eq_singleton :
    members.filter (·.1 == some key) = [(some key, j)] ↔ Holds key (some j) members := by
  rw [List.filter_eq_cons_iff]
  constructor
  · rintro ⟨front, back, rfl, hfront, -, hback⟩
    refine ⟨front, back, rfl, fun m hm => ?_⟩
    rcases List.mem_append.mp hm with hm | hm
    · exact fun heq => hfront m hm (beq_iff_eq.mpr heq)
    · exact filter_key_eq_nil.mp hback m hm
  · rintro ⟨front, back, rfl, hothers⟩
    refine ⟨front, back, rfl, fun m hm heq => ?_, beq_self_eq_true _, filter_key_eq_nil.mpr fun m hm => ?_⟩
    · exact hothers m (List.mem_append_left back hm) (beq_iff_eq.mp heq)
    · exact hothers m (List.mem_append_right front hm)

lemma lookup_eq_some_iff : lookup key members = some field ↔ Holds key field members := by
  unfold lookup
  split
  · rename_i h
    cases field with
    | none => exact ⟨fun _ => filter_key_eq_nil.mp h, fun _ => rfl⟩
    | some j =>
      rw [← filter_key_eq_singleton, h]
      exact ⟨nofun, nofun⟩
  · rename_i m h
    have hkey : m.1 = some key := by
      have hm : m ∈ members.filter (·.1 == some key) := by
        rw [h]
        exact List.mem_singleton_self m
      exact beq_iff_eq.mp (List.mem_filter.mp hm).2
    cases field with
    | none =>
      rw [Holds, ← filter_key_eq_nil, h]
      exact ⟨nofun, nofun⟩
    | some j =>
      rw [← filter_key_eq_singleton, h]
      constructor
      · rintro ⟨⟩
        rw [← hkey]
      · rintro ⟨⟩
        rfl
  · rename_i hnil hone
    cases field with
    | none =>
      rw [Holds, ← filter_key_eq_nil]
      exact ⟨nofun, fun h => absurd h hnil⟩
    | some j =>
      rw [← filter_key_eq_singleton]
      exact ⟨nofun, fun h => absurd h (hone _)⟩

/-! ### Records of one field and of two -/

/-- A record of one field. -/
inductive HasField (key : String) (j : Json) : Json → Prop
  | object {members : List (Option String × Json)} (hkeys : ∀ m ∈ members, m.1 ≠ none)
      (h : Holds key (some j) members) : HasField key j (.object members)
  | array : HasField key j (.array [j])

/-- A record of a field and perhaps another one. -/
inductive HasFields (key : String) (j : Json) (key' : String) (field : Option Json) : Json → Prop
  | object {members : List (Option String × Json)} (hkeys : ∀ m ∈ members, m.1 ≠ none)
      (h : Holds key (some j) members) (h' : Holds key' field members) :
      HasFields key j key' field (.object members)
  | array : HasFields key j key' field (.array (j :: field.toList))

lemma all_isSome_iff : members.all (·.1.isSome) = true ↔ ∀ m ∈ members, m.1 ≠ none := by
  rw [List.all_eq_true]
  exact forall₂_congr fun m _ => Option.isSome_iff_ne_none

lemma fields?_eq_one : x.fields? [key] = some [some j] ↔ HasField key j x := by
  constructor
  · intro h
    unfold fields? at h
    split at h
    · split at h
      · rename_i hkeys
        obtain ⟨field, hfield, h⟩ := Option.bind_eq_some_iff.mp h
        cases h
        exact .object (all_isSome_iff.mp hkeys) (lookup_eq_some_iff.mp hfield)
      · cases h
    · rename_i items
      match items, h with
      | [i], h =>
        cases h
        exact .array
    · cases h
  · intro h
    cases h with
    | object hkeys h =>
      rw [fields?, if_pos (all_isSome_iff.mpr hkeys), List.mapM_cons, lookup_eq_some_iff.mpr h]
      rfl
    | array => rfl

/-- A record of two fields, of which the second is in an array only if the first is. -/
inductive MayHave (key : String) (field : Option Json) (key' : String) (field' : Option Json) : Json → Prop
  | object {members : List (Option String × Json)} (hkeys : ∀ m ∈ members, m.1 ≠ none)
      (h : Holds key field members) (h' : Holds key' field' members) :
      MayHave key field key' field' (.object members)
  | array (h : field = none → field' = none) :
      MayHave key field key' field' (.array (field.toList ++ field'.toList))

lemma fields?_eq_pair {field' : Option Json} :
    x.fields? [key, key'] = some [field, field'] ↔ MayHave key field key' field' x := by
  constructor
  · intro h
    unfold fields? at h
    split at h
    · split at h
      · rename_i hkeys
        simp only [List.mapM_cons, List.mapM_nil, Option.bind_eq_bind, Option.bind_eq_some_iff,
          Option.pure_def, Option.some.injEq] at h
        obtain ⟨first, hfirst, _, ⟨second, hsecond, _, rfl, rfl⟩, heq⟩ := h
        cases heq
        exact .object (all_isSome_iff.mp hkeys) (lookup_eq_some_iff.mp hfirst)
          (lookup_eq_some_iff.mp hsecond)
      · cases h
    · rename_i items
      match items, h with
      | [], h =>
        cases h
        exact .array fun _ => rfl
      | [i], h =>
        cases h
        exact .array fun _ => rfl
      | [i, k], h =>
        cases h
        exact .array nofun
    · cases h
  · intro h
    cases h with
    | object hkeys h h' =>
      rw [fields?, if_pos (all_isSome_iff.mpr hkeys), List.mapM_cons, List.mapM_cons,
        lookup_eq_some_iff.mpr h, lookup_eq_some_iff.mpr h']
      rfl
    | array h =>
      cases field with
      | none =>
        rw [h rfl]
        rfl
      | some i =>
        cases field' with
        | none => rfl
        | some k => rfl

lemma fields?_eq_two : x.fields? [key, key'] = some [some j, field] ↔ HasFields key j key' field x := by
  rw [fields?_eq_pair]
  constructor
  · intro h
    cases h with
    | object hkeys h h' => exact .object hkeys h h'
    | array _ => exact .array
  · intro h
    cases h with
    | object hkeys h h' => exact .object hkeys h h'
    | array =>
      have harray : MayHave key (some j) key' field (.array ((some j).toList ++ field.toList)) :=
        .array nofun
      exact harray

/-- A record has at most one field under a key. -/
lemma HasFields.eq_of_hasField {j' : Json} (h : HasFields key j key' field x) (h' : HasField key j' x) :
    j' = j := by
  cases h with
  | object _ hheld _ =>
    cases h' with
    | object _ hheld' =>
      have hlookup := (lookup_eq_some_iff.mpr hheld').symm.trans (lookup_eq_some_iff.mpr hheld)
      exact Option.some.inj (Option.some.inj hlookup)
  | array =>
    cases field with
    | none =>
      cases h'
      rfl
    | some k => cases h'

lemma text?_eq_some_iff {t : String} : x.text? = some t ↔ x = .string (some t) := by
  unfold text?
  split
  · exact ⟨fun h => by rw [h], fun h => by cases h; rfl⟩
  · rename_i hx
    exact ⟨nofun, fun h => absurd h (hx _)⟩

/-- A value is read from a field of a record exactly if the record has the field and the value is read from
that. -/
lemma bind_field?_eq_some_iff {α : Type} {read : Json → Option α} {a : α} :
    ((x.fields? [key]).bind fun
      | [some j] => read j
      | _ => none) = some a ↔ ∃ j, HasField key j x ∧ read j = some a := by
  constructor
  · intro h
    obtain ⟨fields, hfields, h⟩ := Option.bind_eq_some_iff.mp h
    match fields, hfields, h with
    | [some j], hfields, h => exact ⟨j, fields?_eq_one.mp hfields, h⟩
  · rintro ⟨j, hfield, h⟩
    rw [fields?_eq_one.mpr hfield]
    exact h

/-- A text and perhaps another field are read from a record that has them. -/
lemma bind_fields?_eq_some_iff {α : Type} {read : Option Json → Option α} {t : String} {a : α} :
    ((x.fields? [key, key']).bind fun
      | [some text, field] => text.text?.bind fun t => (read field).bind fun a => some (t, a)
      | _ => none) = some (t, a) ↔
        ∃ field, HasFields key (.string (some t)) key' field x ∧ read field = some a := by
  constructor
  · intro h
    obtain ⟨fields, hfields, h⟩ := Option.bind_eq_some_iff.mp h
    match fields, hfields, h with
    | [some text, field], hfields, h =>
      obtain ⟨t', ht, h⟩ := Option.bind_eq_some_iff.mp h
      obtain ⟨a', ha, h⟩ := Option.bind_eq_some_iff.mp h
      cases h
      rw [text?_eq_some_iff.mp ht] at hfields
      exact ⟨field, fields?_eq_two.mp hfields, ha⟩
  · rintro ⟨field, hfields, ha⟩
    rw [fields?_eq_two.mpr hfields, Option.bind_some]
    dsimp only [text?, Option.bind_some]
    rw [ha]
    rfl

end Reindex.Json
