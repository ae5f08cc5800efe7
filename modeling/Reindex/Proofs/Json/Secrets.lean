import Mathlib.Data.List.Forall2
import Mathlib.Tactic.Common
import Reindex.Proofs.Json.Plain
import Reindex.Proofs.Outcome
import Reindex.Text.Blank

/-!
# JSON values that differ in their secrets

A value of a secret, or a token, comes under a key of its own or as the first item of an array. Two JSON
values are the same but for their secrets if nothing else in them differs. Whatever record is looked
for in them, its fields are there in both or in neither, and they are the same but for such texts.
-/

namespace Reindex.Json

/-- The keys under which secrets are given. -/
def secretKeys : List String := ["value", "access_token"]

/-- Two values are the same, or both are texts that are not blank. -/
inductive Veiled : Json → Json → Prop
  | same (j : Json) : Veiled j j
  | texts {t t' : String} (h : Text.isBlank t = false) (h' : Text.isBlank t' = false) :
      Veiled (.string (some t)) (.string (some t'))

/-- Two members of objects are the same, or secrets under the same key. -/
inductive VeiledMember : Option String × Json → Option String × Json → Prop
  | same (m : Option String × Json) : VeiledMember m m
  | secret {key : String} {j j' : Json} (hkey : key ∈ secretKeys) (h : Veiled j j') :
      VeiledMember (some key, j) (some key, j')

/-- Two values are the same but for the secrets in them. -/
inductive SameButSecrets : Json → Json → Prop
  | same (j : Json) : SameButSecrets j j
  /-- The values are objects with the same members but for secrets. -/
  | object {ms ms' : List (Option String × Json)} (h : List.Forall₂ VeiledMember ms ms') :
      SameButSecrets (.object ms) (.object ms')
  | array {j j' : Json} (h : Veiled j j') (rest : List Json) :
      SameButSecrets (.array (j :: rest)) (.array (j' :: rest))

/-- Objects with a single secret are read as the same but for that secret. -/
lemma rel_memberText {key value value' : String} (hkey : key ∈ secretKeys)
    (h : isPlain value = true ∧ Text.isBlank value = false)
    (h' : isPlain value' = true ∧ Text.isBlank value' = false) :
    Option.Rel SameButSecrets (readText? (memberText key value)) (readText? (memberText key value')) := by
  have hplain : ∀ k ∈ secretKeys, isPlain k = true := by decide
  rw [readText?_memberText (hplain key hkey) h.1, readText?_memberText (hplain key hkey) h'.1]
  exact .some (.object (.cons (.secret hkey (.texts h.2 h'.2)) .nil))

lemma VeiledMember.key_eq {m m' : Option String × Json} (h : VeiledMember m m') : m.1 = m'.1 := by
  cases h <;> rfl

lemma VeiledMember.veiled {m m' : Option String × Json} (h : VeiledMember m m') :
    Veiled m.2 m'.2 := by
  cases h with
  | same m => exact .same m.2
  | secret hkey h => exact h

/-! ### Fields of records -/

/-- Under every key `lookup` finds a member in both objects or in neither, and the two are the same but for
secrets. -/
lemma lookup_veiled {ms ms' : List (Option String × Json)} (h : List.Forall₂ VeiledMember ms ms')
    (key : String) : Option.Rel (Option.Rel Veiled) (lookup key ms) (lookup key ms') := by
  have hfilter : List.Forall₂ VeiledMember (ms.filter (·.1 == some key))
      (ms'.filter (·.1 == some key)) := by
    refine List.rel_filter ?_ h
    intro m m' hm
    dsimp only
    rw [hm.key_eq]
  simp only [lookup]
  revert hfilter
  generalize ms.filter (·.1 == some key) = found, ms'.filter (·.1 == some key) = found'
  intro hfilter
  cases hfilter with
  | nil => exact .some .none
  | cons hm hrest =>
    cases hrest with
    | nil => exact .some (.some hm.veiled)
    | cons hm' hrest => exact .none

lemma mapM_lookup_veiled {ms ms' : List (Option String × Json)}
    (h : List.Forall₂ VeiledMember ms ms') (names : List String) :
    Option.Rel (List.Forall₂ (Option.Rel Veiled)) (names.mapM (lookup · ms))
      (names.mapM (lookup · ms')) := by
  induction names with
  | nil => exact .some .nil
  | cons name names ih =>
    rw [List.mapM_cons, List.mapM_cons]
    have hname := lookup_veiled h name
    revert hname ih
    generalize lookup name ms = x, lookup name ms' = x'
    generalize names.mapM (lookup · ms) = xs, names.mapM (lookup · ms') = xs'
    intro ih hname
    cases hname with
    | none => exact .none
    | some hname =>
      cases ih with
      | none => exact .none
      | some ih => exact .some (.cons hname ih)

lemma all_isSome_eq {ms ms' : List (Option String × Json)} (h : List.Forall₂ VeiledMember ms ms') :
    ms.all (·.1.isSome) = ms'.all (·.1.isSome) := by
  induction h with
  | nil => rfl
  | cons hm _ ih => rw [List.all_cons, List.all_cons, ih, hm.key_eq]

/-- A record is found in both values or in neither, and its fields are the same but for secrets. -/
lemma SameButSecrets.fields? {j j' : Json} (h : SameButSecrets j j') (names : List String) :
    Option.Rel (List.Forall₂ (Option.Rel Veiled)) (j.fields? names) (j'.fields? names) := by
  have hrefl : ∀ fields : List (Option Json), List.Forall₂ (Option.Rel Veiled) fields fields := by
    intro fields
    exact List.forall₂_same.mpr fun field _ => rel_refl Veiled.same field
  cases h with
  | same j => exact rel_refl hrefl _
  | object h =>
    simp only [Json.fields?, all_isSome_eq h]
    split
    · exact mapM_lookup_veiled h names
    · exact .none
  | array h rest =>
    simp only [Json.fields?, List.length_cons]
    split
    · exact .some (.cons (.some h) (hrefl _))
    · exact .none

/-- Two veiled values are texts of which both are blank or neither is, or neither value is a text. -/
lemma Veiled.text? {j j' : Json} (h : Veiled j j') :
    Option.Rel (fun t t' => Text.isBlank t = Text.isBlank t') j.text? j'.text? := by
  cases h with
  | same j => exact rel_refl (fun t => Eq.refl (Text.isBlank t)) _
  | texts h h' => exact .some (h.trans h'.symm)

end Reindex.Json
