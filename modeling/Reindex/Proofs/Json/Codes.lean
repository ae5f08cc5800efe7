import Reindex.Json.Basic
import Reindex.Proofs.Outcome
import Reindex.Proofs.Redaction.Codes

/-!
# JSON values that differ in the codes of errors

An error comes under a key of its own: a token endpoint gives its code as a text, a vault gives a record
with the code in it. Objects that differ in the value under one key only give the same fields to whoever
does not look for that key.
-/

namespace Reindex.Json

open Redaction (SameButValue)

/-- Two objects have the same members but for one, whose values are related by `P`. -/
inductive DifferAt (key : String) (P : Json → Json → Prop) : Json → Json → Prop
  | object (front back : List (Option String × Json)) {j j' : Json} (h : P j j') :
      DifferAt key P (.object (front ++ (some key, j) :: back))
        (.object (front ++ (some key, j') :: back))

/-- Two texts are codes that differ in their values. -/
inductive CodeAlike : Json → Json → Prop
  | text {code code' : String} (h : SameButValue code code') :
      CodeAlike (.string (some code)) (.string (some code'))

/-- Two values name errors by codes that differ in their values. -/
inductive ErrorAlike : Json → Json → Prop
  | text {j j' : Json} (h : CodeAlike j j') : ErrorAlike j j'
  | record {j j' : Json} (h : DifferAt "code" CodeAlike j j') : ErrorAlike j j'

/-- Two objects name errors by codes that differ in their values, and nothing else in them differs. -/
abbrev SameButCodes : Json → Json → Prop := DifferAt "error" ErrorAlike

/-! ### Fields of records -/

section Member

variable {key name : String} (front back : List (Option String × Json)) {j j' : Json}

lemma lookup_of_ne (h : name ≠ key) (j j' : Json) :
    lookup name (front ++ (some key, j) :: back) = lookup name (front ++ (some key, j') :: back) := by
  have hkey : (some key == some name) = false := by simpa using h.symm
  simp only [lookup, List.filter_append, List.filter_cons, hkey, Bool.false_eq_true, if_false]

/-- Under the key of the one member that differs, `lookup` finds related values or, among several members
with the key, nothing in either object. -/
lemma lookup_self {P : Json → Json → Prop} (h : P j j') :
    Option.Rel (fun x x' => ∃ j j', P j j' ∧ x = some j ∧ x' = some j')
      (lookup key (front ++ (some key, j) :: back)) (lookup key (front ++ (some key, j') :: back)) := by
  have hkey : (some key == some key) = true := beq_self_eq_true _
  simp only [lookup, List.filter_append, List.filter_cons, hkey, if_true]
  generalize front.filter (·.1 == some key) = front, back.filter (·.1 == some key) = back
  cases front with
  | nil =>
    cases back with
    | nil => exact .some ⟨j, j', h, rfl, rfl⟩
    | cons m back => exact .none
  | cons m front => cases front <;> exact .none

lemma mapM_lookup_of_not_mem {names : List String} (h : key ∉ names) (j j' : Json) :
    names.mapM (lookup · (front ++ (some key, j) :: back)) =
      names.mapM (lookup · (front ++ (some key, j') :: back)) := by
  induction names with
  | nil => rfl
  | cons name names ih =>
    have hname : name ≠ key := fun heq => h (heq ▸ List.mem_cons_self)
    have hnames := ih fun hmem => h (List.mem_cons_of_mem _ hmem)
    rw [List.mapM_cons, List.mapM_cons, lookup_of_ne front back hname j j', hnames]

lemma all_isSome_member (j j' : Json) : (front ++ (some key, j) :: back).all (·.1.isSome) =
    (front ++ (some key, j') :: back).all (·.1.isSome) := by
  simp only [List.all_append, List.all_cons]

end Member

namespace DifferAt

variable {key : String} {P : Json → Json → Prop} {j j' : Json} {names : List String}

/-- Two objects that differ at a key have the same fields under all other names. -/
lemma fields?_eq (h : DifferAt key P j j') (hnames : key ∉ names) :
    j.fields? names = j'.fields? names := by
  cases h with
  | @object front back j j' h =>
    simp only [fields?, all_isSome_member front back j j', mapM_lookup_of_not_mem front back hnames j j']

/-- Two objects that differ at a key have related fields under the key, and the same fields under all other
names. -/
lemma fields?_cons (h : DifferAt key P j j') (hnames : key ∉ names) :
    Option.Rel (fun fields fields' => ∃ j j' rest, P j j' ∧ fields = some j :: rest ∧
      fields' = some j' :: rest) (j.fields? (key :: names)) (j'.fields? (key :: names)) := by
  cases h with
  | @object front back j j' h =>
    simp only [fields?, all_isSome_member front back j j']
    split
    · rw [List.mapM_cons, List.mapM_cons, mapM_lookup_of_not_mem front back hnames j j']
      refine rel_bind (lookup_self front back h) fun x x' hx => ?_
      obtain ⟨j, j', h, rfl, rfl⟩ := hx
      generalize names.mapM (lookup · (front ++ (some key, _) :: back)) = rest
      cases rest with
      | none => exact .none
      | some rest => exact .some ⟨j, j', rest, h, rfl, rfl⟩
    · exact .none

end DifferAt

end Reindex.Json
