import Mathlib.Data.List.Basic
import Mathlib.Data.List.TakeWhile
import Mathlib.Tactic.Common
import Reindex.Text.Blank

/-!
# Blanks around texts

Where a run of characters breaks off, and what is left of a text without the blanks behind it or on
both sides.
-/

namespace Reindex.Text

variable {p : Char → Bool} {cs back : List Char} {c : Char}

/-! ### Runs of characters -/

section Run

variable {α : Type} {p : α → Bool} {xs rest : List α}

/-- A run that breaks off is all that is taken. -/
lemma takeWhile_append_break (hxs : ∀ c ∈ xs, p c = true) (hrest : ∀ c ∈ rest.head?, p c = false) :
    (xs ++ rest).takeWhile p = xs := by
  rw [List.takeWhile_append_of_pos hxs]
  cases rest with
  | nil => exact List.append_nil xs
  | cons c rest =>
    rw [List.takeWhile_cons, if_neg (by rw [hrest c rfl]; exact Bool.false_ne_true), List.append_nil]

/-- The rest behind a run that breaks off is left. -/
lemma dropWhile_append_break (hxs : ∀ c ∈ xs, p c = true) (hrest : ∀ c ∈ rest.head?, p c = false) :
    (xs ++ rest).dropWhile p = rest := by
  rw [List.dropWhile_append_of_pos hxs]
  cases rest with
  | nil => rfl
  | cons c rest => rw [List.dropWhile_cons, if_neg (by rw [hrest c rfl]; exact Bool.false_ne_true)]

end Run

/-! ### Blanks behind a text -/

lemma trimEndList_append (h : back.all isBlankChar = true) (cs : List Char) :
    trimEndList (cs ++ back) = trimEndList cs := by
  unfold trimEndList dropRightWhile
  rw [List.reverse_append, List.dropWhile_append_of_pos]
  intro c hc
  exact List.all_eq_true.mp h c (List.mem_reverse.mp hc)

lemma trimEndList_concat (hc : isBlankChar c = false) (cs : List Char) :
    trimEndList (cs ++ [c]) = cs ++ [c] := by
  unfold trimEndList dropRightWhile
  rw [List.reverse_append, List.reverse_singleton, List.singleton_append, List.dropWhile_cons,
    if_neg (by rw [hc]; exact Bool.false_ne_true), List.reverse_cons, List.reverse_reverse]

/-- Nothing but blanks is taken off by `trimEndList`. -/
lemma exists_eq_trimEndList_append (cs : List Char) :
    ∃ back, cs = trimEndList cs ++ back ∧ ∀ c ∈ back, isBlankChar c = true := by
  refine ⟨(cs.reverse.takeWhile isBlankChar).reverse, ?_, fun c hc => ?_⟩
  · rw [trimEndList, dropRightWhile, ← List.reverse_append, List.takeWhile_append_dropWhile,
      List.reverse_reverse]
  · exact List.mem_takeWhile_imp (List.mem_reverse.mp hc)

/-- A text is trimmed to the same, whatever blanks there are in front of it and behind it. -/
lemma trimList_append {front : List Char} (hfront : front.all isBlankChar = true)
    (hback : back.all isBlankChar = true) : trimList (front ++ cs ++ back) = trimList cs := by
  have hstart : trimStartList (front ++ cs ++ back) = trimStartList (cs ++ back) := by
    unfold trimStartList
    rw [List.append_assoc, List.dropWhile_append_of_pos (List.all_eq_true.mp hfront)]
  unfold trimList
  rw [hstart]
  unfold trimStartList
  rw [List.dropWhile_append]
  split
  · rename_i hnone
    rw [List.isEmpty_iff.mp hnone, List.dropWhile_eq_nil_iff.mpr (List.all_eq_true.mp hback)]
  · exact trimEndList_append hback _

/-! ### Texts without the blanks around them -/

/-- Nothing is left of a text without the blanks around it if there is nothing in it but blanks. -/
lemma isEmpty_trim (s : String) : (trim s).isEmpty = isBlank s := by
  have hdrop : ∀ cs : List Char, (∀ c ∈ cs.dropWhile isBlankChar, isBlankChar c = true) →
      ∀ c ∈ cs, isBlankChar c = true := by
    intro cs h c hc
    rw [← List.takeWhile_append_dropWhile (p := isBlankChar) (l := cs)] at hc
    rcases List.mem_append.mp hc with hc | hc
    · exact List.mem_takeWhile_imp hc
    · exact h c hc
  rw [Bool.eq_iff_iff, String.isEmpty_iff, trim, String.ofList_eq_empty_iff, isBlank,
    List.all_eq_true, trimList, trimEndList, dropRightWhile, List.reverse_eq_nil_iff,
    List.dropWhile_eq_nil_iff, trimStartList]
  constructor
  · intro h
    exact hdrop _ fun c hc => h c (List.mem_reverse.mpr hc)
  · intro h c hc
    exact h c ((List.dropWhile_sublist _).subset (List.mem_reverse.mp hc))

/-- A text is another one with blanks around it, and these are all the blanks at its ends. -/
structure IsTrimmed (text trimmed : String) : Prop where
  around : ∃ front back, text.toList = front ++ trimmed.toList ++ back ∧
    (∀ c ∈ front, isBlankChar c = true) ∧ ∀ c ∈ back, isBlankChar c = true
  first : ∀ c ∈ trimmed.toList.head?, isBlankChar c = false
  last : ∀ c ∈ trimmed.toList.getLast?, isBlankChar c = false

lemma not_of_mem_head?_dropWhile (h : c ∈ (cs.dropWhile p).head?) : p c = false := by
  have hnot := List.head?_dropWhile_not p cs
  rw [Option.mem_def.mp h] at hnot
  exact hnot

lemma isTrimmed_trim (text : String) : IsTrimmed text (trim text) := by
  obtain ⟨back, hback, hblank⟩ := exists_eq_trimEndList_append (trimStartList text.toList)
  have hlist : (trim text).toList = trimEndList (trimStartList text.toList) := String.toList_ofList
  refine ⟨⟨text.toList.takeWhile isBlankChar, back, ?_, fun c => List.mem_takeWhile_imp, hblank⟩,
    ?_, ?_⟩
  · rw [hlist, List.append_assoc, ← hback, trimStartList, List.takeWhile_append_dropWhile]
  · intro c hc
    rw [hlist] at hc
    have hfirst : c ∈ (trimStartList text.toList).head? := by
      rw [hback, List.head?_append, Option.mem_def.mp hc]
      rfl
    exact not_of_mem_head?_dropWhile hfirst
  · intro c hc
    rw [hlist, trimEndList, dropRightWhile, List.getLast?_reverse] at hc
    exact not_of_mem_head?_dropWhile hc

/-- Without the blanks around it, a text comes to one text only. -/
lemma IsTrimmed.trim_eq {text trimmed : String} (h : IsTrimmed text trimmed) : trim text = trimmed := by
  obtain ⟨front, back, htext, hfront, hback⟩ := h.around
  have hstart : trimStartList trimmed.toList = trimmed.toList := by
    have hdrop : ([] ++ trimmed.toList).dropWhile isBlankChar = trimmed.toList :=
      dropWhile_append_break (fun _ hc => nomatch hc) h.first
    exact hdrop
  have hend : trimEndList trimmed.toList = trimmed.toList := by
    rcases List.eq_nil_or_concat trimmed.toList with hnil | ⟨init, c, hconcat⟩
    · rw [hnil]
      rfl
    · rw [List.concat_eq_append] at hconcat
      rw [hconcat]
      refine trimEndList_concat (h.last c ?_) init
      rw [hconcat, List.getLast?_concat]
      rfl
  rw [trim, htext, trimList_append (List.all_eq_true.mpr hfront) (List.all_eq_true.mpr hback),
    trimList, hstart, hend, String.ofList_toList]

end Reindex.Text
