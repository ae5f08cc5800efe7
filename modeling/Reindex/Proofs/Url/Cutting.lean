import Mathlib.Data.List.Basic
import Mathlib.Tactic.Common
import Reindex.Url.Pieces

/-!
# Cutting texts into pieces

A text is cut at its separators, and the pieces have none. Put together with a separator between each two
of them, or in front of each, they are the text again.
-/

namespace Reindex.Url

variable {sep : Char → Bool} {c : Char} {piece cs : List Char} {pieces : List (List Char)}

/-- A text without separators is one piece. -/
lemma cutAt_of_not_mem (h : ∀ c ∈ piece, sep c = false) : cutAt sep piece = [piece] := by
  induction piece with
  | nil => rfl
  | cons c rest ih =>
    exact cutAt_cons_of_neg (h c List.mem_cons_self) (ih fun d hd => h d (List.mem_cons_of_mem c hd))

/-- At a separator the text falls into two that are cut by themselves. -/
lemma cutAt_append (cs : List Char) (hc : sep c = true) (rest : List Char) :
    cutAt sep (cs ++ c :: rest) = cutAt sep cs ++ cutAt sep rest := by
  induction cs with
  | nil => exact cutAt_cons_of_pos hc rest
  | cons d cs ih =>
    by_cases hd : sep d = true
    · rw [List.cons_append, cutAt_cons_of_pos hd, ih, cutAt_cons_of_pos hd, List.cons_append]
    · rw [Bool.not_eq_true] at hd
      obtain ⟨first, more, hcs⟩ := List.exists_cons_of_ne_nil (cutAt_ne_nil sep cs)
      rw [hcs] at ih
      rw [List.cons_append, cutAt_cons_of_neg hd ih, cutAt_cons_of_neg hd hcs]
      rfl

/-- The first separator ends the first piece. -/
lemma cutAt_append_cons (h : ∀ c ∈ piece, sep c = false) (hc : sep c = true) (rest : List Char) :
    cutAt sep (piece ++ c :: rest) = piece :: cutAt sep rest := by
  rw [cutAt_append piece hc, cutAt_of_not_mem h, List.singleton_append]

/-- There are no separators in the pieces, and nothing that was not in the text. -/
lemma mem_of_mem_cutAt (h : piece ∈ cutAt sep cs) (hc : c ∈ piece) : sep c = false ∧ c ∈ cs := by
  induction cs generalizing piece with
  | nil =>
    obtain rfl := List.mem_singleton.mp h
    cases hc
  | cons d rest ih =>
    by_cases hd : sep d = true
    · rw [cutAt_cons_of_pos hd] at h
      rcases List.mem_cons.mp h with rfl | h
      · cases hc
      · exact ⟨(ih h hc).1, List.mem_cons_of_mem d (ih h hc).2⟩
    · rw [Bool.not_eq_true] at hd
      obtain ⟨first, more, hrest⟩ := List.exists_cons_of_ne_nil (cutAt_ne_nil sep rest)
      rw [cutAt_cons_of_neg hd hrest] at h
      rw [hrest] at ih
      rcases List.mem_cons.mp h with rfl | h
      · rcases List.mem_cons.mp hc with rfl | hc
        · exact ⟨hd, List.mem_cons_self⟩
        · exact ⟨(ih List.mem_cons_self hc).1, List.mem_cons_of_mem d (ih List.mem_cons_self hc).2⟩
      · have hmem := ih (List.mem_cons_of_mem first h) hc
        exact ⟨hmem.1, List.mem_cons_of_mem d hmem.2⟩

/-- Pieces with a separator between each two of them are cut into the same pieces. -/
lemma cutAt_intercalate (h : ∀ piece ∈ pieces, ∀ c ∈ piece, sep c = false) (hc : sep c = true)
    (hne : pieces ≠ []) : cutAt sep ([c].intercalate pieces) = pieces := by
  induction pieces with
  | nil => exact absurd rfl hne
  | cons piece rest ih =>
    have hpiece := h piece List.mem_cons_self
    cases rest with
    | nil =>
      rw [List.intercalate_singleton]
      exact cutAt_of_not_mem hpiece
    | cons next rest =>
      rw [List.intercalate_cons_cons, List.append_assoc, List.singleton_append, cutAt_append_cons hpiece hc,
        ih (fun p hp => h p (List.mem_cons_of_mem piece hp)) (List.cons_ne_nil next rest)]

/-- Characters may be replaced before a text is cut, if separators and no others become separators. -/
lemma cutAt_map {sep' : Char → Bool} {f : Char → Char} (hf : ∀ c, sep c = false → f c = c)
    (hsep : ∀ c, sep' (f c) = sep c) (cs : List Char) : cutAt sep' (cs.map f) = cutAt sep cs := by
  induction cs with
  | nil => rfl
  | cons c rest ih =>
    by_cases hc : sep c = true
    · rw [List.map_cons, cutAt_cons_of_pos (by rw [hsep, hc]), ih, cutAt_cons_of_pos hc]
    · rw [Bool.not_eq_true] at hc
      obtain ⟨first, more, hrest⟩ := List.exists_cons_of_ne_nil (cutAt_ne_nil sep rest)
      rw [List.map_cons, cutAt_cons_of_neg (by rw [hsep, hc]) (ih.trans hrest),
        cutAt_cons_of_neg hc hrest, hf c hc]

/-- A text is its pieces with a separator in front of each, but for the first separator. -/
lemma flatMap_cutAt (c : Char) (cs : List Char) :
    (cutAt (· = c) cs).flatMap (c :: ·) = c :: cs := by
  induction cs with
  | nil => rfl
  | cons d rest ih =>
    by_cases hd : d = c
    · subst hd
      rw [cutAt_cons_of_pos (decide_eq_true rfl), List.flatMap_cons, ih]
      rfl
    · obtain ⟨first, more, hrest⟩ := List.exists_cons_of_ne_nil (cutAt_ne_nil (· = c) rest)
      rw [hrest, List.flatMap_cons, List.cons_append] at ih
      rw [cutAt_cons_of_neg (decide_eq_false hd) hrest, List.flatMap_cons, List.cons_append,
        List.cons_append, (List.cons.inj ih).2]

end Reindex.Url
