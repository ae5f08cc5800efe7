import Mathlib.Tactic.Common
import Reindex.Proofs.Text.Alphanumeric
import Reindex.Url.Path

/-!
# Appending to paths

Letters and digits stand for themselves in a path. So a text of them is appended as it is, and the URL
grows by as much.
-/

namespace Reindex.Url

/-! ### Plain characters -/

/-- A character that means nothing but itself in a path. -/
structure IsPlainInPath (c : Char) : Prop where
  encode : Percent.encodeChar Percent.specialSegment c = [c]
  skipped : isSkipped c = false
  dot : c ≠ '.'
  percent : c ≠ '%' ∧ c.toLower ≠ '%'

/-- Letters and digits mean nothing but themselves. -/
lemma isPlainInPath_of_isAlphanum {c : Char} (h : c.isAlphanum = true) : IsPlainInPath c := by
  have hall : ∀ c : Char, c.toNat < 0x80 → c.isAlphanum = true →
      Percent.encodeChar Percent.specialSegment c = [c] ∧
        isSkipped c = false ∧ c ≠ '.' ∧ c ≠ '%' ∧ c.toLower ≠ '%' :=
    Text.forall_ascii (by decide +kernel)
  obtain ⟨hencode, hskipped, hdot, hpercent⟩ := hall c (Text.toNat_lt_of_isAlphanum h) h
  exact ⟨hencode, hskipped, hdot, hpercent⟩

/-- A text of letters and digits is a segment as it is. -/
lemma encode_of_isPlainInPath {raw : List Char} (h : ∀ c ∈ raw, IsPlainInPath c) :
    Percent.encode Percent.specialSegment (raw.filter (!isSkipped ·)) = raw := by
  have hfilter : raw.filter (!isSkipped ·) = raw := by
    refine List.filter_eq_self.mpr fun c hc => ?_
    rw [(h c hc).skipped]
    rfl
  rw [hfilter]
  simp only [Percent.encode]
  clear hfilter
  induction raw with
  | nil => rfl
  | cons c rest ih =>
    rw [List.flatMap_cons, (h c List.mem_cons_self).encode,
      ih fun c hc => h c (List.mem_cons_of_mem _ hc)]
    rfl

/-! ### Segments -/

/-- A segment that is not made of dots goes behind those there are. -/
lemma place_singleton (done : List (List Char)) {piece : List Char} (hdot : isDot piece = false)
    (hdots : isDotDot piece = false) : place done [piece] = done ++ [piece] := by
  rw [place, hdots, hdot]
  rfl

lemma isDot_cons {c : Char} (h : IsPlainInPath c) (rest : List Char) : isDot (c :: rest) = false := by
  have hdot := h.dot
  have hpercent := h.percent.2
  simp [isDot, hdot, hpercent]

lemma isDotDot_cons {c : Char} (h : IsPlainInPath c) (rest : List Char) :
    isDotDot (c :: rest) = false := by
  simp only [isDotDot]
  split
  · rename_i heq
    exact absurd (List.cons.inj heq).1 h.dot
  · rename_i heq
    exact absurd (List.cons.inj heq).1 h.percent.1
  · rfl

/-- A text that is not encoded and not made of dots goes behind the segments there are. The lone empty
segment of the root gives way to it. -/
lemma pushSegment_of_encode {segments : List (List Char)} {raw : List Char}
    (hencode : Percent.encode Percent.specialSegment (raw.filter (!isSkipped ·)) = raw)
    (hdot : isDot raw = false) (hdots : isDotDot raw = false) :
    pushSegment "http" segments raw = (if segments = [[]] then [] else segments) ++ [raw] := by
  have hspecial : isSpecial "http" = true := by decide
  have hraw : ¬ ((raw = ['.'] || raw = ['.', '.']) = true) := by
    rw [Bool.or_eq_true, decide_eq_true_eq, decide_eq_true_eq]
    rintro (rfl | rfl)
    · exact absurd hdot (by decide)
    · exact absurd hdots (by decide)
  unfold pushSegment
  rw [if_neg hraw, hspecial, if_pos rfl]
  dsimp only
  rw [hencode, place_singleton _ hdot hdots, if_neg (by decide)]

end Reindex.Url
