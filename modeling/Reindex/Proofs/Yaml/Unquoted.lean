import Mathlib.Tactic.Common
import Reindex.Yaml.Printer
import Reindex.Yaml.Scalar

/-!
# Texts without quotes are read back

A text that can stand without quotes is read as it is, whether it is a key, which ends at its colon, or
a value, which ends at the line that is not further in.
-/

namespace Reindex.Yaml

/-! ### Styles -/

/-- The style suits the text: the text can be written in it and is read back. -/
def Style.Suits (cs : List Char) : Style → Prop
  | .plain => canBePlain cs = true ∧ looksTyped cs = false
  | .single => canBeSingle cs = true ∧ '\n' ∉ cs
  | .double => True
  | .literal => canBeLiteral cs = true

lemma suits_styleOf (cs : List Char) : (styleOf cs).Suits cs := by
  unfold styleOf
  by_cases hbreak : cs.contains '\n' = true
  · rw [if_pos hbreak]
    split
    · assumption
    · trivial
  · rw [if_neg hbreak]
    have hnot : '\n' ∉ cs := fun hmem => hbreak (List.contains_iff_mem.mpr hmem)
    split
    · rename_i hplain
      simpa only [Style.Suits, Bool.and_eq_true, Bool.not_eq_true'] using hplain
    · split
      · exact ⟨by assumption, hnot⟩
      · trivial

/-! ### Characters -/

/-- The character stands for itself in its line. -/
def isInline (c : Char) : Bool := isPrintable c && !isBreak c

lemma not_isBreak_of_isInline {c : Char} (h : isInline c = true) : isBreak c = false := by
  simp_all [isInline]

lemma not_isBlank_of_isInline {c : Char} (h : isInline c = true) (hc : c ≠ ' ') :
    isBlank c = false := by
  have htab : isInline '\t' = false := by decide
  have hne : c ≠ '\t' := by
    rintro rfl
    rw [htab] at h
    cases h
  simp [isBlank, hc, hne]

lemma not_isBlank_of_isBreak {c : Char} (h : isBreak c = true) : isBlank c = false := by
  have hspace : isBreak ' ' = false := rfl
  have htab : isBreak '\t' = false := rfl
  by_contra hblank
  simp only [isBlank, Bool.not_eq_false, Bool.or_eq_true, decide_eq_true_eq] at hblank
  rcases hblank with rfl | rfl
  · rw [hspace] at h
    cases h
  · rw [htab] at h
    cases h

/-- At a blank and at the end of the text, the scan of a plain text comes to a gap. -/
lemma isGap_of_atBlank {cs : List Char} (h : atBlank cs = true) : isGap cs.head? = true := by
  cases cs with
  | nil => rfl
  | cons c rest =>
    simp only [atBlank, isBlank, Bool.or_eq_true, decide_eq_true_eq] at h
    simp only [List.head?_cons, isGap, Bool.or_eq_true, decide_eq_true_eq]
    tauto

/-! ### One line -/

/-- The gap between two characters of a line. -/
def Gap.ofBlanks (blanks : List Char) : Gap := ⟨blanks, false, [], []⟩

lemma Gap.blank_ofBlanks (blanks : List Char) (c : Char) :
    (Gap.ofBlanks blanks).blank c = .ofBlanks (c :: blanks) := rfl

lemma Gap.text_ofBlanks (blanks : List Char) : (Gap.ofBlanks blanks).text = blanks := rfl

/-- The scan of a plain text goes over a text that stays in its line and has no indicators, also behind the
character `before`. -/
structure Flows (before : Char) (cs : List Char) : Prop where
  inline : ∀ c ∈ cs, isInline c = true
  plain : hasInnerIndicator (before :: cs) = false
  /-- The text does not end in a blank. -/
  last : ∀ c ∈ cs.getLast?, c ≠ ' '

namespace Flows

variable {before c : Char} {cs : List Char}

lemma tail (h : Flows before (c :: cs)) : Flows c cs where
  inline d hd := h.inline d (List.mem_cons_of_mem _ hd)
  plain := by
    have hplain := h.plain
    simp only [hasInnerIndicator, Bool.or_eq_false_iff] at hplain
    exact hplain.2
  last d hd := by
    cases cs with
    | nil => cases hd
    | cons e rest => exact h.last d (by simpa using hd)

lemma not_gap_of_colon (h : Flows before (':' :: cs)) : isGap cs.head? = false := by
  have hplain := h.plain
  simp only [hasInnerIndicator, Bool.or_eq_false_iff] at hplain
  simpa using hplain.1.1

lemma ne_number_sign (h : Flows before (c :: cs)) (hbefore : isGap (some before) = true) :
    c ≠ '#' := by
  rintro rfl
  have hplain := h.plain
  simp [hasInnerIndicator, hbefore] at hplain

/-- A plain text does not end before one of its own characters. -/
lemma endsPlain_eq (h : Flows before (c :: cs)) (tail : List Char) :
    endsPlain false c (cs ++ tail) = false := by
  by_cases hc : c = ':'
  · subst hc
    have hgap := h.not_gap_of_colon
    cases cs with
    | nil => cases hgap
    | cons d rest =>
      have hblank : atBlank (d :: (rest ++ tail)) = false := by
        by_contra hblank
        rw [Bool.not_eq_false] at hblank
        have hisGap := isGap_of_atBlank hblank
        rw [List.head?_cons] at hisGap hgap
        rw [hgap] at hisGap
        cases hisGap
      simp [endsPlain, hblank]
  · simp [endsPlain, hc]

end Flows

/-- The scan goes over a text that stays in its line. The induction is on the text; what is between two
characters is added to the text at the second one. -/
lemma plain?_append (indent : Nat) (tail : List Char) {cs : List Char} :
    ∀ {before : Char} {fresh : Bool} (acc blanks : List Char) (column : Nat), Flows before cs → cs ≠ [] →
      (fresh = true → isGap (some before) = true) →
      plain? false indent acc (.ofBlanks blanks) column fresh (cs ++ tail) =
        plain? false indent (cs.reverse ++ blanks ++ acc) .none (column + cs.length) false tail := by
  induction cs with
  | nil => exact fun _ _ _ _ h => absurd rfl h
  | cons c rest ih =>
    intro before fresh acc blanks column h _ hfresh
    have hinline := h.inline c List.mem_cons_self
    have hcolumn : column + 1 + rest.length = column + (c :: rest).length := by
      rw [List.length_cons]
      omega
    by_cases hc : c = ' '
    · subst hc
      have hrest : rest ≠ [] := by
        rintro rfl
        exact h.last ' ' rfl rfl
      have hblank : isBlank ' ' = true := rfl
      rw [List.cons_append, plain?, hblank, if_pos rfl, if_neg (by simp), Gap.blank_ofBlanks,
        ih acc _ _ h.tail hrest fun _ => rfl, hcolumn]
      simp
    · have hsign : (fresh && c = '#') = false := by
        cases hf : fresh with
        | false => rfl
        | true => simp [h.ne_number_sign (hfresh hf)]
      have hstep : plain? false indent acc (.ofBlanks blanks) column fresh (c :: rest ++ tail) =
          plain? false indent (c :: (blanks ++ acc)) (.ofBlanks []) (column + 1) false
            (rest ++ tail) := by
        rw [List.cons_append, plain?, not_isBlank_of_isInline hinline hc,
          not_isBreak_of_isInline hinline]
        simp [Gap.ofBlanks, hsign, isStrayColon, h.endsPlain_eq tail, Gap.text, Gap.none]
      rw [hstep]
      cases hrest : rest with
      | nil => simp [Gap.ofBlanks, Gap.none]
      | cons d more =>
        have hfalse : false = true → isGap (some c) = true := nofun
        rw [← hrest, ih _ _ _ h.tail (by simp [hrest]) hfalse, hcolumn]
        simp

lemma Flows.of_canBePlain {before : Char} {cs : List Char} (h : canBePlain cs = true)
    (hbefore : isGap (some before) = false) : Flows before cs := by
  simp only [canBePlain, needsEscapes, hasIndicator, Bool.and_eq_true, Bool.not_eq_true',
    Bool.or_eq_false_iff, List.any_eq_false] at h
  obtain ⟨⟨⟨⟨⟨hprintable, -⟩, ⟨-, hleading⟩, hinner⟩, hbreak⟩, -⟩, hlast⟩ := h
  constructor
  · intro c hc
    have hyes := hprintable c hc
    have hno := hbreak c hc
    simp_all [isInline]
  · cases cs with
    | nil => rfl
    | cons c rest =>
      simp only [hasInnerIndicator, hbefore, hinner, Bool.and_false, Bool.or_false,
        Bool.and_eq_false_iff, decide_eq_false_iff_not]
      by_contra! hcolon
      obtain ⟨rfl, hgap⟩ := hcolon
      rw [ne_eq, Bool.not_eq_false] at hgap
      simp [isLeadingIndicator, hgap] at hleading
  · intro c hc hspace
    subst hspace
    rw [Option.mem_def.mp hc] at hlast
    cases hlast

/-! ### The end of the text -/

/-- The text is empty, or the scanner does not pass over its first character. -/
def Starts (cs : List Char) : Prop :=
  ∀ c ∈ cs.head?, isBlank c = false ∧ isBreak c = false ∧ c ≠ '#' ∧ c ≠ '\uFEFF'

lemma starts_cons {c : Char} (rest : List Char)
    (h : isBlank c = false ∧ isBreak c = false ∧ c ≠ '#' ∧ c ≠ '\uFEFF') : Starts (c :: rest) := by
  intro d hd
  obtain rfl := Option.some.inj hd
  exact h

lemma plain?_indented (indent : Nat) (acc : List Char) {g : Gap} (hg : g.broken = true)
    {rest : List Char} (hrest : Starts rest) (n : Nat) : ∀ {column}, column + n < indent →
      plain? false indent acc g column true (spaces n ++ rest) = some ⟨acc.reverse, rest, true⟩ := by
  induction n with
  | zero =>
    intro column hcolumn
    cases rest with
    | nil => simp [spaces, plain?, hg]
    | cons c more =>
      obtain ⟨hblank, hbreak, -⟩ := hrest c rfl
      simp [spaces, plain?, hblank, hbreak, hg, show column < indent by omega]
  | succ n ih =>
    intro column hcolumn
    have hblank : isBlank ' ' = true := rfl
    have hgap : g.blank ' ' = g := by rw [Gap.blank, hg, if_pos rfl]
    rw [spaces, List.replicate_succ, List.cons_append, plain?, hblank, if_pos rfl, if_neg (by simp),
      hgap]
    exact ih (by omega)

/-- A key ends at the colon. -/
lemma plain?_key (indent column : Nat) {cs rest : List Char} (h : canBePlain cs = true)
    (hne : cs ≠ []) (hrest : atBlank rest = true) :
    plain? false indent [] .none column false (cs ++ ':' :: rest) =
      some ⟨cs, ':' :: rest, false⟩ := by
  have hflows : Flows 'x' cs := .of_canBePlain h rfl
  have hfalse : false = true → isGap (some 'x') = true := nofun
  rw [← show Gap.ofBlanks [] = .none from rfl, plain?_append indent _ [] [] column hflows hne hfalse]
  simp [plain?, isStrayColon, endsPlain, hrest, Gap.none, show isBlank ':' = false from rfl,
    show isBreak ':' = false from rfl]

/-- A value ends with its line, if the next line is not further in. -/
lemma plain?_value {indent n : Nat} (column : Nat) {cs rest : List Char} (h : canBePlain cs = true)
    (hne : cs ≠ []) (hn : n < indent) (hrest : Starts rest) :
    plain? false indent [] .none column false (cs ++ '\n' :: (spaces n ++ rest)) =
      some ⟨cs, rest, true⟩ := by
  have hflows : Flows 'x' cs := .of_canBePlain h rfl
  have hfalse : false = true → isGap (some 'x') = true := nofun
  have hbreak : Gap.none.break '\n' = ⟨[], true, ['\n'], []⟩ := rfl
  rw [← show Gap.ofBlanks [] = .none from rfl, plain?_append indent _ [] [] column hflows hne hfalse,
    plain?, show isBlank '\n' = false from rfl, show isBreak '\n' = true from rfl,
    if_neg Bool.false_ne_true, if_pos rfl, hbreak, plain?_indented indent _ rfl hrest n (by omega)]
  simp

end Reindex.Yaml
