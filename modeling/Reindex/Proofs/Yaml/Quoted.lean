import Mathlib.Tactic.Ring
import Reindex.Proofs.Url.Percent
import Reindex.Proofs.Yaml.Unquoted

/-!
# Texts in quotes are read back

In single quotes every line is written as it is, and only quotes are doubled. In double quotes the text
stays on one line, and what cannot stand for itself is escaped.
-/

namespace Reindex.Yaml

open Text

/-! ### Single quotes -/

/-- A text that can stand in single quotes, behind the character `before`. -/
structure Lines (before : Char) (cs : List Char) : Prop where
  printable : ∀ c ∈ cs, isPrintable c = true
  /-- No space is lost at the end of a line. -/
  spaceBreak : hasSpaceBreak (before :: cs) = false
  /-- No space is lost at the beginning of a line. -/
  breakSpace : hasBreakSpace (before :: cs) = false
  /-- No line break is read as a space. -/
  foldless : '\n' ∉ cs

namespace Lines

variable {before c : Char} {cs : List Char}

lemma tail (h : Lines before (c :: cs)) : Lines c cs where
  printable d hd := h.printable d (List.mem_cons_of_mem _ hd)
  spaceBreak := by
    have hpair := h.spaceBreak
    simp only [hasSpaceBreak, hasPair, Bool.or_eq_false_iff] at hpair
    exact hpair.2
  breakSpace := by
    have hpair := h.breakSpace
    simp only [hasBreakSpace, hasPair, Bool.or_eq_false_iff] at hpair
    exact hpair.2
  foldless hmem := h.foldless (List.mem_cons_of_mem _ hmem)

lemma ne_space_of_break (h : Lines before (c :: cs)) (hbefore : isBreak before = true) : c ≠ ' ' := by
  rintro rfl
  have hpair := h.breakSpace
  simp [hasBreakSpace, hasPair, hbefore] at hpair

lemma ne_space_of_isBreak (h : Lines before (c :: cs)) (hc : isBreak c = true) : before ≠ ' ' := by
  rintro rfl
  have hpair := h.spaceBreak
  simp [hasSpaceBreak, hasPair, hc] at hpair

lemma ne_newline (h : Lines before (c :: cs)) : c ≠ '\n' := by
  rintro rfl
  exact h.foldless List.mem_cons_self

end Lines

/-- The gap between two lines. -/
def Gap.ofBreaks (first : Char) (further : List Char) : Gap := ⟨[], true, [first], further⟩

lemma Gap.text_ofBreaks {first : Char} (h : first ≠ '\n') (further : List Char) :
    (Gap.ofBreaks first further).text = further ++ [first] := by
  simp [Gap.text, Gap.ofBreaks, h]

section

variable {acc : List Char} {g : Gap} {first : Bool} {c : Char} {rest : List Char}

lemma singleQuoted?_blank (h : isBlank c = true) :
    singleQuoted? acc g first (c :: rest) = singleQuoted? acc (g.blank c) false rest := by
  rw [singleQuoted?.eq_def]
  simp [h]

lemma singleQuoted?_break (hblank : isBlank c = false) (h : isBreak c = true) :
    singleQuoted? acc g first (c :: rest) = singleQuoted? acc (g.break c) true rest := by
  rw [singleQuoted?.eq_def]
  simp [hblank, h]

/-- A character that is no blank and no break goes behind what was between it and the one before. -/
lemma singleQuoted?_cons (hblank : isBlank c = false) (hbreak : isBreak c = false) :
    singleQuoted? acc g false ((if c = '\'' then ['\'', '\''] else [c]) ++ rest) =
      singleQuoted? (c :: (g.text ++ acc)) .none false rest := by
  by_cases hc : c = '\''
  · subst hc
    rw [if_pos rfl, List.cons_append, singleQuoted?.eq_def]
    simp [hblank, hbreak]
  · rw [if_neg hc, List.cons_append, singleQuoted?.eq_def]
    simp [hblank, hbreak, hc]

lemma singleQuoted?_quote (h : rest.head? ≠ some '\'') :
    singleQuoted? acc g false ('\'' :: rest) = some ⟨(g.text ++ acc).reverse, rest, false⟩ := by
  rw [singleQuoted?.eq_def]
  cases rest with
  | nil => simp [isBlank, isBreak]
  | cons d more =>
    have hd : d ≠ '\'' := by simpa using h
    simp [isBlank, isBreak, hd]

/-- Where a line has been broken, blanks do not count. -/
lemma singleQuoted?_spaces (hg : g.broken = true) (n : Nat) :
    singleQuoted? acc g first (spaces (n + 1) ++ rest) = singleQuoted? acc g false rest := by
  have hgap : g.blank ' ' = g := by rw [Gap.blank, hg, if_pos rfl]
  induction n generalizing first with
  | zero => exact (singleQuoted?_blank rfl).trans (by rw [hgap]; rfl)
  | succ n ih =>
    rw [spaces, List.replicate_succ, List.cons_append, singleQuoted?_blank rfl, hgap]
    exact ih

end

/-- The text is read up to the quote at its end. The induction is on the text; it may go on in a line or
begin a new one. -/
lemma singleQuoted?_body (indent : Nat) (rest : List Char) (hrest : rest.head? ≠ some '\'')
    {cs : List Char} : ∀ {before : Char} (acc : List Char), Lines before cs →
      (∀ blanks, (blanks ≠ [] → before = ' ') →
        singleQuoted? acc (.ofBlanks blanks) false (singleBody (indent + 1) false cs ++ '\'' :: rest) =
          some ⟨(cs.reverse ++ blanks ++ acc).reverse, rest, false⟩) ∧
      ∀ first further, first ≠ '\n' → isBreak before = true →
        singleQuoted? acc (.ofBreaks first further) true
            (singleBody (indent + 1) true cs ++ '\'' :: rest) =
          some ⟨(cs.reverse ++ further ++ first :: acc).reverse, rest, false⟩ := by
  induction cs with
  | nil =>
    intro before acc h
    constructor
    · intro blanks hbefore
      simp [singleBody, singleQuoted?_quote hrest, Gap.text_ofBlanks]
    · intro first further hfirst hbefore
      rw [singleBody, if_pos rfl, singleQuoted?_spaces rfl, singleQuoted?_quote hrest,
        Gap.text_ofBreaks hfirst]
      simp
  | cons c cs ih =>
    intro before acc h
    cases hbreak : isBreak c with
    | true =>
      have hblank : isBlank c = false := not_isBlank_of_isBreak hbreak
      constructor
      · intro blanks hbefore
        have hnone : blanks = [] := by
          by_contra hne
          exact h.ne_space_of_isBreak hbreak (hbefore hne)
        subst hnone
        have hnext := (ih acc h.tail).2 c [] h.ne_newline hbreak
        rw [singleBody, hbreak, if_pos rfl, List.cons_append, singleQuoted?_break hblank hbreak]
        simpa [Gap.break, Gap.ofBlanks, Gap.ofBreaks] using hnext
      · intro first further hfirst hbefore
        have hnext := (ih acc h.tail).2 first (c :: further) hfirst hbreak
        rw [singleBody, hbreak, if_pos rfl, List.cons_append, singleQuoted?_break hblank hbreak]
        simpa [Gap.break, Gap.ofBreaks] using hnext
    | false =>
      have hinline : isInline c = true := by
        simp [isInline, h.printable c List.mem_cons_self, hbreak]
      constructor
      · intro blanks hbefore
        rw [singleBody, hbreak, if_neg Bool.false_ne_true, if_neg Bool.false_ne_true, List.nil_append,
          List.append_assoc]
        by_cases hc : c = ' '
        · subst hc
          have hnext := (ih acc h.tail).1 (' ' :: blanks) fun _ => rfl
          rw [if_neg (by decide), List.singleton_append, singleQuoted?_blank rfl, Gap.blank_ofBlanks]
          simpa using hnext
        · have hnext := (ih (c :: (blanks ++ acc)) h.tail).1 [] (absurd rfl)
          rw [singleQuoted?_cons (not_isBlank_of_isInline hinline hc) hbreak, Gap.text_ofBlanks]
          simpa [Gap.ofBlanks, Gap.none] using hnext
      · intro first further hfirst hbefore
        have hc := h.ne_space_of_break hbefore
        have hnext := (ih (c :: (further ++ first :: acc)) h.tail).1 [] (absurd rfl)
        rw [singleBody, hbreak, if_neg Bool.false_ne_true, if_pos rfl, List.append_assoc,
          List.append_assoc, singleQuoted?_spaces rfl,
          singleQuoted?_cons (not_isBlank_of_isInline hinline hc) hbreak, Gap.text_ofBreaks hfirst]
        simpa [Gap.ofBlanks, Gap.none] using hnext

lemma Lines.of_canBeSingle {cs : List Char} (h : canBeSingle cs = true) (hfoldless : '\n' ∉ cs) :
    Lines 'x' cs := by
  simp only [canBeSingle, needsEscapes, Bool.and_eq_true, Bool.not_eq_true', Bool.or_eq_false_iff,
    List.any_eq_false, Bool.not_eq_false] at h
  obtain ⟨⟨hprintable, hspaceBreak⟩, hbreakSpace⟩ := h
  have hx : isBreak 'x' = false := by decide
  refine ⟨hprintable, ?_, ?_, hfoldless⟩
  · cases cs with
    | nil => rfl
    | cons c rest => simpa [hasSpaceBreak, hasPair] using hspaceBreak
  · cases cs with
    | nil => rfl
    | cons c rest => simpa [hasBreakSpace, hasPair, hx] using hbreakSpace

lemma singleQuoted?_text (indent : Nat) {cs rest : List Char} (h : canBeSingle cs = true)
    (hfoldless : '\n' ∉ cs) (hrest : rest.head? ≠ some '\'') :
    singleQuoted? [] .none false (singleBody (indent + 1) false cs ++ '\'' :: rest) =
      some ⟨cs, rest, false⟩ := by
  have hread := (singleQuoted?_body indent rest hrest [] (.of_canBeSingle h hfoldless)).1 [] (absurd rfl)
  simpa [Gap.ofBlanks, Gap.none] using hread

/-! ### Double quotes -/

section

variable {acc : List Char} {g : Gap} {c : Char} {rest : List Char}

lemma doubleQuoted?_blank (h : isBlank c = true) :
    doubleQuoted? acc g false (c :: rest) = doubleQuoted? acc (g.blank c) false rest := by
  rw [doubleQuoted?.eq_def]
  simp [h]

lemma doubleQuoted?_cons (hblank : isBlank c = false) (hbreak : isBreak c = false) (hquote : c ≠ '"')
    (hbackslash : c ≠ '\\') : doubleQuoted? acc g false (c :: rest) =
      doubleQuoted? (c :: (g.text ++ acc)) .none false rest := by
  rw [doubleQuoted?.eq_def]
  simp [hblank, hbreak, hquote, hbackslash]

lemma doubleQuoted?_quote :
    doubleQuoted? acc g false ('"' :: rest) = some ⟨(g.text ++ acc).reverse, rest, false⟩ := by
  rw [doubleQuoted?.eq_def]
  simp [isBlank, isBreak]

/-- A backslash and a letter stand for a character. -/
lemma doubleQuoted?_letter {e d : Char} (he : isBreak e = false) (hlength : escapeLength? e = none)
    (hletter : letterEscape? e = some d) : doubleQuoted? acc g false ('\\' :: e :: rest) =
      doubleQuoted? (d :: (g.text ++ acc)) .none false rest := by
  have hblank : isBlank '\\' = false := by decide
  have hbreak : isBreak '\\' = false := by decide
  rw [doubleQuoted?.eq_def]
  simp [hblank, hbreak, he, hlength, hletter]

/-- A backslash, a letter and some digits stand for a character. -/
lemma doubleQuoted?_digits {e d : Char} {digits : List Char} (he : isBreak e = false)
    (hlength : escapeLength? e = some digits.length)
    (hvalue : (hexValue? 0 digits).bind charOf? = some d) :
    doubleQuoted? acc g false ('\\' :: e :: (digits ++ rest)) =
      doubleQuoted? (d :: (g.text ++ acc)) .none false rest := by
  have hblank : isBlank '\\' = false := by decide
  have hbreak : isBreak '\\' = false := by decide
  rw [doubleQuoted?.eq_def]
  simp [hblank, hbreak, he, hlength, hvalue]

end

lemma length_hexOfWidth (width n : Nat) : (hexOfWidth width n).length = width := by
  simp [hexOfWidth]

lemma hexOfWidth_succ (width n : Nat) :
    hexOfWidth (width + 1) n = upperHex (n >>> (4 * width) % 16) :: hexOfWidth width n := by
  simp [hexOfWidth, List.range_succ]

/-- As many digits as asked for give the number, less what they have no room for. -/
lemma hexValue?_hexOfWidth (n : Nat) (width : Nat) : ∀ acc,
    hexValue? acc (hexOfWidth width n) = some (acc * 16 ^ width + n % 16 ^ width) := by
  induction width with
  | zero =>
    intro acc
    simp [hexOfWidth, hexValue?, Nat.mod_one]
  | succ width ih =>
    intro acc
    have hdigit : n >>> (4 * width) % 16 * 16 ^ width + n % 16 ^ width = n % 16 ^ (width + 1) := by
      rw [Nat.shiftRight_eq_div_pow, Nat.pow_mul, Nat.pow_succ (n := 16), Nat.mod_mul,
        Nat.mul_comm (16 ^ width), Nat.add_comm]
    rw [hexOfWidth_succ, hexValue?, hexDigit?_upperHex (Nat.mod_lt _ (by decide))]
    dsimp only
    rw [ih, ← hdigit, Nat.pow_succ]
    congr 1
    ring

lemma charOf?_toNat (c : Char) : charOf? c.toNat = some c := by
  have hvalid : c.toNat.isValidChar := c.valid
  rw [charOf?, if_pos hvalid, Char.ofNat_toNat]

/-- A character is read from its number. -/
lemma bind_hexValue?_toNat {c : Char} {width : Nat} (h : c.toNat < 16 ^ width) :
    (hexValue? 0 (hexOfWidth width c.toNat)).bind charOf? = some c := by
  rw [hexValue?_hexOfWidth, Nat.zero_mul, Nat.zero_add, Nat.mod_eq_of_lt h]
  exact charOf?_toNat c

/-- Every character is read from what is written for it. -/
lemma doubleQuoted?_escaped (acc blanks rest : List Char) {c : Char} (hc : c ≠ ' ') :
    doubleQuoted? acc (.ofBlanks blanks) false (escaped c ++ rest) =
      doubleQuoted? (c :: (blanks ++ acc)) .none false rest := by
  rw [← Gap.text_ofBlanks blanks]
  by_cases hmark : c = '"' ∨ c = '\\'
  · have hescaped : escaped c = ['\\', c] := by
      rw [escaped, if_pos (by simpa using hmark)]
    rw [hescaped]
    rcases hmark with rfl | rfl
    · exact doubleQuoted?_letter (by decide) (by decide) (by decide)
    · exact doubleQuoted?_letter (by decide) (by decide) (by decide)
  have hunmarked : ¬ (c = '"' || c = '\\') = true := by simpa using hmark
  rw [not_or] at hmark
  cases hinline : isInline c with
  | true =>
    have hescaped : escaped c = [c] := by
      rw [isInline] at hinline
      rw [escaped, if_neg hunmarked, if_pos hinline]
    rw [hescaped]
    exact doubleQuoted?_cons (not_isBlank_of_isInline hinline hc) (not_isBreak_of_isInline hinline)
      hmark.1 hmark.2
  | false =>
    have hletter : ∀ {n : Nat} {e : Char}, c.toNat = n → isBreak e = false → escapeLength? e = none →
        letterEscape? e = some (Char.ofNat n) →
        doubleQuoted? acc (.ofBlanks blanks) false ('\\' :: [e] ++ rest) =
          doubleQuoted? (c :: ((Gap.ofBlanks blanks).text ++ acc)) .none false rest := by
      intro n e hn he hlength hletter
      rw [← hn, Char.ofNat_toNat] at hletter
      exact doubleQuoted?_letter he hlength hletter
    have hdigits : ∀ {width : Nat} {e : Char}, c.toNat < 16 ^ width → isBreak e = false →
        escapeLength? e = some width →
        doubleQuoted? acc (.ofBlanks blanks) false ('\\' :: (e :: hexOfWidth width c.toNat) ++ rest) =
          doubleQuoted? (c :: ((Gap.ofBlanks blanks).text ++ acc)) .none false rest := by
      intro width e hwidth he hlength
      rw [← length_hexOfWidth width c.toNat] at hlength
      exact doubleQuoted?_digits he hlength (bind_hexValue?_toNat hwidth)
    rw [escaped, if_neg hunmarked, if_neg (by rw [isInline] at hinline; simp [hinline])]
    split
    case h_13 =>
      have hlt : c.toNat < 16 ^ 8 := by
        have hvalid : c.toNat < 0xD800 ∨ 0xDFFF < c.toNat ∧ c.toNat < 0x110000 := c.valid
        omega
      split
      · exact hdigits (by omega) (by decide) (by decide)
      · split
        · exact hdigits (by omega) (by decide) (by decide)
        · exact hdigits hlt (by decide) (by decide)
    all_goals exact hletter ‹_› (by decide) (by decide) (by decide)

/-- The text is read up to the quote at its end. -/
lemma doubleQuoted?_body (rest : List Char) {cs : List Char} : ∀ acc blanks : List Char,
    doubleQuoted? acc (.ofBlanks blanks) false (cs.flatMap escaped ++ '"' :: rest) =
      some ⟨(cs.reverse ++ blanks ++ acc).reverse, rest, false⟩ := by
  induction cs with
  | nil =>
    intro acc blanks
    simp [doubleQuoted?_quote, Gap.text_ofBlanks]
  | cons c cs ih =>
    intro acc blanks
    rw [List.flatMap_cons, List.append_assoc]
    by_cases hc : c = ' '
    · subst hc
      have hescaped : escaped ' ' = [' '] := by decide
      rw [hescaped, List.singleton_append, doubleQuoted?_blank rfl, Gap.blank_ofBlanks, ih]
      simp
    · rw [doubleQuoted?_escaped acc blanks _ hc]
      refine (ih (c :: (blanks ++ acc)) []).trans ?_
      simp

lemma doubleQuoted?_text (cs rest : List Char) :
    doubleQuoted? [] .none false (cs.flatMap escaped ++ '"' :: rest) = some ⟨cs, rest, false⟩ := by
  refine (doubleQuoted?_body rest [] []).trans ?_
  simp

end Reindex.Yaml
