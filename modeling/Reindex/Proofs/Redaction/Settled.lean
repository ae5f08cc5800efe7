import Reindex.Proofs.Redaction.Absence

/-!
# Values that have been replaced

A text is settled if the value behind each name is what takes its place. Replacing values settles a text, and
it leaves a settled text as it is. Replacing long runs of Base64 afterwards unsettles a text in one way only:
behind such a run, and without a word boundary in between, there may be a name that begins with a letter beyond
ASCII, and when the run is replaced, a word begins there.
-/

namespace Reindex.Redaction

open Text

variable {m : Matcher} {inner cs front back rest done label value : List Char} {before : Option Char}

/-- The value behind each name is what takes its place. -/
def Settled (cs : List Char) : Prop :=
  ∀ front back label value rest, cs = front ++ back → isWordStart front.getLast? = true →
    IsPair back label value rest → value = "[REDACTED]".toList

lemma Settled.replaceAll_eq (h : Settled cs) : replaceAll sensitivePair cs = cs := by
  refine replaceAll_eq_self marks_sensitivePair fun front back hit heq hhit => ?_
  obtain ⟨hstart, label, value, rest, hpair, rfl⟩ := sensitivePair_eq_some_iff.mp hhit
  rw [hpair.text, ← List.append_assoc, pairHit, List.take_left,
    h front back label value rest heq hstart hpair]

/-! ### Labels in what is put out -/

/-- Behind what is kept of a passage, the passage has a character of a value. -/
def Values (m : Matcher) (inner : List Char) : Prop :=
  ∀ before cs hit kept, m before cs = some hit → hit.replacement = kept ++ '[' :: (inner ++ [']']) →
    ∃ c more, cs = kept ++ c :: more ∧ isValueChar c = true

lemma values_sensitivePair : Values sensitivePair "REDACTED".toList := by
  intro before cs hit kept hhit hkept
  obtain ⟨-, label, value, rest, hpair, rfl⟩ := sensitivePair_eq_some_iff.mp hhit
  obtain rfl : label = kept := List.append_cancel_right hkept
  obtain ⟨c, value, rfl⟩ := List.exists_cons_of_ne_nil hpair.ne_nil
  exact ⟨c, value ++ rest, hpair.text, hpair.value c List.mem_cons_self⟩

lemma values_longBase64 : Values longBase64 "REDACTED_BASE64".toList := by
  intro before cs hit kept hhit hkept
  rw [longBase64_brackets _ _ _ hhit] at hkept
  obtain rfl : kept = [] := List.append_left_eq_self.mp hkept.symm
  obtain ⟨-, _, rfl, hbegins⟩ := (sought_longBase64.isSome_iff before cs).mp (by rw [hhit]; rfl)
  cases cs with
  | nil => exact hbegins.elim
  | cons c cs =>
    have hc : isBase64Char c = true := hbegins.1
    simp only [isBase64Char, Bool.or_eq_true, decide_eq_true_eq] at hc
    refine ⟨c, cs, rfl, ?_⟩
    rcases hc with (hc | rfl) | rfl
    · exact isValueChar_of_isAlphanum hc
    · rfl
    · rfl

/-- A text that stands in front of a value in the result stood in front of one in the original. -/
lemma Values.exists_of_replaceFrom (hvalues : Values m inner) (hm : Marks m inner) {x out : List Char}
    {c : Char} (hx : '[' ∉ x) (hc : isValueChar c = true)
    (h : replaceFrom m 0 before cs = x ++ c :: out) :
    ∃ d more, cs = x ++ d :: more ∧ isValueChar d = true := by
  induction cs generalizing x before with
  | nil => exact absurd h.symm (List.append_ne_nil_of_right_ne_nil x (List.cons_ne_nil c out))
  | cons e cs ih =>
    cases hhit : m before (e :: cs) with
    | none =>
      rw [replaceFrom_of_none hhit] at h
      cases x with
      | nil =>
        obtain ⟨rfl, -⟩ := List.cons.inj h
        exact ⟨e, cs, rfl, hc⟩
      | cons x xs =>
        obtain ⟨rfl, hrest⟩ := List.cons.inj h
        obtain ⟨d, more, rfl, hd⟩ := ih (fun hmem => hx (List.mem_cons_of_mem e hmem)) hrest
        exact ⟨d, more, rfl, hd⟩
    | some hit =>
      obtain ⟨kept, hkept⟩ := hm.exists_kept hhit
      obtain ⟨d, more, htext, hd⟩ := hvalues _ _ _ kept hhit hkept
      rw [replaceFrom_of_some hhit, hkept, List.append_assoc, List.cons_append] at h
      rw [htext]
      rcases List.append_eq_append_iff.mp h with ⟨a, rfl, ha⟩ | ⟨a, rfl, ha⟩
      · cases a with
        | nil => exact ⟨d, more, by rw [List.append_nil], hd⟩
        | cons b a =>
          obtain ⟨rfl, -⟩ := List.cons.inj ha
          exact absurd (List.mem_append_right kept List.mem_cons_self) hx
      · cases a with
        | nil => exact ⟨d, more, by rw [List.append_nil], hd⟩
        | cons b a =>
          obtain ⟨rfl, -⟩ := List.cons.inj ha
          exact ⟨c, a ++ d :: more, by simp, hc⟩

/-- A pair that a word begins with in the result was one in the text, with the same label. -/
lemma Values.exists_pair (hvalues : Values m inner) (hm : Marks m inner) {value rest : List Char}
    (h : IsPair (replaceFrom m 0 before cs) label value rest) :
    ∃ value' rest', IsPair cs label value' rest' := by
  obtain ⟨c, value, rfl⟩ := List.exists_cons_of_ne_nil h.ne_nil
  obtain ⟨d, more, rfl, hd⟩ := hvalues.exists_of_replaceFrom hm (h.label.not_mem (.inl rfl))
    (h.value c List.mem_cons_self) h.text
  exact ⟨_, _, .of_label h.label hd more⟩

/-! ### Names inside of what takes the place of passages -/

lemma not_isFormOf_of_breaks {c : Char} (hc : isValueChar c = false) :
    ∀ w ∈ initials, isFormOf w c = false := by
  have hwords : ∀ w ∈ initials, isValueChar w = true := List.all_eq_true.mp (by decide)
  exact fun w hw => isFormOf_of_not_isValueChar hc (hwords w hw)

lemma not_isFormOf_of_sign {c : Char} (hc : c = '=' ∨ c = ':') : ∀ w ∈ initials, isFormOf w c = false := by
  have hwords : ∀ w ∈ initials, (!isFormOf w '=' && !isFormOf w ':') = true :=
    List.all_eq_true.mp (by decide)
  intro w hw
  have hword := hwords w hw
  rw [Bool.and_eq_true, Bool.not_eq_true', Bool.not_eq_true'] at hword
  rcases hc with rfl | rfl
  · exact hword.1
  · exact hword.2

/-- Inside of these texts, where a word begins there is no name. -/
lemma text_facts : ∀ text ∈ ["[REDACTED]".toList, "[REDACTED_BASE64]".toList], ∀ n < text.length,
    isWordStart (text.take n).getLast? = true →
      ((text.drop n).head?.all fun c => initials.all fun w => !isFormOf w c) = true := by
  decide

lemma not_isFormOf_in_text {text w more : List Char} {c : Char}
    (htext : text ∈ ["[REDACTED]".toList, "[REDACTED_BASE64]".toList]) (hsplit : text = w ++ c :: more)
    (hstart : isWordStart w.getLast? = true) : ∀ i ∈ initials, isFormOf i c = false := by
  have hlength : w.length < text.length := by
    rw [hsplit, List.length_append, List.length_cons]
    omega
  have hfacts := text_facts text htext w.length hlength
  rw [hsplit, List.take_left, List.drop_left] at hfacts
  have hall := hfacts hstart
  rw [List.head?_cons, Option.all_some, List.all_eq_true] at hall
  exact fun i hi => by simpa using hall i hi

/-- Inside of a label and of the text behind it, where a word begins there is no name. -/
lemma IsLabel.not_isFormOf_inside (h : IsLabel label) {w more : List Char} {c : Char}
    (hsplit : label ++ "[REDACTED]".toList = w ++ c :: more) (hw : w ≠ [])
    (hstart : isWordStart w.getLast? = true) : ∀ i ∈ initials, isFormOf i c = false := by
  obtain ⟨hword, hletters, hgap, hsign, hspace⟩ := h
  rename_i word letters gap sign space
  have hseparator : ∀ d ∈ gap ++ sign :: space, ∀ i ∈ initials, isFormOf i d = false := by
    have hblank : ∀ d, isBlankChar d = true → ∀ i ∈ initials, isFormOf i d = false := fun d hd =>
      not_isFormOf_of_breaks (by rw [isValueChar, hd]; rfl)
    intro d hd
    rcases List.mem_append.mp hd with hd | hd
    · exact hblank d (hgap d hd)
    · rcases List.mem_cons.mp hd with rfl | hd
      · exact not_isFormOf_of_sign hsign
      · exact hblank d (hspace d hd)
  rw [List.append_assoc] at hsplit
  rcases List.append_eq_append_iff.mp hsplit with ⟨a, rfl, ha⟩ | ⟨a, rfl, ha⟩
  · rcases List.append_eq_append_iff.mp ha with ⟨b, rfl, hb⟩ | ⟨b, hb, ha⟩
    · refine not_isFormOf_in_text List.mem_cons_self hb ?_
      by_cases hb : b = []
      · rw [hb]
        rfl
      · rwa [← List.append_assoc, List.getLast?_append_of_ne_nil _ hb] at hstart
    · cases b with
      | nil =>
        obtain ⟨rfl, -⟩ := List.cons.inj ha
        exact not_isFormOf_in_text (w := []) List.mem_cons_self rfl rfl
      | cons d b =>
        obtain ⟨rfl, -⟩ := List.cons.inj ha
        exact hseparator c (by rw [hb]; exact List.mem_append_right a List.mem_cons_self)
  · -- The last character of `w` is a letter of the name.
    obtain ⟨xs, d, rfl⟩ := (List.eq_nil_or_concat' w).resolve_left hw
    obtain ⟨l, hl, hform⟩ := exists_isFormOf hletters d (by simp)
    rw [List.getLast?_concat, isWordStart, Option.any_some,
      isWordChar_of_isFormOf hword hl hform] at hstart
    cases hstart

/-- Where a value breaks off there is no pair. -/
lemma Breaks.not_isPair {q : List Char} (hq : Breaks q) : ¬ IsPair q label value rest := by
  intro h
  obtain ⟨c, letters, hlabel, w, hw, hform⟩ := h.label.exists_head
  have hc : isValueChar c = false := hq c (by rw [h.text, hlabel]; rfl)
  rw [not_isFormOf_of_breaks hc w hw] at hform
  cases hform

/-! ### Replacing values -/

/-- Replacing values settles a text. -/
lemma settled_replaceAll (cs : List Char) : Settled (replaceAll sensitivePair cs) := by
  intro front' back' label' value' rest' heq hstart hpair'
  cases place_of_replaceAll marks_sensitivePair heq with
  | @kept front rest _ h hnone =>
    rcases h.getLast?_eq_or with hlast | ⟨front, passage, _, hit, rfl, -, hhit, hpassage⟩
    · -- The pair was there, and it would have been found.
      obtain ⟨value, more, hpair⟩ := values_sensitivePair.exists_pair marks_sensitivePair hpair'
      rw [hpair.sensitivePair_eq (by rwa [← hlast])] at hnone
      cases hnone
    · obtain ⟨-, label, value, more, hpair, rfl⟩ := sensitivePair_eq_some_iff.mp hhit
      obtain ⟨-, rfl⟩ := hpair.covers.unique hpassage
      have hbreaks := hpair.breaks.replaceFrom (fun _ => sensitivePair_of_not_isValueChar)
        (front ++ passage).getLast?
      exact absurd hpair' hbreaks.not_isPair
  | @inside front passage rest done hit w y h hhit hpassage hsplit hy =>
    obtain ⟨-, label, value, more, hpair, rfl⟩ := sensitivePair_eq_some_iff.mp hhit
    obtain ⟨-, rfl⟩ := hpair.covers.unique hpassage
    rw [pairHit] at hsplit
    dsimp only at hsplit
    by_cases hw : w = []
    · rw [hw, List.nil_append] at hsplit
      have hbreaks := hpair.breaks.replaceFrom (fun _ => sensitivePair_of_not_isValueChar)
        (front ++ passage).getLast?
      rw [← hsplit, List.append_assoc] at hpair'
      have hhere : IsPair _ label "[REDACTED]".toList _ :=
        ⟨rfl, hpair.label, by decide, List.all_eq_true.mp (by decide), hbreaks⟩
      exact (hhere.unique hpair').2.1
    · obtain ⟨c, y, rfl⟩ := List.exists_cons_of_ne_nil hy
      obtain ⟨d, letters, hlabel, i, hi, hform⟩ := hpair'.label.exists_head
      have htext := hpair'.text
      rw [hlabel] at htext
      obtain ⟨rfl, -⟩ := List.cons.inj htext
      rw [List.getLast?_append_of_ne_nil _ hw] at hstart
      rw [hpair.label.not_isFormOf_inside hsplit hw hstart i hi] at hform
      cases hform

end Reindex.Redaction
