import Reindex.Proofs.Redaction.Pairs
import Reindex.Proofs.Redaction.Places
import Reindex.Proofs.Text.Blank

/-!
# Names and values in a text

The value behind the name of a secret is found wherever the text can be taken apart into the name, the sign
with blanks around it, the value, and what it breaks off at. There is one way at most to do so.
-/

namespace Reindex.Redaction

open Text

variable {cs label value rest : List Char} {before : Option Char} {hit : Hit} {c : Char}

/-! ### Names -/

lemma behindWord?_append {word letters : List Char} (h : behindWord? word letters = some [])
    (rest : List Char) : behindWord? word (letters ++ rest) = some rest := by
  induction word generalizing letters with
  | nil =>
    cases h
    rfl
  | cons w word ih =>
    cases letters with
    | nil => cases h
    | cons c letters =>
      rw [behindWord?] at h
      rw [List.cons_append, behindWord?]
      split at h
      · rename_i hc
        rw [if_pos hc, ih h]
      · cases h

/-- The letters of a word are taken off the text. -/
lemma exists_letters_of_behindWord? {word : List Char} (h : behindWord? word cs = some rest) :
    ∃ letters, cs = letters ++ rest ∧ behindWord? word letters = some [] := by
  induction word generalizing cs with
  | nil =>
    cases h
    exact ⟨[], rfl, rfl⟩
  | cons w word ih =>
    cases cs with
    | nil => cases h
    | cons c cs =>
      rw [behindWord?] at h
      split at h
      · rename_i hc
        obtain ⟨letters, rfl, hletters⟩ := ih h
        exact ⟨c :: letters, rfl, by rw [behindWord?, if_pos hc, hletters]⟩
      · cases h

lemma exists_isFormOf {word letters : List Char} (h : behindWord? word letters = some []) :
    ∀ c ∈ letters, ∃ w ∈ word, isFormOf w c = true := by
  induction word generalizing letters with
  | nil =>
    cases h
    intro c hc
    cases hc
  | cons w word ih =>
    cases letters with
    | nil =>
      intro c hc
      cases hc
    | cons d letters =>
      rw [behindWord?] at h
      split at h
      · rename_i hd
        intro c hc
        rcases List.mem_cons.mp hc with rfl | hc
        · exact ⟨w, List.mem_cons_self, hd⟩
        · obtain ⟨w', hw', hc⟩ := ih h c hc
          exact ⟨w', List.mem_cons_of_mem w hw', hc⟩
      · cases h

/-! ### Labels in any form -/

/-- A label stands in front of a value: the name of a secret in any forms of its letters, and a sign with
blanks around it. -/
inductive IsLabel : List Char → Prop
  | intro {word : String} (hword : word ∈ sensitiveWords) {letters gap : List Char} {sign : Char}
      {space : List Char} (hletters : behindWord? word.toList letters = some [])
      (hgap : ∀ c ∈ gap, isBlankChar c = true) (hsign : sign = '=' ∨ sign = ':')
      (hspace : ∀ c ∈ space, isBlankChar c = true) : IsLabel (letters ++ (gap ++ sign :: space))

namespace IsLabel

/-- A property of names, signs and blanks is one of labels. -/
lemma of_mem {f : Char → Bool} (h : IsLabel label)
    (hname : ∀ word ∈ sensitiveWords, ∀ w ∈ word.toList, ∀ c, isFormOf w c = true → f c = true)
    (hblank : ∀ c, isBlankChar c = true → f c = true) (hequals : f '=' = true) (hcolon : f ':' = true) :
    ∀ c ∈ label, f c = true := by
  obtain ⟨hword, hletters, hgap, hsign, hspace⟩ := h
  intro c hc
  rcases List.mem_append.mp hc with hc | hc
  · obtain ⟨w, hw, hform⟩ := exists_isFormOf hletters c hc
    exact hname _ hword w hw c hform
  · rcases List.mem_append.mp hc with hc | hc
    · exact hblank c (hgap c hc)
    · rcases List.mem_cons.mp hc with rfl | hc
      · rcases hsign with rfl | rfl
        · exact hequals
        · exact hcolon
      · exact hblank c (hspace c hc)

/-- No bracket stands in a label. -/
lemma not_mem (h : IsLabel label) {d : Char} (hd : d = '[' ∨ d = ']') : d ∉ label := by
  have hplain : d.isAlphanum = false := by rcases hd with rfl | rfl <;> rfl
  have hblank : isBlankChar d = false := by rcases hd with rfl | rfl <;> rfl
  have hwords : ∀ word ∈ sensitiveWords, word.toList.all (· != d) = true := by
    rcases hd with rfl | rfl <;> decide
  intro hmem
  have hne := h.of_mem (f := (· != d)) (fun word hword w hw c => of_isFormOf
      (fun c hc => bne_iff_ne.mpr (ne_of_isAlphanum hc hplain)) hwords
      (by rcases hd with rfl | rfl <;> rfl) (by rcases hd with rfl | rfl <;> rfl) hword hw)
    (fun c hc => bne_iff_ne.mpr fun heq => by rw [← heq, hc] at hblank; cases hblank)
    (by rcases hd with rfl | rfl <;> rfl) (by rcases hd with rfl | rfl <;> rfl) d hmem
  exact bne_iff_ne.mp hne rfl

lemma isFormOf_b (h : IsLabel label) : ∀ c ∈ label, isFormOf 'b' c = false := by
  have hwords : ∀ word ∈ sensitiveWords, 'b' ∉ word.toList := by decide
  have hforms := h.of_mem (f := fun c => !isFormOf 'b' c) (fun word hword w hw c hc => ?_)
    (fun c hc => ?_) rfl rfl
  · intro c hc
    simpa using hforms c hc
  · simp only [isFormOf, Bool.or_eq_true, Bool.and_eq_true, decide_eq_true_eq] at hc
    rcases hc with (rfl | ⟨-, rfl⟩) | ⟨-, rfl⟩
    · have hne : c.toLower ≠ 'b' := fun heq => hwords word hword (heq ▸ hw)
      simp [isFormOf, hne]
    · decide
    · decide
  · have hvalue : isValueChar c = false := by
      rw [isValueChar, hc]
      rfl
    rw [isFormOf_of_not_isValueChar hvalue rfl]
    rfl

lemma exists_head (h : IsLabel label) :
    ∃ c rest, label = c :: rest ∧ ∃ w ∈ initials, isFormOf w c = true := by
  obtain ⟨hword, hletters, -, -, -⟩ := h
  rename_i word letters gap sign space
  obtain ⟨w, hw, hhead⟩ := exists_initial word hword
  obtain ⟨more, hmore⟩ := List.head?_eq_some_iff.mp hhead
  rw [hmore] at hletters
  cases letters with
  | nil => cases hletters
  | cons c letters =>
    rw [behindWord?] at hletters
    split at hletters
    · rename_i hc
      exact ⟨c, _, rfl, w, hw, hc⟩
    · cases hletters

end IsLabel

/-- A character that neither is a blank nor a sign. -/
def isNameChar (c : Char) : Bool := !isBlankChar c && c != '=' && c != ':'

/-- The text behind a name, a sign and the blanks around it. -/
def behindLabel (cs : List Char) : List Char :=
  (((cs.dropWhile isNameChar).dropWhile isBlankChar).drop 1).dropWhile isBlankChar

lemma isNameChar_of_isFormOf {word : String} (hword : word ∈ sensitiveWords) {w : Char}
    (hw : w ∈ word.toList) (h : isFormOf w c = true) : isNameChar c = true := by
  refine of_isFormOf (fun c hc => ?_) (by decide) (by decide) (by decide) hword hw h
  have hequals : c ≠ '=' := ne_of_isAlphanum hc rfl
  have hcolon : c ≠ ':' := ne_of_isAlphanum hc rfl
  simp [isNameChar, isBlankChar_of_isAlphanum hc, hequals, hcolon]

lemma IsLabel.behindLabel_append (h : IsLabel label) (hrest : ∀ c ∈ rest.head?, isBlankChar c = false) :
    behindLabel (label ++ rest) = rest := by
  obtain ⟨hword, hletters, hgap, hsign, hspace⟩ := h
  rename_i word letters gap sign space
  have hname : ∀ c ∈ letters, isNameChar c = true := by
    intro c hc
    obtain ⟨w, hw, hform⟩ := exists_isFormOf hletters c hc
    exact isNameChar_of_isFormOf hword hw hform
  have hmark : isNameChar sign = false := by rcases hsign with rfl | rfl <;> rfl
  have hsolid : isBlankChar sign = false := by rcases hsign with rfl | rfl <;> rfl
  have hend : ∀ c ∈ (gap ++ sign :: (space ++ rest)).head?, isNameChar c = false := by
    cases gap with
    | nil =>
      rintro c ⟨⟩
      exact hmark
    | cons d gap =>
      rintro c ⟨⟩
      rw [isNameChar, hgap d List.mem_cons_self]
      rfl
  have htext : letters ++ (gap ++ sign :: space) ++ rest =
      letters ++ (gap ++ sign :: (space ++ rest)) := by simp
  rw [behindLabel, htext, dropWhile_append_break hname hend,
    dropWhile_append_break hgap (by rintro c ⟨⟩; exact hsolid), List.drop_one, List.tail_cons,
    dropWhile_append_break hspace hrest]

/-! ### Pairs -/

/-- The text is a label, a value behind it, and what the value breaks off at. -/
structure IsPair (cs label value rest : List Char) : Prop where
  text : cs = label ++ (value ++ rest)
  label : IsLabel label
  ne_nil : value ≠ []
  value : ∀ c ∈ value, isValueChar c = true
  breaks : Breaks rest

namespace IsPair

lemma not_blank (h : IsPair cs label value rest) :
    ∀ c ∈ (value ++ rest).head?, isBlankChar c = false := by
  cases value with
  | nil => exact absurd rfl h.ne_nil
  | cons d value =>
    rintro c ⟨⟩
    have hd := h.value d List.mem_cons_self
    rw [isValueChar, Bool.and_eq_true, Bool.not_eq_true'] at hd
    exact hd.1

lemma takeWhile_eq (h : IsPair cs label value rest) : (value ++ rest).takeWhile isValueChar = value := by
  rw [List.takeWhile_append_of_pos h.value, h.breaks.takeWhile_eq, List.append_nil]

/-- There is one way to take a text apart like this. -/
lemma unique (h : IsPair cs label value rest) {label' value' rest' : List Char}
    (h' : IsPair cs label' value' rest') : label' = label ∧ value' = value ∧ rest' = rest := by
  have hbehind : value' ++ rest' = value ++ rest := by
    rw [← h'.label.behindLabel_append h'.not_blank, ← h'.text,
      ← h.label.behindLabel_append h.not_blank, ← h.text]
  have hlabel : label' = label := by
    have htext := h'.text.symm.trans h.text
    rw [hbehind] at htext
    exact List.append_cancel_right htext
  have hvalue : value' = value := by rw [← h'.takeWhile_eq, hbehind, h.takeWhile_eq]
  refine ⟨hlabel, hvalue, ?_⟩
  rw [hvalue] at hbehind
  exact List.append_cancel_left hbehind

/-- Where a label and a character of a value stand, there is a pair. -/
lemma of_label (hlabel : IsLabel label) (hc : isValueChar c = true) (cs : List Char) :
    IsPair (label ++ c :: cs) label (c :: cs.takeWhile isValueChar) (cs.dropWhile isValueChar) where
  text := by rw [List.cons_append, List.takeWhile_append_dropWhile]
  label := hlabel
  ne_nil := List.cons_ne_nil c _
  value := by
    intro d hd
    rcases List.mem_cons.mp hd with rfl | hd
    · exact hc
    · exact List.mem_takeWhile_imp hd
  breaks := breaks_dropWhile cs

end IsPair

/-- A pair as a passage: the value is replaced. -/
def pairHit (label value : List Char) : Hit :=
  ⟨(label ++ value).length, label ++ "[REDACTED]".toList⟩

lemma isPair_of_valueOf {word : String} (hword : word ∈ sensitiveWords)
    (h : valueOf word.toList cs = some hit) :
    ∃ label value rest, IsPair cs label value rest ∧ hit = pairHit label value := by
  obtain ⟨rest, sign, behind, value, hrest, hdrop, hmark, hvalue, hne, rfl⟩ := exists_of_valueOf h
  obtain ⟨letters, rfl, hletters⟩ := exists_letters_of_behindWord? hrest
  obtain ⟨gap, hgap, rfl⟩ : ∃ gap, (∀ c ∈ gap, isBlankChar c = true) ∧ rest = gap ++ sign :: behind :=
    ⟨rest.takeWhile isBlankChar, fun c => List.mem_takeWhile_imp, by
      rw [← hdrop, List.takeWhile_append_dropWhile]⟩
  obtain ⟨space, hspace, rfl⟩ : ∃ space, (∀ c ∈ space, isBlankChar c = true) ∧ behind = space ++ value :=
    ⟨behind.takeWhile isBlankChar, fun c => List.mem_takeWhile_imp, by
      rw [← hvalue, List.takeWhile_append_dropWhile]⟩
  have hlabel : IsLabel (letters ++ (gap ++ sign :: space)) := .intro hword hletters hgap hmark hspace
  have htext : letters ++ (gap ++ sign :: (space ++ value)) =
      letters ++ (gap ++ sign :: space) ++ value := by simp
  rw [htext]
  generalize letters ++ (gap ++ sign :: space) = label at hlabel
  rw [List.length_append, Nat.add_sub_cancel, List.take_left]
  refine ⟨label, value.takeWhile isValueChar, value.dropWhile isValueChar,
    ⟨?_, hlabel, hne, fun c => List.mem_takeWhile_imp, breaks_dropWhile value⟩, ?_⟩
  · rw [List.takeWhile_append_dropWhile]
  · rw [pairHit, List.length_append]

lemma IsPair.exists_valueOf (h : IsPair cs label value rest) :
    ∃ word ∈ sensitiveWords, valueOf word.toList cs = some (pairHit label value) := by
  have hbehind := h.not_blank
  have hvalue := h.takeWhile_eq
  have hne := h.ne_nil
  obtain ⟨rfl, ⟨hword, hletters, hgap, hsign, hspace⟩, -, -, -⟩ := h
  rename_i word letters gap sign space
  refine ⟨word, hword, ?_⟩
  have htext : letters ++ (gap ++ sign :: space) ++ (value ++ rest) =
      letters ++ (gap ++ sign :: (space ++ (value ++ rest))) := by simp
  have hsolid : ∀ c ∈ (sign :: (space ++ (value ++ rest))).head?, isBlankChar c = false := by
    rintro c ⟨⟩
    rcases hsign with rfl | rfl <;> rfl
  have hmark : (sign = '=' || sign = ':') = true := by simpa using hsign
  have hempty : value.isEmpty = false := by simpa using hne
  rw [valueOf, htext, behindWord?_append hletters]
  dsimp only
  rw [dropWhile_append_break hgap hsolid]
  dsimp only
  rw [if_pos hmark, dropWhile_append_break hspace hbehind, hvalue, hempty, ← htext, List.length_append,
    Nat.add_sub_cancel, List.take_left, ← List.length_append]
  rfl

/-- A pair is found exactly where a word begins and the text is one. -/
lemma sensitivePair_eq_some_iff : sensitivePair before cs = some hit ↔
    isWordStart before = true ∧
      ∃ label value rest, IsPair cs label value rest ∧ hit = pairHit label value := by
  constructor
  · intro h
    obtain ⟨hstart, word, hword, hvalue⟩ := exists_of_sensitivePair h
    exact ⟨hstart, isPair_of_valueOf hword hvalue⟩
  · rintro ⟨hstart, label, value, rest, hpair, rfl⟩
    obtain ⟨word, hword, hvalue⟩ := hpair.exists_valueOf
    unfold sensitivePair
    rw [hstart]
    cases hfound : sensitiveWords.findSome? fun word => valueOf word.toList cs with
    | none =>
      rw [List.findSome?_eq_none_iff.mp hfound word hword] at hvalue
      cases hvalue
    | some hit =>
      -- Another name may be found first, but it is the same passage.
      obtain ⟨word', hword', hvalue'⟩ := List.exists_of_findSome?_eq_some hfound
      obtain ⟨label', value', rest', hpair', rfl⟩ := isPair_of_valueOf hword' hvalue'
      obtain ⟨rfl, rfl, -⟩ := hpair.unique hpair'
      rfl

lemma IsPair.sensitivePair_eq (h : IsPair cs label value rest) (hstart : isWordStart before = true) :
    sensitivePair before cs = some (pairHit label value) :=
  sensitivePair_eq_some_iff.mpr ⟨hstart, label, value, rest, h, rfl⟩

/-- The passage ends where the value breaks off. -/
lemma IsPair.covers (h : IsPair cs label value rest) :
    Covers cs (pairHit label value).length (label ++ value) rest where
  text := by rw [h.text, List.append_assoc]
  length := rfl
  ne_nil := List.append_ne_nil_of_right_ne_nil label h.ne_nil
  ends := by
    refine .inr fun c hc => ?_
    by_contra halnum
    have hvalue := isValueChar_of_isAlphanum (by simpa using halnum)
    rw [h.breaks c hc] at hvalue
    cases hvalue

lemma marks_sensitivePair : Marks sensitivePair "REDACTED".toList where
  exists_passage h := by
    obtain ⟨-, label, value, rest, hpair, rfl⟩ := sensitivePair_eq_some_iff.mp h
    exact ⟨label ++ value, rest, hpair.covers⟩
  exists_kept h := by
    obtain ⟨-, label, value, rest, -, rfl⟩ := sensitivePair_eq_some_iff.mp h
    exact ⟨label, rfl⟩

lemma keeps_sensitivePair : Keeps sensitivePair "REDACTED".toList := by
  intro before cs hit kept h hkept
  obtain ⟨-, label, value, rest, hpair, rfl⟩ := sensitivePair_eq_some_iff.mp h
  have hlabel : label = kept := List.append_cancel_right hkept
  rw [hpair.text, hlabel]
  exact List.prefix_append _ _

end Reindex.Redaction
