import Mathlib.Data.List.Infix
import Mathlib.Data.List.TakeWhile
import Reindex.Proofs.Redaction.Passages
import Reindex.Proofs.Text.Alphanumeric

/-!
# Values behind the names of secrets

A label is the name of a secret, in capital or small letters, and a sign with blanks around it. Where it
begins a word, the value behind it is replaced whole: none of the names is the beginning of another one, so
the name is found as it stands.
-/

namespace Reindex.Redaction

open Text

/-! ### Values -/

/-- A value that can be told from what is around it: some ASCII letters and digits. -/
def IsPlainValue (v : List Char) : Prop := v ≠ [] ∧ ∀ c ∈ v, c.isAlphanum = true

lemma isValueChar_of_isAlphanum {c : Char} (h : c.isAlphanum = true) : isValueChar c = true := by
  have hand : c ≠ '&' := ne_of_isAlphanum h rfl
  have hcomma : c ≠ ',' := ne_of_isAlphanum h rfl
  have hsemicolon : c ≠ ';' := ne_of_isAlphanum h rfl
  simp [isValueChar, isBlankChar_of_isAlphanum h, hand, hcomma, hsemicolon]

lemma IsPlainValue.not_mem {v : List Char} (hv : IsPlainValue v) {c : Char}
    (hc : c.isAlphanum = false) : c ∉ v :=
  fun h => ne_of_isAlphanum (hv.2 c h) hc rfl

lemma IsPlainValue.dropWhile_append {v : List Char} (hv : IsPlainValue v) (rest : List Char) :
    (v ++ rest).dropWhile isBlankChar = v ++ rest := by
  obtain ⟨hne, hplain⟩ := hv
  cases v with
  | nil => exact absurd rfl hne
  | cons c v =>
    rw [List.cons_append, List.dropWhile_cons,
      isBlankChar_of_isAlphanum (hplain c List.mem_cons_self)]
    rfl

lemma IsPlainValue.takeWhile_append {v : List Char} (hv : IsPlainValue v) (rest : List Char) :
    (v ++ rest).takeWhile isValueChar = v ++ rest.takeWhile isValueChar :=
  List.takeWhile_append_of_pos fun c hc => isValueChar_of_isAlphanum (hv.2 c hc)

/-! ### What is found behind a name -/

/-- A passage that `valueOf` finds is a name, a sign and a value, and the value is replaced. -/
lemma exists_of_valueOf {word cs : List Char} {hit : Hit} (h : valueOf word cs = some hit) :
    ∃ rest sign behind value, behindWord? word cs = some rest ∧
      rest.dropWhile isBlankChar = sign :: behind ∧ (sign = '=' ∨ sign = ':') ∧
      behind.dropWhile isBlankChar = value ∧ value.takeWhile isValueChar ≠ [] ∧
      hit = ⟨cs.length - value.length + (value.takeWhile isValueChar).length,
        cs.take (cs.length - value.length) ++ "[REDACTED]".toList⟩ := by
  unfold valueOf at h
  split at h
  · cases h
  · rename_i rest hrest
    split at h
    · rename_i sign behind hsign
      dsimp only at h
      split at h
      · rename_i hmark
        split at h
        · cases h
        · rename_i hempty
          cases h
          rw [Bool.or_eq_true, decide_eq_true_eq, decide_eq_true_eq] at hmark
          exact ⟨rest, sign, behind, _, hrest, hsign, hmark, rfl,
            fun hnil => hempty (List.isEmpty_iff.mpr hnil), rfl⟩
      · cases h
    · cases h

lemma fits_valueOf {word cs : List Char} {hit : Hit} (h : valueOf word cs = some hit) :
    hit.length ≤ cs.length := by
  obtain ⟨rest, sign, behind, value, hrest, hsign, -, hvalue, -, rfl⟩ := exists_of_valueOf h
  obtain ⟨letters, rfl, -⟩ := exists_of_behindWord? hrest
  have hgap := length_takeWhile_add_dropWhile isBlankChar rest
  have hblank := length_takeWhile_add_dropWhile isBlankChar behind
  have hlength := length_takeWhile_add_dropWhile isValueChar value
  rw [hsign, List.length_cons] at hgap
  rw [hvalue] at hblank
  dsimp only
  rw [List.length_append]
  omega

/-- A pair is found by one of the names, where a word begins. -/
lemma exists_of_sensitivePair {before : Option Char} {cs : List Char} {hit : Hit}
    (h : sensitivePair before cs = some hit) :
    isWordStart before = true ∧ ∃ word ∈ sensitiveWords, valueOf word.toList cs = some hit := by
  unfold sensitivePair at h
  split at h
  · cases h
  · rename_i hstart
    rw [Bool.not_eq_true, Bool.not_eq_false'] at hstart
    exact ⟨hstart, List.exists_of_findSome?_eq_some h⟩

lemma fits_sensitivePair : Fits sensitivePair := by
  intro before cs hit h
  obtain ⟨-, word, -, hvalue⟩ := exists_of_sensitivePair h
  exact fits_valueOf hvalue

/-! ### Where no value begins -/

/-- The letters that the names of secrets begin with. -/
def initials : List Char := ['c', 'a', 'p', 's', 't', 'k']

lemma exists_initial : ∀ word ∈ sensitiveWords, ∃ w ∈ initials, word.toList.head? = some w := by
  have hinitials : ∀ word ∈ sensitiveWords, word.toList.head?.any initials.contains = true := by
    decide
  intro word hword
  have hinitial := hinitials word hword
  cases hhead : word.toList.head? with
  | none =>
    rw [hhead] at hinitial
    cases hinitial
  | some w =>
    rw [hhead, Option.any_some, List.contains_iff_mem] at hinitial
    exact ⟨w, hinitial, rfl⟩

/-- Where a value breaks off, there is no letter of a word. -/
lemma isFormOf_of_not_isValueChar {c : Char} (hc : isValueChar c = false) {w : Char}
    (hw : isValueChar w = true) : isFormOf w c = false := by
  have hsmall : c.toLower ≠ w := by
    rintro rfl
    rw [toLower_eq_of_isAlphanum (fun _ => isValueChar_of_isAlphanum), hc] at hw
    cases hw
  have hlong : c ≠ '\u017F' := by
    rintro rfl
    cases hc
  have hkelvin : c ≠ '\u212A' := by
    rintro rfl
    cases hc
  simp [isFormOf, hsmall, hlong, hkelvin]

/-- Where a value breaks off, none of the names begins. -/
lemma sensitivePair_of_not_isValueChar {c : Char} (hc : isValueChar c = false) (before : Option Char)
    (rest : List Char) : sensitivePair before (c :: rest) = none := by
  cases hhit : sensitivePair before (c :: rest) with
  | none => rfl
  | some hit =>
    obtain ⟨-, word, hword, hvalue⟩ := exists_of_sensitivePair hhit
    obtain ⟨w, hw, hhead⟩ := exists_initial word hword
    obtain ⟨letters, hletters⟩ := List.head?_eq_some_iff.mp hhead
    have hinitial : isValueChar w = true := List.all_eq_true.mp (by decide) w hw
    obtain ⟨behind, -, -, -, hbehind, -⟩ := exists_of_valueOf hvalue
    rw [hletters, behindWord?, isFormOf_of_not_isValueChar hc hinitial] at hbehind
    cases hbehind

/-- A value that ends in front of these characters is whole. -/
def Breaks (q : List Char) : Prop := ∀ c ∈ q.head?, isValueChar c = false

lemma breaks_dropWhile (cs : List Char) : Breaks (cs.dropWhile isValueChar) := by
  intro c hc
  have hhead := List.head?_dropWhile_not isValueChar cs
  rw [Option.mem_def.mp hc] at hhead
  exact hhead

lemma Breaks.takeWhile_eq {q : List Char} (h : Breaks q) : q.takeWhile isValueChar = [] := by
  cases q with
  | nil => rfl
  | cons c rest =>
    rw [List.takeWhile_cons, h c rfl]
    rfl

lemma Breaks.dropWhile_eq {q : List Char} (h : Breaks q) : q.dropWhile isValueChar = q := by
  cases q with
  | nil => rfl
  | cons c rest =>
    rw [List.dropWhile_cons, h c rfl]
    rfl

/-- Where a value breaks off, it does not matter what is in front. -/
lemma Breaks.replaceFrom_sensitivePair {q : List Char} (h : Breaks q) (before before' : Option Char) :
    replaceFrom sensitivePair 0 before q = replaceFrom sensitivePair 0 before' q := by
  cases q with
  | nil => rfl
  | cons c rest =>
    have hc := h c rfl
    rw [replaceFrom_of_none (sensitivePair_of_not_isValueChar hc before rest),
      replaceFrom_of_none (sensitivePair_of_not_isValueChar hc before' rest)]

/-! ### Words however they are spelled -/

lemma behindWord?_spelled {word name : List Char} (h : name.map Char.toLower = word)
    (rest : List Char) : behindWord? word (name ++ rest) = some rest := by
  subst h
  induction name with
  | nil => rfl
  | cons c name ih =>
    have hform : isFormOf c.toLower c = true := by simp [isFormOf]
    rw [List.map_cons, List.cons_append, behindWord?, if_pos hform, ih]

/-- Another word is not found if neither of them is the beginning of the other. -/
lemma behindWord?_other {word name : List Char} (hplain : ∀ c ∈ name, isLetterForm c = false)
    (hword : ¬ word <+: name.map Char.toLower) (hname : ¬ name.map Char.toLower <+: word)
    (rest : List Char) : behindWord? word (name ++ rest) = none := by
  induction name generalizing word with
  | nil => exact absurd List.nil_prefix hname
  | cons c name ih =>
    cases word with
    | nil => exact absurd List.nil_prefix hword
    | cons w word =>
      rw [List.cons_append, behindWord?]
      split
      · rename_i hform
        have hc := hplain c List.mem_cons_self
        have hw : c.toLower = w := by
          simp only [isLetterForm, Bool.or_eq_false_iff, decide_eq_false_iff_not] at hc
          simpa [isFormOf, hc.1, hc.2] using hform
        subst hw
        rw [List.map_cons, List.prefix_cons_inj] at hword hname
        exact ih (fun d hd => hplain d (List.mem_cons_of_mem c hd)) hword hname
      · rfl

/-- A property of letters, of underscores and of the two other forms of letters is one of names in any form. -/
lemma of_isFormOf {f : Char → Bool} (hf : ∀ c, c.isAlphanum = true → f c = true)
    (hwords : ∀ word ∈ sensitiveWords, word.toList.all f = true) (hlong : f '\u017F' = true)
    (hkelvin : f '\u212A' = true) {word : String} (hword : word ∈ sensitiveWords) {w : Char}
    (hw : w ∈ word.toList) {c : Char} (h : isFormOf w c = true) : f c = true := by
  simp only [isFormOf, Bool.or_eq_true, Bool.and_eq_true, decide_eq_true_eq] at h
  rcases h with (rfl | ⟨-, rfl⟩) | ⟨-, rfl⟩
  · rw [← toLower_eq_of_isAlphanum hf]
    exact List.all_eq_true.mp (hwords word hword) _ hw
  · exact hlong
  · exact hkelvin

/-! ### Labels -/

/-- The name of a secret in any case, a sign, and the blanks around the sign. -/
structure Label where
  word : String
  name : List Char
  gap : List Char
  sign : Char
  space : List Char
  word_mem : word ∈ sensitiveWords
  name_eq : name.map Char.toLower = word.toList
  gap_blank : ∀ c ∈ gap, isBlankChar c = true
  sign_eq : sign = '=' ∨ sign = ':'
  space_blank : ∀ c ∈ space, isBlankChar c = true

namespace Label

/-- A name in small letters and a sign without blanks. -/
def bare (word : String) (sign : Char) (hword : word ∈ sensitiveWords)
    (hsign : sign = '=' ∨ sign = ':') : Label where
  word := word
  name := word.toList
  gap := []
  sign := sign
  space := []
  word_mem := hword
  name_eq := by
    have hsmall : ∀ word ∈ sensitiveWords, word.toList.map Char.toLower = word.toList := by decide
    exact hsmall word hword
  gap_blank := nofun
  sign_eq := hsign
  space_blank := nofun

/-- The separator of a label, which is between the name and the value. -/
def separator (l : Label) : List Char := l.gap ++ l.sign :: l.space

def text (l : Label) : List Char := l.name ++ l.separator

variable (l : Label)

lemma text_append (rest : List Char) :
    l.text ++ rest = l.name ++ (l.gap ++ l.sign :: (l.space ++ rest)) := by
  simp [text, separator]

lemma toLower_mem {c : Char} (hc : c ∈ l.name) : c.toLower ∈ l.word.toList := by
  rw [← l.name_eq]
  exact List.mem_map_of_mem hc

/-- The characters of names are letters and underscores. -/
lemma of_mem_name {f : Char → Bool} (hf : ∀ c, c.isAlphanum = true → f c = true)
    (hwords : ∀ word ∈ sensitiveWords, word.toList.all f = true) : ∀ c ∈ l.name, f c = true := by
  intro c hc
  rw [← toLower_eq_of_isAlphanum hf]
  exact List.all_eq_true.mp (hwords l.word l.word_mem) _ (l.toLower_mem hc)

lemma mem_separator {c : Char} (h : c ∈ l.separator) : isBlankChar c = true ∨ c = '=' ∨ c = ':' := by
  rcases List.mem_append.mp h with hgap | hrest
  · exact .inl (l.gap_blank c hgap)
  · rcases List.mem_cons.mp hrest with rfl | hspace
    · exact .inr l.sign_eq
    · exact .inl (l.space_blank c hspace)

lemma exists_name_eq : ∃ c rest, l.name = c :: rest := by
  have hne : ∀ word ∈ sensitiveWords, word.toList ≠ [] := by decide
  cases hname : l.name with
  | nil =>
    have heq := l.name_eq
    rw [hname] at heq
    exact absurd heq.symm (hne l.word l.word_mem)
  | cons c rest => exact ⟨c, rest, rfl⟩

/-- Behind the name of a label `valueOf` finds the value, and with it whatever follows without a break. -/
lemma valueOf_text {v : List Char} (hv : IsPlainValue v) (rest : List Char) :
    valueOf l.word.toList (l.text ++ (v ++ rest)) =
      some ⟨(l.text ++ v).length + (rest.takeWhile isValueChar).length,
        l.text ++ "[REDACTED]".toList⟩ := by
  have hname := behindWord?_spelled l.name_eq (l.gap ++ l.sign :: (l.space ++ (v ++ rest)))
  rw [← text_append] at hname
  have hgap : (l.gap ++ l.sign :: (l.space ++ (v ++ rest))).dropWhile isBlankChar =
      l.sign :: (l.space ++ (v ++ rest)) := by
    have hsign : isBlankChar l.sign = false := by
      rcases l.sign_eq with h | h <;> rw [h] <;> rfl
    rw [List.dropWhile_append_of_pos l.gap_blank, List.dropWhile_cons, hsign]
    rfl
  have hspace : (l.space ++ (v ++ rest)).dropWhile isBlankChar = v ++ rest := by
    rw [List.dropWhile_append_of_pos l.space_blank, hv.dropWhile_append]
  have hsign : (l.sign = '=' || l.sign = ':') = true := by simpa using l.sign_eq
  have hempty : (v ++ rest.takeWhile isValueChar).isEmpty = false := by simp [hv.1]
  have hfront : (l.text ++ (v ++ rest)).length - (v ++ rest).length = l.text.length := by
    rw [List.length_append, Nat.add_sub_cancel]
  unfold valueOf
  rw [hname]
  dsimp only
  rw [hgap]
  dsimp only
  rw [if_pos hsign, hspace, hv.takeWhile_append, hempty, hfront, List.take_left,
    List.length_append, List.length_append, Nat.add_assoc]
  rfl

/-- At the beginning of a label no name but its own is found. -/
lemma valueOf_other {word : String} (hword : word ∈ sensitiveWords) (hne : word ≠ l.word)
    (rest : List Char) : valueOf word.toList (l.text ++ rest) = none := by
  have hprefixes : ∀ word ∈ sensitiveWords, ∀ word' ∈ sensitiveWords, word ≠ word' →
      ¬ word.toList <+: word'.toList := by decide
  have hplain : ∀ c ∈ l.name, isLetterForm c = false := by
    have hforms := l.of_mem_name (f := fun c => !isLetterForm c)
      (fun c hc => by
        have hlong := ne_of_isAlphanum hc (d := '\u017F') rfl
        have hkelvin := ne_of_isAlphanum hc (d := '\u212A') rfl
        simp [isLetterForm, hlong, hkelvin]) (by decide)
    simpa using hforms
  have hbehind : behindWord? word.toList (l.text ++ rest) = none := by
    rw [text_append]
    refine behindWord?_other hplain ?_ ?_ _
    · rw [l.name_eq]
      exact hprefixes word hword l.word l.word_mem hne
    · rw [l.name_eq]
      exact hprefixes l.word l.word_mem word hword hne.symm
  rw [valueOf, hbehind]

lemma sensitivePair_text {before : Option Char} (hbefore : isWordStart before = true) {rest : List Char}
    {hit : Hit} (h : valueOf l.word.toList (l.text ++ rest) = some hit) :
    sensitivePair before (l.text ++ rest) = some hit := by
  unfold sensitivePair
  rw [hbefore]
  cases hfound : sensitiveWords.findSome? fun word => valueOf word.toList (l.text ++ rest) with
  | none =>
    rw [List.findSome?_eq_none_iff.mp hfound l.word l.word_mem] at h
    cases h
  | some hit' =>
    obtain ⟨word, hword, hhit⟩ := List.exists_of_findSome?_eq_some hfound
    obtain rfl : word = l.word := by
      by_contra hne
      rw [l.valueOf_other hword hne] at hhit
      cases hhit
    rw [h] at hhit
    cases hhit
    rfl

/-- The value behind a label is replaced, and what is left begins where the value breaks off. -/
lemma replaceFrom_sensitivePair {before : Option Char} (hbefore : isWordStart before = true)
    {v : List Char} (hv : IsPlainValue v) (rest : List Char) :
    replaceFrom sensitivePair 0 before (l.text ++ (v ++ rest)) =
      l.text ++ "[REDACTED]".toList ++
        replaceFrom sensitivePair 0 none (rest.dropWhile isValueChar) := by
  have hhit := l.sensitivePair_text hbefore (l.valueOf_text hv rest)
  have hsplit : l.text ++ (v ++ rest) =
      (l.text ++ (v ++ rest.takeWhile isValueChar)) ++ rest.dropWhile isValueChar := by
    rw [List.append_assoc, List.append_assoc, List.takeWhile_append_dropWhile]
  have hne : l.text ++ (v ++ rest.takeWhile isValueChar) ≠ [] := by simp [hv.1]
  have hlength : (l.text ++ v).length + (rest.takeWhile isValueChar).length =
      (l.text ++ (v ++ rest.takeWhile isValueChar)).length + 0 := by
    simp [Nat.add_assoc]
  rw [hsplit] at hhit ⊢
  rw [replaceFrom_hit hhit hne hlength, (breaks_dropWhile rest).replaceFrom_sensitivePair _ none]

end Label

end Reindex.Redaction
