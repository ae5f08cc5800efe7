import Reindex.Credential.Chain
import Reindex.Proofs.Redaction.Labels

/-!
# Codes in the texts of errors

Texts of errors may hold codes that came from outside, such as `password=…`. They stand behind a colon
and a blank, where one of a few phrases announces them. Texts that differ only in what is behind the
equals signs of such codes are the same when they are redacted: no other passage covers the name in
front of the sign, so the value is replaced whole.
-/

namespace Reindex

namespace Redaction

open Text

/-! ### Values -/

/-- The name of a secret and the sign in front of its value. -/
def valueName : List Char := "password=".toList

/-- The name and the sign are a label. -/
def valueLabel : Label := .bare "password" '=' (by decide) (.inl rfl)

/-! ### What stands in front of a code -/

/-- No name of a secret stands at the end of the text, so a colon behind it is no sign of a value. -/
def EndsInWords (p : List Char) : Prop :=
  ∀ word ∈ sensitiveWords, ∀ q, q <:+ p → ∀ rest, behindWord? word.toList q = some rest →
    ∃ c ∈ rest, isBlankChar c = false

lemma not_isFormOf_colon : ∀ word ∈ sensitiveWords, ∀ w ∈ word.toList, isFormOf w ':' = false := by
  have hany : ∀ word ∈ sensitiveWords, (word.toList.any fun w => isFormOf w ':') = false := by
    decide
  exact fun word hword => eq_false_of_any (hany word hword)

/-- A value in front of a colon ends at the blank behind it, or in front of the colon. -/
lemma valueOf_behind_colon {word q : List Char} (hword : ∀ w ∈ word, isFormOf w ':' = false)
    (hq : ∀ rest, behindWord? word q = some rest → ∃ c ∈ rest, isBlankChar c = false)
    (tail : List Char) : valueOf word (q ++ ':' :: ' ' :: tail) = valueOf word (q ++ [':']) := by
  have hcolon : isBlankChar ':' = false := rfl
  have hvalue : ∀ cs : List Char, (cs ++ ':' :: ' ' :: tail).takeWhile isValueChar =
      (cs ++ [':']).takeWhile isValueChar := by
    intro cs
    rw [List.append_cons cs ':' (' ' :: tail), takeWhile_append_stop rfl]
  have hlength : ∀ cs rest : List Char,
      (q ++ ':' :: rest).length - (cs ++ ':' :: rest).length = q.length - cs.length := by
    intro cs rest
    rw [List.length_append, List.length_append, Nat.add_sub_add_right]
  have hfront : ∀ (n : Nat) (rest : List Char),
      (q ++ ':' :: rest).take (q.length - n) = q.take (q.length - n) := by
    intro n rest
    rw [List.take_append_of_le_length (Nat.sub_le _ _)]
  unfold valueOf
  rw [behindWord?_append_stop hword, behindWord?_append_stop hword]
  cases hbehind : behindWord? word q with
  | none => rfl
  | some rest =>
    simp only [Option.map_some, dropWhile_append_stop hcolon]
    cases hgap : rest.dropWhile isBlankChar with
    | nil =>
      obtain ⟨c, hc, hnot⟩ := hq rest hbehind
      rw [List.dropWhile_eq_nil_iff.mp hgap c hc] at hnot
      cases hnot
    | cons sign behind =>
      simp only [List.cons_append, dropWhile_append_stop hcolon, hvalue, hlength, hfront]

lemma findSome?_congr {α β : Type} {f g : α → Option β} {xs : List α} (h : ∀ x ∈ xs, f x = g x) :
    xs.findSome? f = xs.findSome? g := by
  induction xs with
  | nil => rfl
  | cons x xs ih =>
    rw [List.findSome?_cons, List.findSome?_cons, h x List.mem_cons_self,
      ih fun y hy => h y (List.mem_cons_of_mem x hy)]

/-- Behind other words, a colon and a blank are a break between values. -/
lemma EndsInWords.closed {p : List Char} (hp : EndsInWords p) (tail : List Char) :
    Closed sensitivePair (p ++ [':']) (' ' :: tail) := by
  intro q hq hne before
  obtain ⟨q', rfl, hq'⟩ := (List.suffix_concat_iff.mp hq).resolve_left hne
  have hwords : ∀ word ∈ sensitiveWords,
      valueOf word.toList (q' ++ [':'] ++ ' ' :: tail) = valueOf word.toList (q' ++ [':']) := by
    intro word hword
    rw [List.append_assoc]
    exact valueOf_behind_colon (not_isFormOf_colon word hword) (hp word hword q' hq') tail
  unfold sensitivePair
  rw [findSome?_congr hwords]

/-! ### Codes -/

/-- The phrases that announce a code in the text of an error. -/
def phrases : List (List Char) :=
  "Authentication failed".toList ::
    [SecretCredential.name, WorkloadCredential.name, ManagedCredential.name].flatMap fun source =>
      [source.toList ++ " is unavailable".toList, ' ' :: (source.toList ++ " is unavailable".toList),
        ' ' :: (source.toList ++ " was rejected".toList)]

/-- A code behind a colon and a blank. -/
def codeText (v : List Char) : List Char := ':' :: ' ' :: (valueName ++ v)

/-- The text ends in a phrase that announces a code, behind a separator or at the very beginning. -/
inductive Announces : List Char → Prop
  | alone {phrase : List Char} (h : phrase ∈ phrases) : Announces phrase
  | behind (p : List Char) {c : Char} (hc : isSeparator c = true) {phrase : List Char}
      (h : phrase ∈ phrases) : Announces (p ++ c :: phrase)

/-- The text is empty or begins with a separator. -/
def Closes (cs : List Char) : Prop := ∀ c ∈ cs.head?, isSeparator c = true

/-- Two texts that differ in the values of codes and in nothing else. -/
inductive Veiled : List Char → List Char → Prop
  | same (cs : List Char) : Veiled cs cs
  | code {p : List Char} (hp : Announces p) {v w : List Char} (hv : IsPlainValue v)
      (hw : IsPlainValue w) {rest rest' : List Char} (hrest : Closes rest) (hrest' : Closes rest')
      (h : Veiled rest rest') : Veiled (p ++ (codeText v ++ rest)) (p ++ (codeText w ++ rest'))

lemma phrase_facts : ∀ phrase ∈ phrases, '.' ∉ phrase ∧
    (∀ q ∈ phrase.tails, behindWord? "bearer".toList q = none) ∧
    phrase.getLast?.map isBlankChar = some false ∧
    ∀ word ∈ sensitiveWords, word.length ≤ phrase.length ∧
      behindWord? word.toList (phrase.drop (phrase.length - word.length)) = none := by
  decide +kernel

/-- A name of a secret cannot be at the end of a text that ends in a phrase: it would have to be the
end of the phrase, and behind it there could be nothing but blanks. -/
lemma endsInWords_of_phrase {phrase : List Char} (h : phrase ∈ phrases) (p : List Char) :
    EndsInWords (p ++ phrase) := by
  obtain ⟨-, -, hlast, hwords⟩ := phrase_facts phrase h
  intro word hword q hq rest hrest
  obtain ⟨hlength, hend⟩ := hwords word hword
  by_contra hnone
  have hblank : ∀ c ∈ rest, isBlankChar c = true := by
    intro c hc
    by_contra h
    exact hnone ⟨c, hc, Bool.eq_false_iff.mpr h⟩
  obtain ⟨letters, rfl, hletters⟩ := exists_of_behindWord? hrest
  rcases List.eq_nil_or_concat rest with rfl | ⟨gap, c, rfl⟩
  · have hsuffix : letters ++ [] <:+ phrase := by
      refine List.suffix_of_suffix_length_le hq (List.suffix_append p phrase) ?_
      rw [List.append_nil, hletters, String.length_toList]
      exact hlength
    rw [List.suffix_iff_eq_drop.mp hsuffix, List.append_nil, hletters, String.length_toList,
      hend] at hrest
    cases hrest
  · have hc : (p ++ phrase).getLast? = some c := by
      obtain ⟨front, hfront⟩ := hq
      rw [← hfront, List.concat_eq_append, ← List.append_assoc, ← List.append_assoc,
        List.getLast?_concat]
    obtain ⟨d, hd, hdblank⟩ := Option.map_eq_some_iff.mp hlast
    rw [List.getLast?_append, hd, Option.some_or] at hc
    cases hc
    rw [hblank c (by simp)] at hdblank
    cases hdblank

lemma Announces.endsInWords {p : List Char} (h : Announces p) : EndsInWords p := by
  cases h with
  | alone h => exact endsInWords_of_phrase h []
  | behind p hc h =>
    rw [List.append_cons]
    exact endsInWords_of_phrase h _

/-! ### Web tokens and bearer tokens around codes -/

/-- A kind of passage that separators put an end to and that is neither in a phrase nor in a code. -/
structure Spares (m : Matcher) : Prop extends EndsAtSeparators m where
  phrase : ∀ phrase ∈ phrases, Inert m phrase
  code : ∀ {v : List Char}, IsPlainValue v → Inert m (' ' :: (valueName ++ v))

lemma webToken_spares : Spares webToken where
  toEndsAtSeparators := webToken_endsAtSeparators
  phrase := by
    intro phrase h
    exact inert_webToken (phrase_facts phrase h).1
  code := by
    intro v hv
    apply inert_webToken
    intro hdot
    have hname : '.' ∉ ' ' :: valueName := by decide
    rw [← List.cons_append] at hdot
    rcases List.mem_append.mp hdot with hdot | hdot
    · exact hname hdot
    · exact hv.not_mem rfl hdot

lemma bearer_spares : Spares bearer where
  toEndsAtSeparators := bearer_endsAtSeparators
  phrase := by
    intro phrase h
    apply inert_bearer
    intro q hq
    exact (phrase_facts phrase h).2.1 q ((List.mem_tails q phrase).mpr hq)
  code := by
    intro v hv q hq before
    have hplain : ∀ d ∈ valueName ++ v, isBlankChar d = false := by
      intro d hd
      have hname : ∀ d ∈ valueName, isBlankChar d = false := eq_false_of_any (by decide)
      rcases List.mem_append.mp hd with hd | hd
      · exact hname d hd
      · exact isBlankChar_of_isAlphanum (hv.2 d hd)
    cases q with
    | nil =>
      unfold bearer
      split
      · rfl
      · rfl
    | cons c q =>
      apply bearer_of_not_blank
      intro d hd
      rcases List.suffix_cons_iff.mp hq with hq | hq
      · cases hq
        exact hplain d hd
      · exact hplain d (hq.subset (List.mem_cons_of_mem c hd))

namespace Spares

variable {m : Matcher}

lemma closes (hm : Spares m) {cs : List Char} (h : Closes cs) (before : Option Char) :
    Closes (replaceFrom m 0 before cs) := by
  cases cs with
  | nil => exact h
  | cons c rest =>
    rw [replaceFrom_of_none (hm.none_at (h c rfl) before rest)]
    exact h

/-- The announcement of a code goes on announcing it when passages of a kind that spares codes are replaced. -/
lemma announces (hm : Spares m) {p : List Char} (h : Announces p) (before : Option Char) :
    Announces (replaceFrom m 0 before p) := by
  cases h with
  | alone h =>
    rw [(hm.phrase _ h).replaceFrom_eq]
    exact .alone h
  | behind p hc h =>
    rw [hm.replaceFrom_separator hc, (hm.phrase _ h).replaceFrom_eq]
    exact .behind _ hc h

/-- A code stays where it is, and what is around it has nothing to do with it. -/
lemma replaceFrom_code (hm : Spares m) (p : List Char) {v : List Char} (hv : IsPlainValue v)
    {rest : List Char} (hrest : Closes rest) (before : Option Char) :
    replaceFrom m 0 before (p ++ (codeText v ++ rest)) =
      replaceFrom m 0 before p ++ (codeText v ++ replaceFrom m 0 none rest) := by
  have hcode : replaceFrom m 0 (some ':') (' ' :: (valueName ++ v) ++ rest) =
      ' ' :: (valueName ++ v) ++ replaceFrom m 0 none rest := by
    cases rest with
    | nil => rw [List.append_nil, (hm.code hv).replaceFrom_eq, replaceFrom, List.append_nil]
    | cons c rest =>
      rw [hm.replaceFrom_separator (hrest c rfl), (hm.code hv).replaceFrom_eq,
        replaceFrom_of_none (hm.none_at (hrest c rfl) none rest)]
  unfold codeText
  rw [List.cons_append, hm.replaceFrom_separator rfl, hcode]
  rfl

/-- Texts that differ in the values of codes go on doing so. -/
lemma veiled (hm : Spares m) {cs cs' : List Char} (h : Veiled cs cs') (before : Option Char) :
    Veiled (replaceFrom m 0 before cs) (replaceFrom m 0 before cs') := by
  induction h generalizing before with
  | same cs => exact .same _
  | code hp hv hw hrest hrest' h ih =>
    rw [hm.replaceFrom_code _ hv hrest, hm.replaceFrom_code _ hw hrest']
    exact .code (hm.announces hp before) hv hw (hm.closes hrest none) (hm.closes hrest' none) (ih none)

end Spares

/-! ### Texts that are redacted -/

/-- Behind a break between values, the value of a code is replaced. -/
lemma replaceFrom_blank_code {p : List Char} (hp : ∀ tail, Closed sensitivePair p (' ' :: tail))
    {v : List Char} (hv : IsPlainValue v) (rest : List Char) (before : Option Char) :
    replaceFrom sensitivePair 0 before (p ++ ' ' :: (valueName ++ (v ++ rest))) =
      replaceFrom sensitivePair 0 before p ++ ' ' :: ("password=[REDACTED]".toList ++
        replaceFrom sensitivePair 0 none (rest.dropWhile isValueChar)) := by
  rw [replaceFrom_append fits_sensitivePair (hp _),
    replaceFrom_of_none (sensitivePair_of_not_isValueChar rfl _ _)]
  have hvalue := @Label.replaceFrom_sensitivePair valueLabel (some ' ') rfl v hv rest
  exact congrArg (replaceFrom sensitivePair 0 before p ++ ' ' :: ·) hvalue

lemma codeText_append (p v rest : List Char) :
    p ++ (codeText v ++ rest) = (p ++ [':']) ++ ' ' :: (valueName ++ (v ++ rest)) := by
  simp [codeText]

/-- Where texts differ in the values of codes, so do what is left of them behind a value; replacing
values makes either the same. The induction is on the codes, from the last one to the first. -/
lemma replaceFrom_of_veiled {cs cs' : List Char} (h : Veiled cs cs') :
    (∀ before, replaceFrom sensitivePair 0 before cs = replaceFrom sensitivePair 0 before cs') ∧
      replaceFrom sensitivePair 0 none (cs.dropWhile isValueChar) =
        replaceFrom sensitivePair 0 none (cs'.dropWhile isValueChar) := by
  induction h with
  | same cs => exact ⟨fun _ => rfl, rfl⟩
  | code hp hv hw hrest hrest' h ih =>
    rename_i p v w rest rest'
    have hclosed : ∀ tail, Closed sensitivePair (p ++ [':']) (' ' :: tail) :=
      hp.endsInWords.closed
    have hblank : isValueChar ' ' = false := rfl
    rw [codeText_append, codeText_append]
    constructor
    · intro before
      rw [replaceFrom_blank_code hclosed hv, replaceFrom_blank_code hclosed hw, ih.2]
    · have hdrop : ∀ tail, Closed sensitivePair ((p ++ [':']).dropWhile isValueChar) (' ' :: tail) :=
        fun tail => (hclosed tail).suffix (List.dropWhile_suffix _)
      rw [dropWhile_append_stop hblank, dropWhile_append_stop hblank,
        replaceFrom_blank_code hdrop hv, replaceFrom_blank_code hdrop hw, ih.2]

/-- Texts that differ in the values of codes are redacted to the same text. -/
lemma redactList_of_veiled {cs cs' : List Char} (h : Veiled cs cs') :
    redactList cs = redactList cs' := by
  have hspared := bearer_spares.veiled (webToken_spares.veiled h none) none
  have hvalues := (replaceFrom_of_veiled hspared).1 none
  rw [redactList_eq, redactList_eq]
  exact congrArg (replaceAll longBase64) hvalues

/-- A code that stands alone is redacted to the same text, whatever its value. -/
lemma redactList_code {v w : List Char} (hv : IsPlainValue v) (hw : IsPlainValue w) :
    redactList (valueName ++ v) = redactList (valueName ++ w) := by
  have hredact : ∀ {v}, IsPlainValue v → replaceAll sensitivePair (replaceAll bearer
      (replaceAll webToken (valueName ++ v))) = "password=[REDACTED]".toList := by
    intro v hv
    have hsuffix : valueName ++ v <:+ ' ' :: (valueName ++ v) := List.suffix_cons _ _
    have hjwt : Inert webToken (valueName ++ v) :=
      fun q hq => webToken_spares.code hv q (hq.trans hsuffix)
    have hbearer : Inert bearer (valueName ++ v) :=
      fun q hq => bearer_spares.code hv q (hq.trans hsuffix)
    have hvalue := @Label.replaceFrom_sensitivePair valueLabel none rfl v hv []
    change replaceFrom sensitivePair 0 none (valueName ++ (v ++ [])) = _ at hvalue
    rw [List.append_nil] at hvalue
    rw [replaceAll, replaceAll, replaceAll, hjwt.replaceFrom_eq, hbearer.replaceFrom_eq, hvalue]
    rfl
  rw [redactList_eq, redactList_eq, hredact hv, hredact hw]

/-! ### Codes as texts -/

/-- Two codes are the same, or both are the name of a secret with some value. -/
inductive SameButValue : String → String → Prop
  | same (code : String) : SameButValue code code
  | values {v w : String} (hv : IsPlainValue v.toList) (hw : IsPlainValue w.toList) :
      SameButValue ("password=" ++ v) ("password=" ++ w)

/-- A text behind words, a colon and a blank. -/
lemma toList_append_phrase {text : String} {phrase : List Char} (h : text.toList = phrase ++ [':', ' '])
    (rest : String) : (text ++ rest).toList = phrase ++ ':' :: ' ' :: rest.toList := by
  rw [String.toList_append, h, List.append_assoc]
  rfl

lemma toList_valueName (v : String) : ("password=" ++ v).toList = valueName ++ v.toList :=
  String.toList_append

end Redaction

lemma redact_of_veiled {s s' : String} (h : Redaction.Veiled s.toList s'.toList) :
    redact s = redact s' := by
  rw [redact, redact, Redaction.redactList_of_veiled h]

lemma Redaction.SameButValue.redact_eq {code code' : String} (h : SameButValue code code') :
    redact code = redact code' := by
  cases h with
  | same code => rfl
  | values hv hw =>
    rw [redact, redact, toList_valueName, toList_valueName, redactList_code hv hw]

end Reindex
