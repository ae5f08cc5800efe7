import Reindex.Proofs.Redaction.Settled

/-!
# Texts that are redacted twice

A redacted text holds no web token, no bearer token and no long run of Base64. It may hold a value behind the
name of a secret in one way only: a name that begins with one of the two forms of letters beyond ASCII stands
right behind what has taken the place of a run. Where that is so, and nowhere else, the text changes when it is
redacted again; after that it does not change any more.
-/

namespace Reindex

namespace Redaction

open Text

variable {m : Matcher} {inner cs front back rest done label value : List Char} {before : Option Char}

/-! ### Long runs of Base64 in a settled text -/

/-- With nothing in front of the brackets, what is put out before the first bracket was there before. -/
lemma exists_of_replaceFrom_append
    (hbrackets : ∀ before cs hit, m before cs = some hit → hit.replacement = '[' :: (inner ++ [']']))
    {x out : List Char} (hx : '[' ∉ x) (h : replaceFrom m 0 before cs = x ++ out) :
    ∃ rest before', cs = x ++ rest ∧ out = replaceFrom m 0 before' rest := by
  induction x generalizing before cs with
  | nil => exact ⟨cs, before, rfl, h.symm⟩
  | cons c x ih =>
    cases cs with
    | nil => cases h
    | cons d cs =>
      cases hhit : m before (d :: cs) with
      | none =>
        rw [replaceFrom_of_none hhit] at h
        obtain ⟨rfl, hrest⟩ := List.cons.inj h
        obtain ⟨rest, before', rfl, hout⟩ := ih (fun hmem => hx (List.mem_cons_of_mem d hmem)) hrest
        exact ⟨rest, before', rfl, hout⟩
      | some hit =>
        rw [replaceFrom_of_some hhit, hbrackets _ _ _ hhit] at h
        obtain ⟨rfl, -⟩ := List.cons.inj h
        exact absurd List.mem_cons_self hx

lemma longBase64_of_not_isValueChar {c : Char} (hc : isValueChar c = false) (before : Option Char)
    (rest : List Char) : longBase64 before (c :: rest) = none := by
  cases hhit : longBase64 before (c :: rest) with
  | none => rfl
  | some hit =>
    obtain ⟨d, more, htext, hd⟩ := values_longBase64 _ _ _ [] hhit (longBase64_brackets _ _ _ hhit)
    obtain ⟨rfl, -⟩ := List.cons.inj htext
    rw [hc] at hd
    cases hd

/-- The text that takes the place of a value holds no long run. -/
lemma replaceFrom_longBase64_redacted (before : Option Char) (rest : List Char) :
    replaceFrom longBase64 0 before ("[REDACTED]".toList ++ rest) =
      "[REDACTED]".toList ++ replaceFrom longBase64 0 (some ']') rest := rfl

/-- A value that has been replaced stays as it is. -/
lemma IsPair.of_longBase64 {rest : List Char} (h : IsPair cs label "[REDACTED]".toList rest)
    {value' rest' : List Char} (h' : IsPair (replaceFrom longBase64 0 before cs) label value' rest') :
    value' = "[REDACTED]".toList := by
  obtain ⟨more, before', htext, hout⟩ :=
    exists_of_replaceFrom_append longBase64_brackets (h'.label.not_mem (.inl rfl)) h'.text
  obtain rfl : more = "[REDACTED]".toList ++ rest := List.append_cancel_left (htext.symm.trans h.text)
  rw [replaceFrom_longBase64_redacted] at hout
  have hbreaks := h.breaks.replaceFrom (fun _ => longBase64_of_not_isValueChar) (some ']')
  have hhere : IsPair (replaceFrom longBase64 0 before cs) label "[REDACTED]".toList _ :=
    ⟨by rw [h'.text, hout], h.label, h.ne_nil, h.value, hbreaks⟩
  exact (hhere.unique h').2.1

/-- A run that no word begins behind ends with a letter or a digit. -/
lemma exists_last_of_longBase64 {hit : Hit} {passage : List Char} (hhit : longBase64 before cs = some hit)
    (hpassage : Covers cs hit.length passage rest) (hend : isWordStart passage.getLast? = false) :
    ∃ xs d, passage = xs ++ [d] ∧ d.isAlphanum = true := by
  obtain ⟨passage', rest', hpassage', hchars⟩ := exists_of_longBase64 hhit
  obtain ⟨rfl, -⟩ := hpassage.unique hpassage'
  obtain ⟨xs, d, rfl⟩ := (List.eq_nil_or_concat' passage').resolve_left hpassage.ne_nil
  refine ⟨xs, d, rfl, ?_⟩
  rw [List.getLast?_concat] at hend
  have hd := hchars d (by simp)
  simp only [isBase64Char, Bool.or_eq_true, decide_eq_true_eq] at hd
  rcases hd with ((hd | rfl) | rfl) | rfl
  · exact hd
  · cases hend
  · cases hend
  · cases hend

/-- A name begins with an ASCII letter or with one of the two forms beyond. -/
lemma isLetterForm_of_initial {i c : Char} (hi : i ∈ initials) (hform : isFormOf i c = true)
    (hc : c.isAlphanum = false) : isLetterForm c = true := by
  have hinitials : ∀ i ∈ initials, i.isAlphanum = true := List.all_eq_true.mp (by decide)
  simp only [isFormOf, Bool.or_eq_true, Bool.and_eq_true, decide_eq_true_eq] at hform
  rcases hform with (rfl | ⟨-, rfl⟩) | ⟨-, rfl⟩
  · rcases toLower_cases c with hsame | ⟨hplain, -⟩
    · rw [← hsame, hinitials _ hi] at hc
      cases hc
    · rw [hc] at hplain
      cases hplain
  · rfl
  · rfl

/-- Replacing long runs in a settled text brings a value to light only behind a name that begins with a form
of a letter beyond ASCII and that stood right behind a letter or a digit of such a run. -/
lemma Settled.exists_of_longBase64 (h : Settled cs) {front' back' value' rest' : List Char}
    (heq : replaceAll longBase64 cs = front' ++ back') (hstart : isWordStart front'.getLast? = true)
    (hpair' : IsPair back' label value' rest') (hvalue : value' ≠ "[REDACTED]".toList) :
    ∃ front c letters, front' = front ++ "[REDACTED_BASE64]".toList ∧ label = c :: letters ∧
      isLetterForm c = true ∧ ¬ Lacks anywhere joinedShape cs := by
  obtain ⟨c, letters, rfl, i, hi, hform⟩ := hpair'.label.exists_head
  cases place_of_replaceAll marks_longBase64 heq with
  | @kept front rest _ hscan hnone =>
    obtain ⟨value, more, hpair⟩ := values_longBase64.exists_pair marks_longBase64 hpair'
    have hnever : isWordStart front.getLast? = false := by
      by_contra hword
      obtain rfl := h front rest _ value more hscan.text_eq (by simpa using hword) hpair
      exact hvalue (hpair.of_longBase64 hpair')
    rcases hscan.getLast?_eq_or with hlast | ⟨front, passage, done, hit, rfl, rfl, hhit, hpassage⟩
    · rw [hlast, hnever] at hstart
      cases hstart
    · rw [List.getLast?_append_of_ne_nil front hpassage.ne_nil] at hnever
      obtain ⟨xs, d, rfl, hd⟩ := exists_last_of_longBase64 hhit hpassage hnever
      have hc : c.isAlphanum = false := by
        have hends := hpassage.ends.resolve_left (by rw [hnever]; exact Bool.false_ne_true)
        exact hends c (by rw [hpair.text]; rfl)
      have hletter := isLetterForm_of_initial hi hform hc
      refine ⟨done, c, letters, by rw [replacement_of_longBase64 hhit], rfl, hletter, fun hlacks => ?_⟩
      refine hlacks (front ++ xs) (d :: rest) ?_ rfl ⟨hd, ?_⟩
      · rw [hscan.text_eq]
        simp
      · rw [hpair.text]
        exact ⟨hletter, trivial⟩
  | @inside front passage rest done hit w y hscan hhit hpassage hsplit hy =>
    obtain ⟨d, y, rfl⟩ := List.exists_cons_of_ne_nil hy
    obtain ⟨rfl, -⟩ := List.cons.inj hpair'.text
    rw [replacement_of_longBase64 hhit] at hsplit
    rw [not_isFormOf_in_text (List.mem_cons_of_mem _ List.mem_cons_self) hsplit ?_ i hi] at hform
    · cases hform
    · by_cases hw : w = []
      · rw [hw]
        rfl
      · rwa [List.getLast?_append_of_ne_nil _ hw] at hstart

/-! ### Values that stay when values are replaced -/

/-- If a text does not change when values are replaced, then no part of it does. -/
lemma Scan.done_eq (hfixed : replaceAll sensitivePair cs = cs) (h : Scan sensitivePair cs front rest done) :
    done = front := by
  induction h with
  | start => rfl
  | kept h hnone ih => rw [ih]
  | @replaced front passage rest done hit h hhit hpassage ih =>
    obtain ⟨-, label, value, more, hpair, rfl⟩ := sensitivePair_eq_some_iff.mp hhit
    obtain ⟨rfl, rfl⟩ := hpair.covers.unique hpassage
    have hsame := (h.replaced hhit hpassage).replaceAll_eq
    have hbreaks := hpair.breaks.replaceFrom (fun _ => sensitivePair_of_not_isValueChar)
      (front ++ (label ++ value)).getLast?
    rw [hfixed, ih] at hsame
    generalize replaceFrom sensitivePair 0 (front ++ (label ++ value)).getLast? rest = out at hsame hbreaks
    have hback : label ++ value ++ rest = label ++ ("[REDACTED]".toList ++ out) := by
      rw [h.text_eq] at hsame
      simpa only [pairHit, List.append_assoc, List.append_cancel_left_eq] using hsame
    have hhere : IsPair (label ++ value ++ rest) label "[REDACTED]".toList _ :=
      ⟨hback, hpair.label, by decide, List.all_eq_true.mp (by decide), hbreaks⟩
    rw [ih, pairHit, (hpair.unique hhere).2.1]

/-- Behind a closing bracket, a value stays only if it is what takes the place of values. -/
lemma value_of_replaceAll_eq (hfixed : replaceAll sensitivePair cs = cs) (heq : cs = front ++ back)
    (hlast : front.getLast? = some ']') (hpair : IsPair back label value rest) :
    value = "[REDACTED]".toList := by
  cases reach marks_sensitivePair heq with
  | step hscan =>
    have htext := hpair.covers.text
    have hstart : isWordStart front.getLast? = true := by
      rw [hlast]
      rfl
    have hhit := hpair.sensitivePair_eq hstart
    have hcovers := hpair.covers
    rw [htext] at hscan hhit hcovers
    have hafter := (hscan.replaced hhit hcovers).done_eq hfixed
    rw [hscan.done_eq hfixed, pairHit] at hafter
    exact (List.append_cancel_left (List.append_cancel_left hafter)).symm
  | @within front' w y rest' done hit hscan hhit hpassage hw hy =>
    -- Of a pair with such a value, only the last character is a closing bracket.
    obtain ⟨-, label', value', more, hpair', rfl⟩ := sensitivePair_eq_some_iff.mp hhit
    have hafter := (hscan.replaced hhit hpassage).done_eq hfixed
    rw [hscan.done_eq hfixed, pairHit] at hafter
    have hsplit := List.append_cancel_left hafter
    have hopen : label' ++ "[REDACTED]".toList = (label' ++ "[REDACTED".toList) ++ [']'] := by
      rw [List.append_assoc]
      rfl
    obtain ⟨z, c, rfl⟩ := (List.eq_nil_or_concat' y).resolve_left hy
    dsimp only at hsplit
    rw [hopen, ← List.append_assoc] at hsplit
    have hfront := (List.append_inj' hsplit rfl).1
    have hmem : ']' ∈ label' ++ "[REDACTED".toList := by
      rw [hfront]
      rw [List.getLast?_append_of_ne_nil _ hw] at hlast
      exact List.mem_append_left z (List.mem_of_getLast? hlast)
    rcases List.mem_append.mp hmem with hmem | hmem
    · exact absurd hmem (hpair'.label.not_mem (.inr rfl))
    · exact absurd hmem (by decide)

/-! ### Redacted texts -/

/-- A value is bare behind a name that begins with a form of a letter beyond ASCII, right behind what has taken
the place of a long run of Base64. -/
inductive Bares : List Char → Prop
  | intro (front : List Char) {back : List Char} {c : Char} {letters value rest : List Char}
      (hpair : IsPair back (c :: letters) value rest) (hc : isLetterForm c = true)
      (hvalue : value ≠ "[REDACTED]".toList) :
      Bares (front ++ "[REDACTED_BASE64]".toList ++ back)

lemma Bares.replaceAll_ne (h : Bares cs) : replaceAll sensitivePair cs ≠ cs := by
  obtain ⟨front, hpair, -, hvalue⟩ := h
  intro hfixed
  refine hvalue (value_of_replaceAll_eq hfixed rfl ?_ hpair)
  rw [List.getLast?_append_of_ne_nil front (by decide)]
  rfl

/-- When long runs have been replaced in a settled text, only bare values are left. -/
lemma Settled.bares_or (h : Settled cs) (hnot : ¬ Bares (replaceAll longBase64 cs)) :
    Settled (replaceAll longBase64 cs) := by
  intro front back label value rest heq hstart hpair
  by_contra hvalue
  obtain ⟨front, c, letters, rfl, rfl, hc, -⟩ := h.exists_of_longBase64 heq hstart hpair hvalue
  rw [heq] at hnot
  exact hnot (.intro front hpair hc hvalue)

lemma Settled.not_lacks_of_bares (h : Settled cs)
    (hbares : Bares (replaceAll longBase64 cs)) : ¬ Lacks anywhere joinedShape cs := by
  generalize heq : replaceAll longBase64 cs = cs' at hbares
  obtain ⟨front, hpair, hc, hvalue⟩ := hbares
  have hstart : isWordStart (front ++ "[REDACTED_BASE64]".toList).getLast? = true := by
    rw [List.getLast?_append_of_ne_nil front (by decide)]
    rfl
  obtain ⟨-, -, -, -, -, -, hlacks⟩ := h.exists_of_longBase64 heq hstart hpair hvalue
  exact hlacks

/-! ### All kinds -/

/-- No web token, no bearer token and no long run is found in the text. -/
structure IsFree (cs : List Char) : Prop where
  webTokens : ∀ head body, Lacks anywhere (webShape head body) cs
  bearerTokens : ∀ gap, Lacks isWordStart (bearerShape gap) cs
  runs : Lacks anywhere runShape cs

namespace IsFree

variable (h : IsFree cs)
include h

lemma replaceAll_eq : ∀ m ∈ [webToken, bearer, longBase64], replaceAll m cs = cs := by
  have hwebTokens : replaceAll webToken cs = cs := sought_webToken.replaceAll_eq marks_webToken (by
    rintro _ ⟨head, body, rfl⟩
    exact h.webTokens head body)
  have hbearerTokens : replaceAll bearer cs = cs := sought_bearer.replaceAll_eq marks_bearer (by
    rintro _ ⟨gap, rfl⟩
    exact h.bearerTokens gap)
  have hruns : replaceAll longBase64 cs = cs := sought_longBase64.replaceAll_eq marks_longBase64 (by
    rintro _ rfl
    exact h.runs)
  simpa using ⟨hwebTokens, hbearerTokens, hruns⟩

lemma sensitivePair : IsFree (replaceAll sensitivePair cs) where
  webTokens head body := (h.webTokens head body).webToken_sensitivePair
  bearerTokens gap := (h.bearerTokens gap).bearer_sensitivePair
  runs := h.runs.longBase64_sensitivePair

/-- Only the values behind names are replaced. -/
lemma redactList_eq : redactList cs = replaceAll Redaction.sensitivePair cs := by
  rw [Redaction.redactList_eq, h.replaceAll_eq webToken (by simp), h.replaceAll_eq bearer (by simp),
    h.sensitivePair.replaceAll_eq longBase64 (by simp)]

end IsFree

variable (cs)

lemma isFree_redactList : IsFree (redactList cs) where
  webTokens head body := (lacks_webToken head body cs).webToken_bearer.webToken_sensitivePair.webToken_longBase64
  bearerTokens gap := (lacks_bearer gap (replaceAll webToken cs)).bearer_sensitivePair.bearer_longBase64
  runs := lacks_longBase64 _

/-- The text when only long runs are left to be replaced. -/
def beforeRuns (cs : List Char) : List Char :=
  replaceAll sensitivePair (replaceAll bearer (replaceAll webToken cs))

lemma settled_beforeRuns : Settled (beforeRuns cs) := settled_replaceAll _

lemma replaceAll_sensitivePair_redactList :
    replaceAll sensitivePair (redactList cs) = redactList cs ↔ ¬ Bares (redactList cs) := by
  refine ⟨fun hfixed hbares => hbares.replaceAll_ne hfixed, fun hnot => ?_⟩
  exact ((settled_beforeRuns cs).bares_or hnot).replaceAll_eq

/-- A text that has been redacted twice is settled. -/
lemma redactList_redactList_redactList :
    redactList (redactList (redactList cs)) = redactList (redactList cs) := by
  have hfree := isFree_redactList cs
  rw [hfree.redactList_eq, hfree.sensitivePair.redactList_eq]
  exact (settled_replaceAll _).replaceAll_eq

/-- A bare value needs two characters that stood together in the text. -/
lemma exists_joined_of_bares (h : Bares (redactList cs)) :
    ∃ d c, d.isAlphanum = true ∧ isLetterForm c = true ∧ [d, c] <:+: cs := by
  by_contra hnone
  refine (settled_beforeRuns cs).not_lacks_of_bares h (Lacks.joined fun front back heq _ hbegins => ?_)
  match back, hbegins with
  | d :: c :: back, ⟨hd, hc, _⟩ => exact hnone ⟨d, c, hd, hc, front, back, by rw [heq]; simp⟩

end Redaction

open Redaction

/-- In a redacted text there is nothing left to replace for three of the four kinds. For the values behind names
there is something left, and so the text changes when it is redacted again, exactly if a value is bare in it;
that takes one of two letters beyond ASCII right behind an ASCII letter or digit of the original text. A text
that has been redacted twice never changes. -/
theorem redact_redact (s : String) :
    (∀ m ∈ [webToken, bearer, longBase64], replaceAll m (redact s).toList = (redact s).toList) ∧
      (replaceAll sensitivePair (redact s).toList = (redact s).toList ↔ ¬ Bares (redact s).toList) ∧
      (redact (redact s) = redact s ↔ ¬ Bares (redact s).toList) ∧
      (Bares (redact s).toList →
        ∃ d c, d.isAlphanum = true ∧ isLetterForm c = true ∧ [d, c] <:+: s.toList) ∧
      redact (redact (redact s)) = redact (redact s) := by
  have hredact : ∀ t, (redact t).toList = redactList t.toList := fun t => String.toList_ofList
  have heq_iff : ∀ t u, redact t = redact u ↔ redactList t.toList = redactList u.toList := fun t u =>
    ⟨fun h => by rw [← hredact, h, hredact], fun h => by rw [redact, h, redact]⟩
  have hfree := isFree_redactList s.toList
  refine ⟨?_, ?_, ?_, ?_, ?_⟩
  · rw [hredact]
    exact hfree.replaceAll_eq
  · rw [hredact]
    exact replaceAll_sensitivePair_redactList s.toList
  · rw [heq_iff, hredact, hfree.redactList_eq]
    exact replaceAll_sensitivePair_redactList s.toList
  · rw [hredact]
    exact exists_joined_of_bares s.toList
  · rw [heq_iff, hredact, hredact]
    exact redactList_redactList_redactList s.toList

/-- A long run of Base64 and right behind it a name that begins with a long `s`. -/
def runBeforeName : String :=
  String.ofList (List.replicate 48 'A' ++ '\u017F' :: "ecret=hunter2".toList)

/-- The value is replaced only when the text is redacted again. -/
theorem redact_redact_runBeforeName :
    redact runBeforeName = "[REDACTED_BASE64]\u017Fecret=hunter2" ∧
      replaceAll sensitivePair (redact runBeforeName).toList ≠ (redact runBeforeName).toList ∧
      redact (redact runBeforeName) ≠ redact runBeforeName := by
  decide +kernel

end Reindex
