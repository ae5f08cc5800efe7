import Reindex.Proofs.Redaction.Names

/-!
# Passages that do not come back

Replacing passages of one kind makes no passage of another kind. A shape that brackets put an end to and that
stands in the result stood in the text already, or it lies in what has been put in front of the brackets or
between them. So a kind that has been replaced throughout is found nowhere afterwards.
-/

namespace Reindex.Redaction

open Text

variable {m : Matcher} {inner cs : List Char} {start : Option Char → Bool} {s : Shape}

/-- The shape stands nowhere in the text where `start` holds of the character in front. -/
def Lacks (start : Option Char → Bool) (s : Shape) (cs : List Char) : Prop :=
  ∀ front back, cs = front ++ back → start front.getLast? = true → ¬ Begins s back

/-- A shape that brackets put an end to. It is looked for where words begin at least, and if not everywhere,
then it begins with a letter or a digit. -/
structure Bounded (start : Option Char → Bool) (s : Shape) : Prop where
  ne_nil : s ≠ []
  opening : Avoids s '['
  closing : Avoids s ']'
  of_isWordStart : ∀ before, isWordStart before = true → start before = true
  head : ∀ before c cs, start before = false → Begins s (c :: cs) → c.isAlphanum = true

/-- The ends of the shape that stand in front of the brackets of a replacement stood in the text. -/
def Carries (m : Matcher) (inner : List Char) (s : Shape) : Prop :=
  ∀ before cs hit kept, m before cs = some hit → hit.replacement = kept ++ '[' :: (inner ++ [']']) →
    ∀ t, t <:+ s → Begins t kept → Begins t cs

lemma Keeps.carries (h : Keeps m inner) : Carries m inner s :=
  fun before cs hit kept hhit hkept _ _ hbegins => hbegins.of_prefix (h before cs hit kept hhit hkept)

/-! ### One shape and one kind -/

/-- A shape that stands behind a step in the result stood behind it in the text. -/
lemma Begins.of_replaceFrom (hm : Marks m inner) (hopen : Avoids s '[') (hcarries : Carries m inner s)
    {before : Option Char} (h : Begins s (replaceFrom m 0 before cs)) : Begins s cs := by
  induction s generalizing before cs with
  | nil => trivial
  | cons p s ih =>
    cases cs with
    | nil => exact h
    | cons c cs =>
      cases hhit : m before (c :: cs) with
      | none =>
        rw [replaceFrom_of_none hhit] at h
        exact ⟨h.1, ih (hopen.suffix (List.suffix_cons p s))
          (fun _ _ _ _ hhit hkept t ht =>
            hcarries _ _ _ _ hhit hkept t (ht.trans (List.suffix_cons p s))) h.2⟩
      | some hit =>
        obtain ⟨kept, hkept⟩ := hm.exists_kept hhit
        rw [replaceFrom_of_some hhit, hkept, List.append_assoc, List.cons_append] at h
        exact hcarries _ _ _ _ hhit hkept _ List.suffix_rfl (h.of_append_stop hopen)

/-- A shape does not reach over a bracket, so it stands in front of it or behind it. -/
lemma Begins.exists_of_split (hs : Bounded start s) {kept w y more : List Char}
    (hsplit : kept ++ '[' :: (inner ++ [']']) = w ++ y) (hy : y ≠ []) (h : Begins s (y ++ more)) :
    ∃ z, Begins s z ∧ (z <:+ kept ∨ z <:+ inner) := by
  rcases List.append_eq_append_iff.mp hsplit with ⟨a, rfl, ha⟩ | ⟨a, rfl, rfl⟩
  · cases a with
    | nil =>
      rw [List.nil_append] at ha
      rw [← ha, List.cons_append, ← List.nil_append ('[' :: _)] at h
      exact absurd (h.of_append_stop hs.opening) (not_begins_nil hs.ne_nil)
    | cons c a =>
      have hsuffix : y <:+ inner ++ [']'] := by
        rw [List.cons_append, List.cons.injEq] at ha
        exact ⟨a, ha.2.symm⟩
      obtain ⟨z, rfl, hz⟩ := (List.suffix_concat_iff.mp hsuffix).resolve_left hy
      rw [List.append_assoc, List.singleton_append] at h
      exact ⟨z, h.of_append_stop hs.closing, .inr hz⟩
  · rw [List.append_assoc, List.cons_append] at h
    exact ⟨a, h.of_append_stop hs.opening, .inl (List.suffix_append w a)⟩

/-- A shape that is missing where nothing is found, and in what takes the place of passages, is missing in the
result. -/
lemma lacks_of_spared (hm : Marks m inner) (hs : Bounded start s) (hcarries : Carries m inner s)
    (hinner : ∀ z, z <:+ inner → ¬ Begins s z)
    (hkept : ∀ front rest hit kept, cs = front ++ rest → m front.getLast? rest = some hit →
      hit.replacement = kept ++ '[' :: (inner ++ [']']) → ∀ z, z <:+ kept → ¬ Begins s z)
    (hspared : ∀ front rest, cs = front ++ rest → m front.getLast? rest = none →
      start front.getLast? = true → ¬ Begins s rest) : Lacks start s (replaceAll m cs) := by
  intro front' back' heq hstart hbegins
  cases place_of_replaceAll hm heq with
  | @kept front rest _ h hnone =>
    have hbegins := hbegins.of_replaceFrom hm hs.opening hcarries
    refine hspared front rest h.text_eq hnone ?_ hbegins
    rcases h.getLast?_cases with hlast | hword | hend
    · rwa [← hlast]
    · exact hs.of_isWordStart _ hword
    · cases rest with
      | nil => exact absurd hbegins (not_begins_nil hs.ne_nil)
      | cons c rest =>
        by_contra hfront
        have hc := hs.head _ c rest (by simpa using hfront) hbegins
        rw [hend c rfl] at hc
        cases hc
  | inside h hhit hpassage hsplit hy =>
    obtain ⟨kept, hreplacement⟩ := hm.exists_kept hhit
    rw [hreplacement] at hsplit
    obtain ⟨z, hz, hz' | hz'⟩ := hbegins.exists_of_split hs hsplit hy
    · exact hkept _ _ _ kept h.text_eq hhit hreplacement z hz' hz
    · exact hinner z hz' hz

/-- Where only a part of the text is put in front of the brackets, a shape that is looked for everywhere stays
missing. -/
lemma lacks_of_keeps (hm : Marks m inner) (hkeeps : Keeps m inner) (hs : Bounded anywhere s)
    (hinner : ∀ z, z <:+ inner → ¬ Begins s z) (h : Lacks anywhere s cs) :
    Lacks anywhere s (replaceAll m cs) := by
  refine lacks_of_spared hm hs hkeeps.carries hinner ?_ fun front rest heq _ _ => h front rest heq rfl
  intro front rest hit kept heq hhit hkept z hz hbegins
  obtain ⟨x, rfl⟩ := hz
  obtain ⟨more, rfl⟩ := hkeeps _ _ _ _ hhit hkept
  refine h (front ++ x) (z ++ more) (by rw [heq]; simp) rfl (hbegins.append more)

/-- A class of the shape that no character belongs to. -/
lemma not_begins_of_class {p : Char → Bool} (hp : p ∈ s) (hinner : ∀ c ∈ inner, p c = false) :
    ∀ z, z <:+ inner → ¬ Begins s z := by
  intro z hz hbegins
  obtain ⟨c, hc, hpc⟩ := hbegins.exists_mem hp
  rw [hinner c (hz.subset hc)] at hpc
  cases hpc

lemma not_begins_of_length (h : inner.length < s.length) : ∀ z, z <:+ inner → ¬ Begins s z :=
  fun _ hz hbegins => absurd (hbegins.length_le.trans hz.length_le) (Nat.not_le.mpr h)

/-! ### Kinds that are found nowhere -/

/-- A kind is found nowhere in a text that lacks its shapes. -/
lemma Sought.eq_none {shapes : Shape → Prop} (hm : Sought m start shapes)
    (h : ∀ s, shapes s → Lacks start s cs) {front back : List Char} (heq : cs = front ++ back) :
    m front.getLast? back = none := by
  cases hhit : m front.getLast? back with
  | none => rfl
  | some hit =>
    obtain ⟨hstart, s, hs, hbegins⟩ := (hm.isSome_iff _ _).mp (by rw [hhit]; rfl)
    exact absurd hbegins (h s hs front back heq hstart)

/-- Where nothing is found, none of the shapes stands. -/
lemma Sought.not_begins {shapes : Shape → Prop} (hm : Sought m start shapes) (hs : shapes s)
    {before : Option Char} (hnone : m before cs = none) (hstart : start before = true) :
    ¬ Begins s cs := by
  intro hbegins
  have hsome := (hm.isSome_iff before cs).mpr ⟨hstart, s, hs, hbegins⟩
  rw [hnone] at hsome
  cases hsome

/-- Passages that are replaced by themselves leave the text as it is. -/
lemma replaceAll_eq_self (hm : Marks m inner)
    (h : ∀ front back hit, cs = front ++ back → m front.getLast? back = some hit →
      hit.replacement = back.take hit.length) : replaceAll m cs = cs := by
  suffices hback : ∀ (n : Nat) (front back : List Char), back.length = n → cs = front ++ back →
      replaceFrom m 0 front.getLast? back = back from hback cs.length [] cs rfl rfl
  intro n
  induction n using Nat.strongRecOn with
  | ind n ih =>
    intro front back hn heq
    cases back with
    | nil => rfl
    | cons c back =>
      cases hhit : m front.getLast? (c :: back) with
      | none =>
        have hrest := ih back.length (by rw [← hn]; exact Nat.lt_succ_self _) (front ++ [c]) back rfl
          (by rw [heq, List.append_assoc, List.singleton_append])
        rw [List.getLast?_concat] at hrest
        rw [replaceFrom_of_none hhit, hrest]
      | some hit =>
        obtain ⟨passage, rest, hpassage⟩ := hm.exists_passage hhit
        have htext := hpassage.text
        rw [htext] at hhit heq hn hpassage ⊢
        have hsame := h front _ hit heq hhit
        rw [← hpassage.length, List.take_left] at hsame
        have hshorter : rest.length < n := by
          have hpos := List.length_pos_iff.mpr hpassage.ne_nil
          rw [← hn, List.length_append]
          omega
        rw [hpassage.replaceFrom_eq hhit, hsame, ih rest.length hshorter (front ++ passage) rest rfl
          (by rw [heq, List.append_assoc])]

/-- A kind that is found nowhere leaves the text as it is. -/
lemma Sought.replaceAll_eq {shapes : Shape → Prop} (hm : Sought m start shapes) (hmarks : Marks m inner)
    (h : ∀ s, shapes s → Lacks start s cs) : replaceAll m cs = cs := by
  refine replaceAll_eq_self hmarks fun front back hit heq hhit => ?_
  rw [hm.eq_none h heq] at hhit
  cases hhit

/-! ### The shapes of the kinds -/

section

variable {c : Char} (hc : c = '[' ∨ c = ']')
include hc

lemma avoids_webShape (head body : Nat) : Avoids (webShape head body) c := by
  intro p hp
  simp only [webShape, List.mem_append, List.mem_cons, List.not_mem_nil, or_false,
    List.mem_replicate] at hp
  rcases hp with (rfl | rfl | rfl) | ⟨-, rfl⟩ | rfl | ⟨-, rfl⟩ | rfl <;> rcases hc with rfl | rfl <;> rfl

lemma avoids_bearerShape (gap : Nat) : Avoids (bearerShape gap) c := by
  intro p hp
  simp only [bearerShape, forms, List.mem_append, List.mem_map, List.mem_cons, List.not_mem_nil,
    or_false, List.mem_replicate] at hp
  rcases hp with ⟨w, hw, rfl⟩ | ⟨-, rfl⟩ | rfl
  · have hword : ("bearer".toList.any fun w => isFormOf w c) = false := by
      rcases hc with rfl | rfl <;> decide
    exact eq_false_of_any hword w hw
  · rcases hc with rfl | rfl <;> rfl
  · rcases hc with rfl | rfl <;> rfl

lemma avoids_runShape : Avoids runShape c := by
  intro p hp
  rw [(List.mem_replicate.mp hp).2]
  rcases hc with rfl | rfl <;> rfl

end

lemma bounded_webShape (head body : Nat) : Bounded anywhere (webShape head body) where
  ne_nil := List.cons_ne_nil _ _
  opening := avoids_webShape (.inl rfl) head body
  closing := avoids_webShape (.inr rfl) head body
  of_isWordStart _ _ := rfl
  head := nofun

/-- A bearer token begins with a letter. -/
lemma isAlphanum_of_bearerShape {gap : Nat} {c : Char} (h : Begins (bearerShape gap) (c :: cs)) :
    c.isAlphanum = true := by
  have hform : isFormOf 'b' c = true := h.1
  have hlower : c.toLower = 'b' := by simpa [isFormOf] using hform
  rcases toLower_cases c with hsame | ⟨hc, -⟩
  · rw [← hsame, hlower]
    rfl
  · exact hc

lemma bounded_bearerShape (gap : Nat) : Bounded isWordStart (bearerShape gap) where
  ne_nil := List.cons_ne_nil _ _
  opening := avoids_bearerShape (.inl rfl) gap
  closing := avoids_bearerShape (.inr rfl) gap
  of_isWordStart _ := id
  head _ _ _ _ := isAlphanum_of_bearerShape

lemma bounded_runShape : Bounded anywhere runShape where
  ne_nil := List.cons_ne_nil _ _
  opening := avoids_runShape (.inl rfl)
  closing := avoids_runShape (.inr rfl)
  of_isWordStart _ _ := rfl
  head := nofun

/-- A letter or digit, and behind it a form of a letter that is not an ASCII letter. -/
def joinedShape : Shape := [Char.isAlphanum, isLetterForm]

lemma bounded_joinedShape : Bounded anywhere joinedShape where
  ne_nil := List.cons_ne_nil _ _
  opening := List.forall_mem_cons.mpr ⟨rfl, List.forall_mem_singleton.mpr rfl⟩
  closing := List.forall_mem_cons.mpr ⟨rfl, List.forall_mem_singleton.mpr rfl⟩
  of_isWordStart _ _ := rfl
  head := nofun

/-! ### The text that takes the place of a bearer token -/

lemma kept_of_bearer {before : Option Char} {hit : Hit} {kept : List Char}
    (h : bearer before cs = some hit) (hkept : hit.replacement = kept ++ '[' :: ("REDACTED".toList ++ [']'])) :
    kept = "Bearer ".toList := by
  rw [(exists_of_bearer h).2.2.1] at hkept
  have hsplit : "Bearer ".toList ++ '[' :: ("REDACTED".toList ++ [']']) =
      kept ++ '[' :: ("REDACTED".toList ++ [']']) := hkept
  exact (List.append_cancel_right hsplit).symm

/-- The end of the shape is not in the text. -/
lemma carries_bearer_of_last {p : Char → Bool} {t : Shape} (hs : s = t ++ [p])
    (hp : ∀ c ∈ "Bearer ".toList, p c = false) : Carries bearer "REDACTED".toList s := by
  intro before cs hit kept hhit hkept t' ht' hbegins
  rw [kept_of_bearer hhit hkept] at hbegins
  rw [hs] at ht'
  rcases List.suffix_concat_iff.mp ht' with rfl | ⟨t', rfl, -⟩
  · trivial
  · exact absurd hbegins (not_begins_of_class (List.mem_append_right t' List.mem_cons_self) hp _
      List.suffix_rfl)

/-- Of the shape of a bearer token only the last character can stand at the beginning of the text, and so it
does where the word that announces the token stood. -/
lemma carries_bearer_bearerShape (gap : Nat) : Carries bearer "REDACTED".toList (bearerShape gap) := by
  intro before cs hit kept hhit hkept t ht hbegins
  rw [kept_of_bearer hhit hkept] at hbegins
  have hshape : bearerShape gap =
      forms "bearer".toList ++ List.replicate gap isBlankChar ++ [isBlankChar] ++ [isBearerChar] := by
    rw [bearerShape, List.replicate_succ', List.append_assoc, List.append_assoc, List.append_assoc]
  rw [hshape] at ht
  rcases List.suffix_concat_iff.mp ht with rfl | ⟨t, rfl, ht'⟩
  · trivial
  · rcases List.suffix_concat_iff.mp ht' with rfl | ⟨t, rfl, -⟩
    · obtain ⟨-, _, ⟨gap', rfl⟩, hhere⟩ := (sought_bearer.isSome_iff before cs).mp (by rw [hhit]; rfl)
      cases cs with
      | nil => exact hhere
      | cons c cs => exact ⟨by simp [isBearerChar, isAlphanum_of_bearerShape hhere], trivial⟩
    · have hblank : ∀ c ∈ "Bearer".toList, isBlankChar c = false := eq_false_of_any (by decide)
      have hbearer : "Bearer ".toList = "Bearer".toList ++ [' '] := rfl
      rw [hbearer] at hbegins
      exact absurd hbegins.dropLast (not_begins_of_class (List.mem_append_right t List.mem_cons_self)
        hblank _ List.suffix_rfl)

/-! ### One kind after the other -/

/-- With nothing in front of the brackets, only what is spared counts. -/
lemma lacks_of_brackets (hm : Marks m inner)
    (hbrackets : ∀ before cs hit, m before cs = some hit → hit.replacement = '[' :: (inner ++ [']']))
    (hs : Bounded start s) (hinner : ∀ z, z <:+ inner → ¬ Begins s z)
    (hspared : ∀ front rest, cs = front ++ rest → m front.getLast? rest = none →
      start front.getLast? = true → ¬ Begins s rest) : Lacks start s (replaceAll m cs) := by
  refine lacks_of_spared hm hs (keeps_of_brackets hbrackets).carries hinner ?_ hspared
  intro front rest hit kept _ hhit hkept z hz
  rw [hbrackets _ _ _ hhit] at hkept
  obtain rfl : kept = [] := List.append_left_eq_self.mp hkept.symm
  rw [List.suffix_nil.mp hz]
  exact not_begins_nil hs.ne_nil

lemma webToken_brackets (before : Option Char) (cs : List Char) (hit : Hit)
    (h : webToken before cs = some hit) : hit.replacement = '[' :: ("REDACTED_JWT".toList ++ [']']) :=
  replacement_of_webToken h

lemma longBase64_brackets (before : Option Char) (cs : List Char) (hit : Hit)
    (h : longBase64 before cs = some hit) :
    hit.replacement = '[' :: ("REDACTED_BASE64".toList ++ [']']) :=
  replacement_of_longBase64 h

/-- A shape whose end is neither in the word that announces a token nor between the brackets does not come
with what takes the place of bearer tokens. -/
lemma lacks_behind_bearer {p : Char → Bool} {t : Shape} (hst : s = t ++ [p]) (hs : Bounded anywhere s)
    (hword : ∀ c ∈ "Bearer ".toList, p c = false) (hinner : ∀ c ∈ "REDACTED".toList, p c = false)
    (h : Lacks anywhere s cs) : Lacks anywhere s (replaceAll bearer cs) := by
  have hp : p ∈ s := by
    rw [hst]
    exact List.mem_append_right t List.mem_cons_self
  refine lacks_of_spared marks_bearer hs (carries_bearer_of_last hst hword)
    (not_begins_of_class hp hinner) ?_ fun front rest heq _ _ => h front rest heq rfl
  intro front rest hit kept _ hhit hkept
  rw [kept_of_bearer hhit hkept]
  exact not_begins_of_class hp hword

section

variable (head body gap : Nat) (cs : List Char)

lemma dot_mem_webShape : (· == '.') ∈ webShape head body := by simp [webShape]

lemma blank_mem_bearerShape : isBlankChar ∈ bearerShape gap := by simp [bearerShape]

lemma lacks_webToken : Lacks anywhere (webShape head body) (replaceAll webToken cs) :=
  lacks_of_brackets marks_webToken webToken_brackets (bounded_webShape head body)
    (not_begins_of_class (dot_mem_webShape head body) (eq_false_of_any (by decide)))
    fun _ _ _ hnone => sought_webToken.not_begins ⟨head, body, rfl⟩ hnone

lemma lacks_bearer : Lacks isWordStart (bearerShape gap) (replaceAll bearer cs) := by
  refine lacks_of_spared marks_bearer (bounded_bearerShape gap) (carries_bearer_bearerShape gap)
    (not_begins_of_class (blank_mem_bearerShape gap) (eq_false_of_any (by decide))) ?_
    fun _ _ _ hnone => sought_bearer.not_begins ⟨gap, rfl⟩ hnone
  intro front rest hit kept _ hhit hkept
  rw [kept_of_bearer hhit hkept]
  apply not_begins_of_length
  simp [bearerShape, forms]

lemma lacks_longBase64 : Lacks anywhere runShape (replaceAll longBase64 cs) :=
  lacks_of_brackets marks_longBase64 longBase64_brackets bounded_runShape
    (not_begins_of_length (by decide)) fun _ _ _ hnone => sought_longBase64.not_begins rfl hnone

variable {head body gap cs}

lemma Lacks.webToken_bearer (h : Lacks anywhere (webShape head body) cs) :
    Lacks anywhere (webShape head body) (replaceAll bearer cs) := by
  have hend : webShape head body = [(· == 'e'), (· == 'y'), (· == 'J')] ++
      (List.replicate (head + 1) isTokenChar ++ (· == '.') :: List.replicate (body + 1) isTokenChar) ++
        [(· == '.')] := by simp [webShape]
  exact lacks_behind_bearer hend (bounded_webShape head body) (eq_false_of_any (by decide))
    (eq_false_of_any (by decide)) h

lemma Lacks.webToken_sensitivePair (h : Lacks anywhere (webShape head body) cs) :
    Lacks anywhere (webShape head body) (replaceAll sensitivePair cs) :=
  lacks_of_keeps marks_sensitivePair keeps_sensitivePair (bounded_webShape head body)
    (not_begins_of_class (dot_mem_webShape head body) (eq_false_of_any (by decide))) h

lemma Lacks.webToken_longBase64 (h : Lacks anywhere (webShape head body) cs) :
    Lacks anywhere (webShape head body) (replaceAll longBase64 cs) :=
  lacks_of_keeps marks_longBase64 (keeps_of_brackets longBase64_brackets) (bounded_webShape head body)
    (not_begins_of_class (dot_mem_webShape head body) (eq_false_of_any (by decide))) h

/-- No letter of a name is a form of the first letter of the word that announces a bearer token. -/
lemma Lacks.bearer_sensitivePair (h : Lacks isWordStart (bearerShape gap) cs) :
    Lacks isWordStart (bearerShape gap) (replaceAll sensitivePair cs) := by
  refine lacks_of_spared marks_sensitivePair (bounded_bearerShape gap) keeps_sensitivePair.carries
    (not_begins_of_class (blank_mem_bearerShape gap) (eq_false_of_any (by decide))) ?_
    fun front rest heq _ => h front rest heq
  intro front rest hit kept _ hhit hkept
  obtain ⟨-, label, value, rest', hpair, rfl⟩ := sensitivePair_eq_some_iff.mp hhit
  obtain rfl : label = kept := List.append_cancel_right hkept
  have hfirst : isFormOf 'b' ∈ bearerShape gap := List.mem_cons_self
  exact not_begins_of_class hfirst hpair.label.isFormOf_b

lemma Lacks.bearer_longBase64 (h : Lacks isWordStart (bearerShape gap) cs) :
    Lacks isWordStart (bearerShape gap) (replaceAll longBase64 cs) :=
  lacks_of_brackets marks_longBase64 longBase64_brackets (bounded_bearerShape gap)
    (not_begins_of_class (blank_mem_bearerShape gap) (eq_false_of_any (by decide)))
    fun front rest heq _ => h front rest heq

lemma Lacks.longBase64_sensitivePair (h : Lacks anywhere runShape cs) :
    Lacks anywhere runShape (replaceAll sensitivePair cs) :=
  lacks_of_keeps marks_sensitivePair keeps_sensitivePair bounded_runShape
    (not_begins_of_length (by decide)) h

/-- No kind joins letters of a text that did not stand together. -/
lemma Lacks.joined (h : Lacks anywhere joinedShape cs) : Lacks anywhere joinedShape
    (replaceAll sensitivePair (replaceAll bearer (replaceAll webToken cs))) := by
  have hform : isLetterForm ∈ joinedShape := List.mem_cons_of_mem _ List.mem_cons_self
  have hweb := lacks_of_keeps marks_webToken (keeps_of_brackets webToken_brackets) bounded_joinedShape
    (not_begins_of_class hform (eq_false_of_any (by decide))) h
  have hbearer := lacks_behind_bearer (t := [Char.isAlphanum]) rfl bounded_joinedShape
    (eq_false_of_any (by decide)) (eq_false_of_any (by decide)) hweb
  exact lacks_of_keeps marks_sensitivePair keeps_sensitivePair bounded_joinedShape
    (not_begins_of_class hform (eq_false_of_any (by decide))) hbearer

end

end Reindex.Redaction
