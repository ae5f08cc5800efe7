import Mathlib.Tactic.Common
import Reindex.Secret.Redaction

/-!
# Where passages end

A passage that is replaced ends where a character stands that it cannot have. So a text can be taken
apart at such a character, and what is in front of it is replaced without regard to what is behind.
Colons, semicolons and parentheses end web tokens and bearer tokens, but not the values behind the
names of secrets: a colon may be the sign in between.
-/

namespace Reindex.Redaction

open Text

variable {m : Matcher}

/-! ### Runs of characters -/

lemma takeWhile_append_stop {p : Char → Bool} {c : Char} (h : p c = false) (xs rest : List Char) :
    (xs ++ c :: rest).takeWhile p = xs.takeWhile p := by
  induction xs with
  | nil => simp [h]
  | cons x xs ih =>
    rw [List.cons_append, List.takeWhile_cons, List.takeWhile_cons, ih]

lemma dropWhile_append_stop {p : Char → Bool} {c : Char} (h : p c = false) (xs rest : List Char) :
    (xs ++ c :: rest).dropWhile p = xs.dropWhile p ++ c :: rest := by
  induction xs with
  | nil => simp [h]
  | cons x xs ih =>
    rw [List.cons_append, List.dropWhile_cons, List.dropWhile_cons]
    split
    · exact ih
    · rfl

lemma length_takeWhile_add_dropWhile (p : Char → Bool) (xs : List Char) :
    (xs.takeWhile p).length + (xs.dropWhile p).length = xs.length := by
  rw [← List.length_append, List.takeWhile_append_dropWhile]

lemma eq_false_of_any {p : Char → Bool} {cs : List Char} (h : cs.any p = false) :
    ∀ c ∈ cs, p c = false :=
  fun c hc => Bool.eq_false_iff.mpr (List.any_eq_false.mp h c hc)

/-- A word ends where a character stands that is a form of none of its letters. -/
lemma behindWord?_append_stop {c : Char} :
    ∀ {word : List Char}, (∀ w ∈ word, isFormOf w c = false) → ∀ (xs rest : List Char),
      behindWord? word (xs ++ c :: rest) = (behindWord? word xs).map (· ++ c :: rest)
  | [], _, _, _ => rfl
  | w :: word, h, [], rest => by
    rw [List.nil_append, behindWord?, behindWord?, h w List.mem_cons_self]
    rfl
  | w :: word, h, x :: xs, rest => by
    rw [List.cons_append, behindWord?, behindWord?]
    split
    · exact behindWord?_append_stop (fun w hw => h w (List.mem_cons_of_mem _ hw)) xs rest
    · rfl

/-- The text behind a word is the end of the text that the word begins. -/
lemma exists_of_behindWord? :
    ∀ {word cs rest : List Char}, behindWord? word cs = some rest →
      ∃ letters, cs = letters ++ rest ∧ letters.length = word.length
  | [], cs, rest, h => by
    cases h
    exact ⟨[], rfl, rfl⟩
  | w :: word, [], rest, h => by cases h
  | w :: word, c :: cs, rest, h => by
    rw [behindWord?] at h
    split at h
    · obtain ⟨letters, rfl, hlength⟩ := exists_of_behindWord? h
      exact ⟨c :: letters, rfl, congrArg Nat.succ hlength⟩
    · cases h

/-! ### Passages one after the other -/

lemma replaceFrom_of_none {before : Option Char} {c : Char} {rest : List Char}
    (h : m before (c :: rest) = none) :
    replaceFrom m 0 before (c :: rest) = c :: replaceFrom m 0 (some c) rest := by
  rw [replaceFrom, h]

lemma replaceFrom_of_some {before : Option Char} {c : Char} {rest : List Char} {hit : Hit}
    (h : m before (c :: rest) = some hit) :
    replaceFrom m 0 before (c :: rest) =
      hit.replacement ++ replaceFrom m (hit.length - 1) (some c) rest := by
  rw [replaceFrom, h]

/-- The last of some characters, or what is in front of them if there are none. -/
def lastOr (before : Option Char) (cs : List Char) : Option Char := cs.getLast?.or before

lemma lastOr_cons (before : Option Char) (c : Char) (cs : List Char) :
    lastOr before (c :: cs) = lastOr (some c) cs := by
  rw [lastOr, lastOr, List.getLast?_cons]
  cases cs.getLast? <;> rfl

lemma lastOr_append (before : Option Char) (xs ys : List Char) :
    lastOr before (xs ++ ys) = lastOr (lastOr before xs) ys := by
  rw [lastOr, lastOr, lastOr, List.getLast?_append, Option.or_assoc]

/-- What belongs to a passage is passed over, and it may be more. -/
lemma replaceFrom_beyond (m : Matcher) (passed rest : List Char) (more : Nat) (before : Option Char) :
    replaceFrom m (passed.length + more) before (passed ++ rest) =
      replaceFrom m more (lastOr before passed) rest := by
  induction passed generalizing before with
  | nil => rw [List.length_nil, Nat.zero_add]; rfl
  | cons c passed ih =>
    rw [lastOr_cons, List.length_cons, Nat.succ_add, List.cons_append, replaceFrom, ih]

lemma replaceFrom_passed (m : Matcher) (passed rest : List Char) (before : Option Char) :
    replaceFrom m passed.length before (passed ++ rest) =
      replaceFrom m 0 (lastOr before passed) rest :=
  replaceFrom_beyond m passed rest 0 before

/-- A passage that begins with some characters is replaced, and what is left of it is passed over. -/
lemma replaceFrom_hit {before : Option Char} {cs rest : List Char} {hit : Hit} {more : Nat}
    (h : m before (cs ++ rest) = some hit) (hne : cs ≠ []) (hlength : hit.length = cs.length + more) :
    replaceFrom m 0 before (cs ++ rest) =
      hit.replacement ++ replaceFrom m more (lastOr before cs) rest := by
  cases cs with
  | nil => exact absurd rfl hne
  | cons c cs =>
    have hpassed : hit.length - 1 = cs.length + more := by
      rw [hlength, List.length_cons, Nat.add_right_comm, Nat.add_sub_cancel]
    rw [List.cons_append] at h ⊢
    rw [replaceFrom_of_some h, hpassed, replaceFrom_beyond, lastOr_cons]

/-- Where no passage begins, nothing is replaced, whatever is behind. -/
lemma replaceFrom_spared {spared : List Char}
    (h : ∀ c ∈ spared, ∀ before rest, m before (c :: rest) = none) (rest : List Char)
    (before : Option Char) :
    replaceFrom m 0 before (spared ++ rest) = spared ++ replaceFrom m 0 (lastOr before spared) rest := by
  induction spared generalizing before with
  | nil => rfl
  | cons c spared ih =>
    rw [List.cons_append, replaceFrom_of_none (h c List.mem_cons_self before _), lastOr_cons,
      ih fun d hd => h d (List.mem_cons_of_mem c hd), List.cons_append]

/-- Redaction replaces each kind of passage throughout before the next one. -/
lemma redactList_eq (cs : List Char) :
    redactList cs = replaceAll longBase64 (replaceAll sensitivePair (replaceAll bearer
      (replaceAll webToken cs))) := rfl

/-- No passage is longer than what is left of the text. -/
def Fits (m : Matcher) : Prop :=
  ∀ before cs hit, m before cs = some hit → hit.length ≤ cs.length

/-- Which passages begin in `p` does not depend on what is behind it. -/
def Closed (m : Matcher) (p rest : List Char) : Prop :=
  ∀ q, q <:+ p → q ≠ [] → ∀ before, m before (q ++ rest) = m before q

lemma Closed.suffix {p q rest : List Char} (h : Closed m p rest) (hq : q <:+ p) : Closed m q rest :=
  fun q' hq' => h q' (hq'.trans hq)

/-- A text can be taken apart where passages end. -/
lemma replaceFrom_append (hm : Fits m) {p rest : List Char} (h : Closed m p rest)
    (before : Option Char) :
    replaceFrom m 0 before (p ++ rest) =
      replaceFrom m 0 before p ++ replaceFrom m 0 (lastOr before p) rest := by
  induction hn : p.length using Nat.strongRecOn generalizing p before with
  | _ n ih =>
    cases p with
    | nil => rfl
    | cons c p =>
      have hsame : m before (c :: (p ++ rest)) = m before (c :: p) :=
        h (c :: p) List.suffix_rfl (List.cons_ne_nil c p) before
      rw [lastOr_cons, List.cons_append]
      cases hhit : m before (c :: p) with
      | none =>
        rw [replaceFrom_of_none hhit, replaceFrom_of_none (hsame.trans hhit),
          ih p.length (by rw [← hn]; exact Nat.lt_succ_self _) (h.suffix (List.suffix_cons c p)) _ rfl,
          List.cons_append]
      | some hit =>
        -- The passage ends in `p`, which falls into what belongs to it and what is left.
        obtain ⟨passed, left, rfl, hpassed⟩ : ∃ passed left, p = passed ++ left ∧
            passed.length = hit.length - 1 := by
          refine ⟨p.take (hit.length - 1), p.drop (hit.length - 1), ?_, ?_⟩
          · rw [List.take_append_drop]
          · rw [List.length_take, Nat.min_eq_left (Nat.sub_le_of_le_add (hm _ _ _ hhit))]
        have hshorter : left.length < n := by
          rw [← hn, List.length_cons, List.length_append]
          omega
        have hleft : Closed m left rest :=
          h.suffix ((List.suffix_append passed left).trans (List.suffix_cons c _))
        rw [replaceFrom_of_some hhit, replaceFrom_of_some (hsame.trans hhit), ← hpassed,
          List.append_assoc, replaceFrom_passed, replaceFrom_passed, ih _ hshorter hleft _ rfl,
          lastOr_append, List.append_assoc]

/-- Where no passage begins, nothing is replaced. -/
def Inert (m : Matcher) (cs : List Char) : Prop :=
  ∀ q, q <:+ cs → ∀ before, m before q = none

lemma Inert.replaceFrom_eq {cs : List Char} (h : Inert m cs) (before : Option Char) :
    replaceFrom m 0 before cs = cs := by
  induction cs generalizing before with
  | nil => rfl
  | cons c cs ih =>
    rw [replaceFrom_of_none (h _ List.suffix_rfl before)]
    rw [ih fun q hq => h q (hq.trans (List.suffix_cons c cs))]

/-! ### Web tokens and bearer tokens -/

/-- A character that neither a web token nor a bearer token can have. -/
def isSeparator (c : Char) : Bool := [':', ';', '(', ')'].contains c

/-- A kind of passage that separators put an end to. -/
structure EndsAtSeparators (m : Matcher) : Prop where
  fits : Fits m
  closed : ∀ {c : Char}, isSeparator c = true → ∀ p rest, Closed m p (c :: rest)
  /-- No passage begins with a separator. -/
  none_at : ∀ {c : Char}, isSeparator c = true → ∀ before rest, m before (c :: rest) = none

namespace EndsAtSeparators

/-- A separator stays, and what is in front of it has nothing to do with what is behind. -/
lemma replaceFrom_separator (hm : EndsAtSeparators m) {c : Char} (hc : isSeparator c = true)
    (p rest : List Char) (before : Option Char) :
    replaceFrom m 0 before (p ++ c :: rest) =
      replaceFrom m 0 before p ++ c :: replaceFrom m 0 (some c) rest := by
  rw [replaceFrom_append hm.fits (hm.closed hc p rest), replaceFrom_of_none (hm.none_at hc _ _)]

end EndsAtSeparators

lemma separator_cases {c : Char} (h : isSeparator c = true) : c = ':' ∨ c = ';' ∨ c = '(' ∨ c = ')' := by
  simpa [isSeparator] using h

lemma fits_webToken : Fits webToken := by
  intro before cs hit h
  unfold webToken at h
  split at h
  · rename_i rest
    split at h
    · rename_i rest' hhead
      split at h
      · rename_i rest'' hbody
        dsimp only at h
        split at h
        · cases h
        · cases h
          have hrest := length_takeWhile_add_dropWhile isTokenChar rest
          have hrest' := length_takeWhile_add_dropWhile isTokenChar rest'
          have hrest'' := length_takeWhile_add_dropWhile isTokenChar rest''
          rw [hhead] at hrest
          rw [hbody] at hrest'
          simp only [List.length_cons] at hrest hrest' ⊢
          omega
      · cases h
    · cases h
  · cases h

lemma replacement_of_webToken {before : Option Char} {cs : List Char} {hit : Hit}
    (h : webToken before cs = some hit) : hit.replacement = "[REDACTED_JWT]".toList := by
  unfold webToken at h
  split at h
  · dsimp only at h
    split at h
    · split at h
      · split at h
        · cases h
        · cases h
          rfl
      · cases h
    · cases h
  · cases h

lemma webToken_append_stop {c : Char} (hc : isTokenChar c = false) (hdot : c ≠ '.') {q : List Char}
    (hq : q ≠ []) (rest : List Char) (before : Option Char) :
    webToken before (q ++ c :: rest) = webToken before q := by
  have hy : c ≠ 'y' := by
    rintro rfl
    cases hc
  have hJ : c ≠ 'J' := by
    rintro rfl
    cases hc
  rcases q with _ | ⟨a, _ | ⟨b, _ | ⟨d, q⟩⟩⟩
  · exact absurd rfl hq
  · simp [webToken, hy]
  · simp [webToken, hJ]
  · by_cases hstart : a = 'e' ∧ b = 'y' ∧ d = 'J'
    · obtain ⟨rfl, rfl, rfl⟩ := hstart
      simp only [webToken, List.cons_append, takeWhile_append_stop hc, dropWhile_append_stop hc]
      rcases q.dropWhile isTokenChar with _ | ⟨x, body⟩
      · simp [hdot]
      · by_cases hx : x = '.'
        · subst hx
          simp only [List.cons_append, takeWhile_append_stop hc, dropWhile_append_stop hc]
          rcases body.dropWhile isTokenChar with _ | ⟨y, signature⟩
          · simp [hdot]
          · by_cases hy : y = '.'
            · subst hy
              simp only [List.cons_append, takeWhile_append_stop hc]
            · simp [hy]
        · simp [hx]
    · simp only [webToken, List.cons_append]
      split
      · rename_i h
        cases h
        exact absurd ⟨rfl, rfl, rfl⟩ hstart
      · split
        · rename_i h
          cases h
          exact absurd ⟨rfl, rfl, rfl⟩ hstart
        · rfl

lemma webToken_endsAtSeparators : EndsAtSeparators webToken where
  fits := fits_webToken
  closed := by
    intro c hc p rest q _ hq before
    rcases separator_cases hc with rfl | rfl | rfl | rfl <;>
      exact webToken_append_stop rfl (by decide) hq rest before
  none_at := by
    intro c hc before rest
    rcases separator_cases hc with rfl | rfl | rfl | rfl <;> simp [webToken]

/-- There is no web token without a dot. -/
lemma inert_webToken {cs : List Char} (h : '.' ∉ cs) : Inert webToken cs := by
  intro q hq before
  unfold webToken
  split
  · rename_i rest
    dsimp only
    split
    · rename_i rest' hrest
      have hmem : '.' ∈ rest.dropWhile isTokenChar := by
        rw [hrest]
        exact List.mem_cons_self
      have hrest : '.' ∈ rest := (List.dropWhile_sublist _).subset hmem
      exact absurd (hq.subset (by simp [hrest])) h
    · rfl
  · rfl

lemma fits_bearer : Fits bearer := by
  intro before cs hit h
  unfold bearer at h
  split at h
  · cases h
  · split at h
    · cases h
    · rename_i rest hrest
      dsimp only at h
      split at h
      · cases h
      · cases h
        obtain ⟨letters, rfl, hletters⟩ := exists_of_behindWord? hrest
        have hletters : letters.length = 6 := hletters
        have hgap := length_takeWhile_add_dropWhile isBlankChar rest
        have htoken := length_takeWhile_add_dropWhile isBearerChar (rest.dropWhile isBlankChar)
        have hpadding := length_takeWhile_add_dropWhile (fun x => decide (x = '='))
          ((rest.dropWhile isBlankChar).dropWhile isBearerChar)
        rw [List.length_append]
        dsimp only
        omega

/-- A bearer token is found only where a word begins and a blank is behind the word that announces the
token. -/
lemma exists_of_bearer {before : Option Char} {cs : List Char} {hit : Hit}
    (h : bearer before cs = some hit) : isWordStart before = true ∧ 6 ≤ hit.length ∧
      hit.replacement = "Bearer [REDACTED]".toList ∧
      ∃ rest, behindWord? "bearer".toList cs = some rest ∧ rest.takeWhile isBlankChar ≠ [] := by
  unfold bearer at h
  split at h
  · cases h
  · rename_i hstart
    rw [Bool.not_eq_true, Bool.not_eq_false'] at hstart
    split at h
    · cases h
    · rename_i rest hrest
      dsimp only at h
      split at h
      · cases h
      · rename_i hempty
        cases h
        refine ⟨hstart, ?_, rfl, rest, hrest, ?_⟩
        · dsimp only
          omega
        · rintro hnil
          exact hempty (by rw [hnil]; rfl)

lemma bearer_append_stop {c : Char} (hc : isBearerChar c = false) (hblank : isBlankChar c = false)
    (hsign : c ≠ '=') (hletters : ∀ w ∈ "bearer".toList, isFormOf w c = false)
    (q rest : List Char) (before : Option Char) :
    bearer before (q ++ c :: rest) = bearer before q := by
  have hpadding : ∀ xs : List Char,
      (xs ++ c :: rest).takeWhile (· = '=') = xs.takeWhile (· = '=') :=
    fun xs => takeWhile_append_stop (p := fun x => decide (x = '=')) (decide_eq_false hsign) xs rest
  unfold bearer
  rw [behindWord?_append_stop hletters]
  cases behindWord? "bearer".toList q with
  | none => rfl
  | some behind =>
    simp only [Option.map_some, takeWhile_append_stop hblank, dropWhile_append_stop hblank,
      takeWhile_append_stop hc, dropWhile_append_stop hc, hpadding]

lemma bearer_endsAtSeparators : EndsAtSeparators bearer where
  fits := fits_bearer
  closed := by
    intro c hc p rest q _ _ before
    rcases separator_cases hc with rfl | rfl | rfl | rfl <;>
      exact bearer_append_stop (by decide) (by decide) (by decide) (eq_false_of_any (by decide)) q
        rest before
  none_at := by
    intro c hc before rest
    have hword : behindWord? "bearer".toList (c :: rest) = none := by
      rcases separator_cases hc with rfl | rfl | rfl | rfl <;> rfl
    unfold bearer
    rw [hword]
    split
    · rfl
    · rfl

/-- There is no bearer token where the word that announces it does not stand. -/
lemma inert_bearer {cs : List Char} (h : ∀ q, q <:+ cs → behindWord? "bearer".toList q = none) :
    Inert bearer cs := by
  intro q hq before
  unfold bearer
  rw [h q hq]
  split
  · rfl
  · rfl

/-- There is no bearer token where no blank can be behind the word that announces it. -/
lemma bearer_of_not_blank {c : Char} {cs : List Char} (h : ∀ d ∈ cs, isBlankChar d = false)
    (before : Option Char) : bearer before (c :: cs) = none := by
  unfold bearer
  cases hword : behindWord? "bearer".toList (c :: cs) with
  | none =>
    split
    · rfl
    · rfl
  | some rest =>
    obtain ⟨letters, hletters, hlength⟩ := exists_of_behindWord? hword
    have hrest : rest <:+ cs := by
      cases letters with
      | nil => cases hlength
      | cons d letters =>
        rw [List.cons_append] at hletters
        cases hletters
        exact List.suffix_append letters rest
    have hgap : rest.takeWhile isBlankChar = [] := by
      cases rest with
      | nil => rfl
      | cons d rest => rw [List.takeWhile_cons, h d (hrest.subset List.mem_cons_self)]; rfl
    simp [hgap]

/-! ### Long runs of Base64 -/

lemma replacement_of_longBase64 {before : Option Char} {cs : List Char} {hit : Hit}
    (h : longBase64 before cs = some hit) : hit.replacement = "[REDACTED_BASE64]".toList := by
  unfold longBase64 at h
  dsimp only at h
  split at h
  · cases h
  · cases h
    rfl

end Reindex.Redaction
