import Reindex.Proofs.Redaction.Parts

/-!
# Secrets that are named

A value behind the name of a secret is replaced whatever is around the pair, unless a passage that begins
in front of the name reaches into the pair: then the name is gone, or with it a part of what is in between,
before the value can be told by it. A text is cut in two in front of the name. Replacing web tokens and
bearer tokens leaves a pair where it is, so that it is still there when the values of pairs are replaced.
-/

namespace Reindex

namespace Redaction

open Text

variable {v : List Char}

/-! ### What takes the place of passages -/

/-- All that can take the place of a passage. -/
def replacements : List String :=
  ["[REDACTED_JWT]", "Bearer [REDACTED]", "[REDACTED]", "[REDACTED_BASE64]"]

/-- Brackets by themselves hide a value that is not in them. -/
lemma hides_of_brackets {m : Matcher} {inner : List Char}
    (h : ∀ before cs hit, m before cs = some hit → hit.replacement = '[' :: (inner ++ [']']))
    (hinner : ¬ v <:+: inner) (front back : List Char) : Hides m v front back :=
  fun before x _ _ hit hhit => ⟨[], inner, h before (x ++ back) hit hhit, hinner, .inl List.nil_prefix⟩

section

variable (htexts : ∀ text ∈ replacements, ¬ v <:+: text.toList)
include htexts

lemma not_infix_of_replacements {part : List Char}
    (hpart : ∃ text ∈ replacements, part <:+: text.toList) : ¬ v <:+: part := by
  obtain ⟨text, htext, hpart⟩ := hpart
  exact fun h => htexts text htext (h.trans hpart)

lemma not_infix_redacted : ¬ v <:+: "REDACTED".toList :=
  not_infix_of_replacements htexts ⟨"[REDACTED]", by decide, ⟨['['], [']'], rfl⟩⟩

lemma hides_webToken (front back : List Char) : Hides webToken v front back := by
  have hinner : ¬ v <:+: "REDACTED_JWT".toList :=
    not_infix_of_replacements htexts ⟨"[REDACTED_JWT]", by decide, ⟨['['], [']'], rfl⟩⟩
  exact hides_of_brackets (fun _ _ _ => replacement_of_webToken) hinner front back

lemma hides_longBase64 (front back : List Char) : Hides longBase64 v front back := by
  have hinner : ¬ v <:+: "REDACTED_BASE64".toList :=
    not_infix_of_replacements htexts ⟨"[REDACTED_BASE64]", by decide, ⟨['['], [']'], rfl⟩⟩
  exact hides_of_brackets (fun _ _ _ => replacement_of_longBase64) hinner front back

lemma hides_bearer (front back : List Char) : Hides bearer v front back := by
  have hkept : ¬ v <:+: "Bearer ".toList :=
    not_infix_of_replacements htexts ⟨"Bearer [REDACTED]", by decide, ⟨[], "[REDACTED]".toList, rfl⟩⟩
  intro before x _ _ hit h
  obtain ⟨hstart, -, hreplacement, -⟩ := exists_of_bearer h
  exact ⟨"Bearer ".toList, "REDACTED".toList, hreplacement, not_infix_redacted htexts, .inr ⟨hstart, hkept⟩⟩

/-- The replacement of a pair hides every value: the name and the sign stay, and they are a part of the
text. -/
lemma hides_sensitivePair_alone (cs : List Char) : Hides sensitivePair v cs [] := by
  intro before x _ _ hit h
  rw [List.append_nil] at h
  obtain ⟨-, word, -, hvalue⟩ := exists_of_sensitivePair h
  obtain ⟨rest, sign, behind, value, -, -, -, -, -, rfl⟩ := exists_of_valueOf hvalue
  exact ⟨_, "REDACTED".toList, rfl, not_infix_redacted htexts, .inl (List.take_prefix _ x)⟩

end

/-! ### Pairs that begin in front of a name -/

lemma isWordChar_of_isFormOf {word : String} (hword : word ∈ sensitiveWords) {w : Char}
    (hw : w ∈ word.toList) {c : Char} (h : isFormOf w c = true) : isWordChar c = true :=
  of_isFormOf (fun _ => isWordChar_of_isAlphanum) (by decide) (by decide) (by decide +kernel) hword hw h

/-- The value of a pair that begins in front of a word and behind whose name there is no word either: it
begins in front, and it ends there or it takes up whatever value the back begins with. -/
lemma valueOf_append {word x : List Char} {d c : Char} (hd : ∀ w ∈ word, isFormOf w d = false)
    (hblank : isBlankChar c = false) (hsign : ¬ (c = '=' ∨ c = ':')) {back : List Char} {hit : Hit}
    (h : valueOf word (x ++ d :: c :: back) = some hit) :
    ∃ n, hit.replacement = (x ++ [d]).take n ++ "[REDACTED]".toList ∧
      (hit.length ≤ (x ++ [d]).length ∨
        hit.length = (x ++ [d]).length + ((c :: back).takeWhile isValueChar).length) := by
  obtain ⟨rest, sign, behind, value, hrest, hdrop, hmark, hvalue, -, rfl⟩ := exists_of_valueOf h
  rw [behindWord?_append_stop hd] at hrest
  obtain ⟨rest, hword, rfl⟩ := Option.map_eq_some_iff.mp hrest
  obtain ⟨letters, rfl, -⟩ := exists_of_behindWord? hword
  rw [List.append_cons, dropWhile_append_stop hblank] at hdrop
  have hgap := length_takeWhile_add_dropWhile isBlankChar (rest ++ [d])
  -- The sign is in front, since a name does not begin with one.
  cases hfound : (rest ++ [d]).dropWhile isBlankChar with
  | nil =>
    rw [hfound] at hdrop
    cases hdrop
    exact absurd hmark hsign
  | cons sign' ys =>
    rw [hfound] at hdrop hgap
    rw [List.cons_append] at hdrop
    obtain ⟨rfl, rfl⟩ := List.cons.inj hdrop
    rw [dropWhile_append_stop hblank] at hvalue
    have hspace := length_takeWhile_add_dropWhile isBlankChar ys
    generalize ys.dropWhile isBlankChar = zs at hvalue hspace
    subst hvalue
    have hle : zs.length ≤ (letters ++ rest ++ [d]).length := by
      simp only [List.length_append, List.length_cons] at hgap hspace ⊢
      omega
    rw [List.append_cons (letters ++ rest) d (c :: back)]
    generalize letters ++ rest ++ [d] = front at hle
    have hfront : (front ++ c :: back).length - (zs ++ c :: back).length = front.length - zs.length := by
      rw [List.length_append, List.length_append, Nat.add_sub_add_right]
    rw [hfront, List.take_append_of_le_length (Nat.sub_le _ _)]
    refine ⟨front.length - zs.length, rfl, ?_⟩
    dsimp only
    rw [List.takeWhile_append]
    split
    · right
      rw [List.length_append]
      omega
    · left
      have hvalue := length_takeWhile_add_dropWhile isValueChar zs
      omega

/-- The front of a text ends a word, and its back begins with what is neither a blank nor a sign. -/
structure Meets (front back : List Char) : Prop where
  front : isWordStart front.getLast? = true
  back : ∃ c rest, back = c :: rest ∧ isBlankChar c = false ∧ ¬ (c = '=' ∨ c = ':')

lemma Meets.sensitivePair_append {front back : List Char} (h : Meets front back)
    {before : Option Char} {x : List Char} (hx : x <:+ front) (hne : x ≠ []) {hit : Hit}
    (hhit : sensitivePair before (x ++ back) = some hit) :
    ∃ n, hit.replacement = x.take n ++ "[REDACTED]".toList ∧
      (hit.length ≤ x.length ∨ hit.length = x.length + (back.takeWhile isValueChar).length) := by
  obtain ⟨c, rest, rfl, hblank, hsign⟩ := h.back
  obtain ⟨x, d, rfl⟩ := (List.eq_nil_or_concat' x).resolve_left hne
  have hd : isWordChar d = false := by
    have hlast := h.front
    obtain ⟨y, rfl⟩ := hx
    rw [← List.append_assoc, List.getLast?_concat] at hlast
    simpa [isWordStart] using hlast
  obtain ⟨-, word, hword, hvalue⟩ := exists_of_sensitivePair hhit
  rw [← List.append_cons] at hvalue
  refine valueOf_append (fun w hw => ?_) hblank hsign hvalue
  by_contra hform
  rw [isWordChar_of_isFormOf hword hw (by simpa using hform)] at hd
  cases hd

lemma Meets.hides_sensitivePair {front back : List Char} (h : Meets front back)
    (htexts : ∀ text ∈ replacements, ¬ v <:+: text.toList) : Hides sensitivePair v front back := by
  intro before x hx hne hit hhit
  obtain ⟨n, hreplacement, -⟩ := h.sensitivePair_append hx hne hhit
  exact ⟨x.take n, "REDACTED".toList, hreplacement, not_infix_redacted htexts, .inl (List.take_prefix n x)⟩

/-- Of the back, such a pair takes up nothing or the whole value that it begins with. -/
lemma Meets.overhang_eq {front back : List Char} (h : Meets front back) :
    overhang sensitivePair back 0 none front = 0 ∨
      overhang sensitivePair back 0 none front = (back.takeWhile isValueChar).length := by
  refine Redaction.overhang_eq front (fun before x hx hne hit hhit => ?_) 0 none (.inl (Nat.zero_le _))
  obtain ⟨n, -, hlength⟩ := h.sensitivePair_append hx hne hhit
  exact hlength

/-! ### Where a value breaks off -/

lemma webToken_of_not_isValueChar {c : Char} (hc : isValueChar c = false) (before : Option Char)
    (rest : List Char) : webToken before (c :: rest) = none := by
  have hne : c ≠ 'e' := by
    rintro rfl
    cases hc
  simp [webToken, hne]

lemma bearer_of_not_isFormOf {c : Char} (hc : isFormOf 'b' c = false) (before : Option Char)
    (rest : List Char) : bearer before (c :: rest) = none := by
  have hword : behindWord? "bearer".toList (c :: rest) = none := by
    have hletters : "bearer".toList = 'b' :: "earer".toList := rfl
    rw [hletters, behindWord?, hc]
    rfl
  unfold bearer
  rw [hword]
  split
  · rfl
  · rfl

lemma Breaks.replaceFrom {m : Matcher}
    (hm : ∀ c, isValueChar c = false → ∀ before rest, m before (c :: rest) = none) {q : List Char}
    (hq : Breaks q) (before : Option Char) : Breaks (replaceFrom m 0 before q) := by
  cases q with
  | nil => exact hq
  | cons c rest =>
    rw [replaceFrom_of_none (hm c (hq c rfl) before rest)]
    exact hq

/-- Words end where a value breaks off. -/
lemma Breaks.behindWord?_append {q : List Char} (hq : Breaks q) {word : List Char}
    (hword : ∀ w ∈ word, isValueChar w = true) (cs : List Char) :
    behindWord? word (cs ++ q) = (behindWord? word cs).map (· ++ q) := by
  cases q with
  | nil => simp
  | cons c rest =>
    exact behindWord?_append_stop
      (fun w hw => isFormOf_of_not_isValueChar (hq c rfl) (hword w hw)) cs rest

/-! ### Web tokens and bearer tokens in a pair -/

/-- A bearer token that begins with a value covers all of it, since behind the word there is a blank. -/
lemma length_le_of_bearer {value q : List Char} (hvalue : IsPlainValue value) (hq : Breaks q)
    {before : Option Char} {hit : Hit} (h : bearer before (value ++ q) = some hit) :
    value.length ≤ hit.length := by
  obtain ⟨-, hlength, -, rest, hrest, hgap⟩ := exists_of_bearer h
  rw [hq.behindWord?_append (List.all_eq_true.mp (by decide))] at hrest
  obtain ⟨left, hleft, rfl⟩ := Option.map_eq_some_iff.mp hrest
  obtain ⟨letters, rfl, hletters⟩ := exists_of_behindWord? hleft
  have hletters : letters.length = 6 := hletters
  cases left with
  | nil => rwa [List.append_nil, hletters]
  | cons c left =>
    have hc : isBlankChar c = false :=
      isBlankChar_of_isAlphanum (hvalue.2 c (List.mem_append_right letters List.mem_cons_self))
    rw [List.cons_append, List.takeWhile_cons, hc] at hgap
    exact absurd rfl hgap

/-- No bearer token begins inside a word. -/
lemma replaceFrom_bearer_inside {cs : List Char} (hcs : ∀ c ∈ cs, isWordChar c = true) (q : List Char)
    {before : Option Char} (hbefore : isWordStart before = false) :
    replaceFrom bearer 0 before (cs ++ q) = cs ++ replaceFrom bearer 0 (lastOr before cs) q := by
  induction cs generalizing before with
  | nil => rfl
  | cons c cs ih =>
    have hnone : bearer before (c :: (cs ++ q)) = none := by
      rw [bearer, hbefore]
      rfl
    have hc : isWordStart (some c) = false := by
      rw [isWordStart, Option.any_some, hcs c List.mem_cons_self]
      rfl
    rw [List.cons_append, replaceFrom_of_none hnone, lastOr_cons,
      ih (fun d hd => hcs d (List.mem_cons_of_mem c hd)) hc, List.cons_append]

namespace Label

variable (l : Label) {value q : List Char}

lemma dot_not_mem_append (hvalue : IsPlainValue value) : '.' ∉ l.text ++ value := by
  intro h
  rcases List.mem_append.mp h with hlabel | hvalue'
  · rcases List.mem_append.mp hlabel with hname | hseparator
    · have hdot := l.of_mem_name (f := (· != '.'))
        (fun c hc => by simpa using ne_of_isAlphanum hc (d := '.') rfl) (by decide) '.' hname
      exact absurd hdot (by decide)
    · exact absurd (l.mem_separator hseparator) (by decide)
  · exact hvalue.not_mem rfl hvalue'

/-- No web token begins in a pair. -/
lemma replaceFrom_webToken (hvalue : IsPlainValue value) (hq : Breaks q) (before : Option Char) :
    replaceFrom webToken 0 before (l.text ++ (value ++ q)) =
      l.text ++ (value ++ replaceFrom webToken 0 (lastOr before (l.text ++ value)) q) := by
  have hclosed : Closed webToken (l.text ++ value) q := by
    intro x _ hx before
    cases q with
    | nil => rw [List.append_nil]
    | cons c rest =>
      have hc := hq c rfl
      have htoken : isTokenChar c = false := by
        by_contra htoken
        simp only [isTokenChar, Bool.not_eq_false, Bool.or_eq_true, decide_eq_true_eq] at htoken
        rcases htoken with (hplain | rfl) | rfl
        · rw [isValueChar_of_isAlphanum hplain] at hc
          cases hc
        · cases hc
        · cases hc
      have hdot : c ≠ '.' := by
        rintro rfl
        cases hc
      exact webToken_append_stop htoken hdot hx rest before
  rw [← List.append_assoc, replaceFrom_append fits_webToken hclosed,
    (inert_webToken (l.dot_not_mem_append hvalue)).replaceFrom_eq, List.append_assoc]

lemma isFormOf_b_of_mem {c : Char} (hc : c ∈ l.text) : isFormOf 'b' c = false := by
  rcases List.mem_append.mp hc with hname | hseparator
  · have hwords : ∀ word ∈ sensitiveWords, 'b' ∉ word.toList := by decide
    have hne : c.toLower ≠ 'b' := fun h => hwords l.word l.word_mem (h ▸ l.toLower_mem hname)
    simp [isFormOf, hne]
  · rcases l.mem_separator hseparator with hblank | rfl | rfl
    · refine isFormOf_of_not_isValueChar ?_ rfl
      rw [isValueChar, hblank]
      rfl
    · decide
    · decide

/-- A pair stays one when bearer tokens are replaced. One that begins with the value covers all of it, and
what takes its place begins with a value. -/
lemma exists_replaceFrom_bearer (hvalue : IsPlainValue value) (hq : Breaks q) (before : Option Char) :
    ∃ value' kept more last, IsPlainValue value' ∧
      (kept = [] ∧ more = 0 ∨ kept = " [REDACTED]".toList) ∧
      replaceFrom bearer 0 before (l.text ++ (value ++ q)) =
        l.text ++ (value' ++ (kept ++ replaceFrom bearer more last q)) := by
  rw [replaceFrom_spared fun c hc => bearer_of_not_isFormOf (l.isFormOf_b_of_mem hc)]
  generalize lastOr before l.text = before'
  cases hhit : bearer before' (value ++ q) with
  | some hit =>
    obtain ⟨-, -, hreplacement, -⟩ := exists_of_bearer hhit
    obtain ⟨more, hmore⟩ := Nat.exists_eq_add_of_le (length_le_of_bearer hvalue hq hhit)
    refine ⟨"Bearer".toList, " [REDACTED]".toList, more, lastOr before' value,
      ⟨by decide, List.all_eq_true.mp (by decide)⟩, .inr rfl, ?_⟩
    rw [replaceFrom_hit hhit hvalue.1 hmore, hreplacement]
    rfl
  | none =>
    refine ⟨value, [], 0, lastOr before' value, hvalue, .inl ⟨rfl, rfl⟩, ?_⟩
    have hword : ∀ c ∈ value, isWordChar c = true := fun c hc => isWordChar_of_isAlphanum (hvalue.2 c hc)
    cases value with
    | nil => exact absurd rfl hvalue.1
    | cons c value =>
      have hc : isWordStart (some c) = false := by
        rw [isWordStart, Option.any_some, hword c List.mem_cons_self]
        rfl
      rw [List.cons_append] at hhit ⊢
      rw [replaceFrom_of_none hhit, lastOr_cons,
        replaceFrom_bearer_inside (fun d hd => hword d (List.mem_cons_of_mem c hd)) q hc]
      rfl

/-- A pair is a value by itself if there is no blank in it. -/
lemma takeWhile_append (hvalue : IsPlainValue value) (hq : Breaks q)
    (hblank : ∀ c ∈ l.separator, isBlankChar c = false) :
    (l.text ++ (value ++ q)).takeWhile isValueChar = l.text ++ value := by
  have htext : ∀ c ∈ l.text, isValueChar c = true := by
    intro c hc
    rcases List.mem_append.mp hc with hname | hseparator
    · exact l.of_mem_name (fun _ => isValueChar_of_isAlphanum) (by decide) c hname
    · rcases l.mem_separator hseparator with h | rfl | rfl
      · rw [hblank c hseparator] at h
        cases h
      · rfl
      · rfl
  rw [List.takeWhile_append_of_pos htext, hvalue.takeWhile_append, hq.takeWhile_eq, List.append_nil]

end Label

/-! ### Texts with a pair in them -/

/-- A text begins with a pair, and it does not have the value `v` behind the pair. -/
inductive Leads (l : Label) (v : List Char) : List Char → Prop
  | intro {value rest : List Char} (hvalue : IsPlainValue value) (hrest : Breaks rest)
      (hin : ¬ v <:+: rest) : Leads l v (l.text ++ (value ++ rest))

namespace Leads

variable {l : Label} {cs : List Char}

lemma exists_head (h : Leads l v cs) :
    ∃ c rest, cs = c :: rest ∧ isBlankChar c = false ∧ ¬ (c = '=' ∨ c = ':') := by
  obtain ⟨-, -, -⟩ := h
  obtain ⟨c, letters, hname⟩ := l.exists_name_eq
  have hmem : c ∈ l.name := by
    rw [hname]
    exact List.mem_cons_self
  have hblank := l.of_mem_name (f := fun c => !isBlankChar c)
    (fun c hc => by rw [isBlankChar_of_isAlphanum hc]; rfl) (by decide) c hmem
  have hsign := l.of_mem_name (f := fun c => !(c = '=' || c = ':'))
    (fun c hc => by
      have hequals := ne_of_isAlphanum hc (d := '=') rfl
      have hcolon := ne_of_isAlphanum hc (d := ':') rfl
      simp [hequals, hcolon]) (by decide) c hmem
  rw [l.text_append, hname]
  exact ⟨c, _, rfl, by simpa using hblank, by simpa using hsign⟩

variable (hv : IsPlainValue v) (htexts : ∀ text ∈ replacements, ¬ v <:+: text.toList)
include hv htexts

lemma replaceFrom_webToken (h : Leads l v cs) (before : Option Char) :
    Leads l v (replaceFrom webToken 0 before cs) := by
  obtain ⟨hvalue, hrest, hin⟩ := h
  rw [l.replaceFrom_webToken hvalue hrest]
  exact .intro hvalue (hrest.replaceFrom (fun _ => webToken_of_not_isValueChar) _)
    fun hin' => hin (infix_of_replaceFrom hv (hides_webToken htexts _ _) 0 _ hin')

lemma replaceFrom_bearer (h : Leads l v cs) (before : Option Char) :
    Leads l v (replaceFrom bearer 0 before cs) := by
  obtain ⟨hvalue, hrest, hin⟩ := h
  rename_i rest
  obtain ⟨value', kept, more, last, hvalue', hkept, heq⟩ :=
    l.exists_replaceFrom_bearer hvalue hrest before
  have hrest' : ¬ v <:+: replaceFrom bearer more last rest :=
    fun hin' => hin (infix_of_replaceFrom hv (hides_bearer htexts rest []) more last hin')
  rw [heq]
  rcases hkept with ⟨rfl, rfl⟩ | rfl
  · refine .intro hvalue' (hrest.replaceFrom (fun c hc => ?_) last) hrest'
    exact bearer_of_not_isFormOf (isFormOf_of_not_isValueChar hc rfl)
  · have hclose : ']' ∉ v := hv.not_mem rfl
    have hword : ¬ v <:+: " [REDACTED".toList :=
      not_infix_of_replacements htexts
        ⟨"Bearer [REDACTED]", by decide, ⟨"Bearer".toList, [']'], rfl⟩⟩
    refine .intro hvalue' ?_ fun hin' => ?_
    · intro c hc
      cases hc
      rfl
    · exact (infix_append_cons hclose hin').elim hword hrest'

/-- Where a word begins, the pair is found, and the value is not in what takes its place. -/
lemma exists_redacted (h : Leads l v cs) {before : Option Char} (hbefore : isWordStart before = true) :
    ∃ rest, replaceFrom sensitivePair 0 before cs = l.text ++ "[REDACTED]".toList ++ rest ∧
      ¬ v <:+: rest := by
  obtain ⟨hvalue, hrest, hin⟩ := h
  refine ⟨_, l.replaceFrom_sensitivePair hbefore hvalue _, ?_⟩
  rw [hrest.dropWhile_eq]
  exact fun hin' => hin (infix_of_replaceFrom hv (hides_sensitivePair_alone htexts _) 0 none hin')

/-- A value that takes up the pair takes up all of it if there is no blank in it. -/
lemma not_infix_beyond (h : Leads l v cs) (hblank : ∀ c ∈ l.separator, isBlankChar c = false)
    (before : Option Char) :
    ¬ v <:+: replaceFrom sensitivePair (cs.takeWhile isValueChar).length before cs := by
  obtain ⟨hvalue, hrest, hin⟩ := h
  rw [l.takeWhile_append hvalue hrest hblank, ← List.append_assoc, replaceFrom_passed]
  exact fun hin' => hin (infix_of_replaceFrom hv (hides_sensitivePair_alone htexts _) 0 _ hin')

end Leads

/-- The back of a text begins with a pair, and the text has the value `v` nowhere else. -/
structure Holds (l : Label) (v : List Char) (t : Parts) : Prop where
  front : isWordStart t.front.getLast? = true
  label : ¬ v <:+: t.front ++ l.text
  back : Leads l v t.back

namespace Holds

variable {l : Label} {t : Parts}

lemma meets (h : Holds l v t) : Meets t.front t.back where
  front := h.front
  back := h.back.exists_head

variable (hv : IsPlainValue v)
include hv

/-- A replacement that hides the value in the front leaves the text with the value in the pair only, if the
back still begins with the pair. -/
lemma replace {m : Matcher} (h : Holds l v t) (hm : Hides m v t.front t.back)
    (hback : Leads l v (t.replace m).back) : Holds l v (t.replace m) where
  front := Parts.isWordStart_replace hm h.front
  label := fun hin => h.label (Parts.infix_of_replace hv hm hin)
  back := hback

variable (htexts : ∀ text ∈ replacements, ¬ v <:+: text.toList)
include htexts

lemma webToken (h : Holds l v t) (hfree : t.overhang webToken = 0) :
    Holds l v (t.replace webToken) := by
  refine h.replace hv (hides_webToken htexts _ _) ?_
  rw [Parts.replace, hfree]
  exact h.back.replaceFrom_webToken hv htexts _

lemma bearer (h : Holds l v t) (hfree : t.overhang bearer = 0) :
    Holds l v (t.replace bearer) := by
  refine h.replace hv (hides_bearer htexts _ _) ?_
  rw [Parts.replace, hfree]
  exact h.back.replaceFrom_bearer hv htexts _

/-- When the values of pairs are replaced, the value is gone: by itself, or with the whole pair as a part of
another value. -/
lemma not_infix_replace (h : Holds l v t)
    (hfree : (∃ c ∈ l.separator, isBlankChar c = true) → t.overhang sensitivePair = 0) :
    ¬ v <:+: (t.replace sensitivePair).text := by
  have hm := h.meets.hides_sensitivePair htexts
  have hfront : ¬ v <:+: (t.replace sensitivePair).front ++ l.text :=
    fun hin => h.label (Parts.infix_of_replace hv hm hin)
  have hstart : isWordStart (lastOr none t.front) = true := by
    rw [lastOr, Option.or_none]
    exact h.front
  have hover : t.overhang sensitivePair = 0 ∨
      t.overhang sensitivePair = (t.back.takeWhile isValueChar).length := h.meets.overhang_eq
  by_cases hfound : t.overhang sensitivePair = 0
  · obtain ⟨rest, hrest, hin⟩ := h.back.exists_redacted hv htexts hstart
    have htext : (t.replace sensitivePair).text = (t.replace sensitivePair).front ++ l.text ++
        '[' :: ("REDACTED".toList ++ ']' :: rest) := by
      have hback : (t.replace sensitivePair).back = l.text ++ "[REDACTED]".toList ++ rest := by
        rw [Parts.replace, hfound]
        exact hrest
      rw [Parts.text, hback, List.append_assoc, List.append_assoc]
      rfl
    have hopen : '[' ∉ v := hv.not_mem rfl
    have hclose : ']' ∉ v := hv.not_mem rfl
    rw [htext]
    intro hin'
    rcases infix_append_cons hopen hin' with hin' | hin'
    · exact hfront hin'
    · exact (infix_append_cons hclose hin').elim (not_infix_redacted htexts) hin
  · have hblank : ∀ c ∈ l.separator, isBlankChar c = false := by
      intro c hc
      by_contra hblank
      exact hfound (hfree ⟨c, hc, by simpa using hblank⟩)
    have hback : (t.replace sensitivePair).back = replaceFrom sensitivePair
        (t.back.takeWhile isValueChar).length (lastOr none t.front) t.back := by
      rw [Parts.replace, hover.resolve_left hfound]
    intro hin
    rw [Parts.text, hback] at hin
    rcases hv.infix_append (Parts.isWordStart_replace hm h.front) hin with hin | hin
    · exact hfront (hin.trans (List.prefix_append _ l.text).isInfix)
    · exact h.back.not_infix_beyond hv htexts hblank _ hin

end Holds

/-- No passage that begins in the front of a text reaches into the back: no web token, no bearer token of
what is then left, and, if there is a blank in the label, no value of what is left after that. -/
structure StandsFree (l : Label) (t : Parts) : Prop where
  webTokens : t.overhang webToken = 0
  bearerTokens : (t.replace webToken).overhang bearer = 0
  values : (∃ c ∈ l.separator, isBlankChar c = true) →
    ((t.replace webToken).replace bearer).overhang sensitivePair = 0

end Redaction

open Redaction

/-- The value behind the name of a secret is gone from a redacted text, whatever is around the pair, if it
is nowhere else in the text and the pair stands free. -/
theorem redact_hides_value (l : Label) {v p q : List Char} (hv : IsPlainValue v)
    (hp : isWordStart p.getLast? = true) (hq : Breaks q) (hin : ¬ v <:+: p ++ l.text ++ q)
    (htexts : ∀ text ∈ replacements, ¬ v <:+: text.toList)
    (hfree : StandsFree l ⟨p, l.text ++ (v ++ q)⟩) :
    ¬ v <:+: (redact (String.ofList (p ++ l.text ++ v ++ q))).toList := by
  have hpair : Holds l v ⟨p, l.text ++ (v ++ q)⟩ :=
    ⟨hp, fun h => hin (h.trans (List.prefix_append _ q).isInfix),
      .intro hv hq fun h => hin (h.trans (List.suffix_append _ q).isInfix)⟩
  have hleft := (hpair.webToken hv htexts hfree.webTokens).bearer hv htexts hfree.bearerTokens
  have hgone := hleft.not_infix_replace hv htexts hfree.values
  have htext : p ++ l.text ++ v ++ q = Parts.text ⟨p, l.text ++ (v ++ q)⟩ := by
    simp [Parts.text]
  rw [redact, String.toList_ofList, String.toList_ofList, redactList_eq, htext, Parts.replaceAll_text,
    Parts.replaceAll_text, Parts.replaceAll_text]
  exact fun h => hgone (infix_of_replaceFrom hv (hides_longBase64 htexts _ []) 0 none h)

/-- The name `client_secret` in capital letters and a colon between blanks. -/
def spacedLabel : Label where
  word := "client_secret"
  name := "CLIENT_SECRET".toList
  gap := [' ']
  sign := ':'
  space := [' ']
  word_mem := by decide
  name_eq := by decide
  gap_blank := List.all_eq_true.mp (by decide)
  sign_eq := .inr rfl
  space_blank := List.all_eq_true.mp (by decide)

/-- An announced token and another value in front of a label take up nothing of the pair. -/
theorem redact_hides_hunter2 :
    let p := "refused: Bearer a.b; key=c, ".toList
    let v := "hunter2".toList
    let q := "; retry".toList
    StandsFree spacedLabel ⟨p, spacedLabel.text ++ (v ++ q)⟩ ∧
      ¬ v <:+: (redact (String.ofList (p ++ spacedLabel.text ++ v ++ q))).toList := by
  intro p v q
  have hv : IsPlainValue v := ⟨by decide, List.all_eq_true.mp (by decide)⟩
  have hq : Breaks q := by
    intro c hc
    cases hc
    rfl
  have hfree : StandsFree spacedLabel ⟨p, spacedLabel.text ++ (v ++ q)⟩ :=
    ⟨by decide +kernel, by decide +kernel, fun _ => by decide +kernel⟩
  exact ⟨hfree, redact_hides_value spacedLabel hv (by decide) hq (by decide +kernel)
    (by decide +kernel) hfree⟩

/-- The name `token`, a colon and a blank. -/
def tokenLabel : Label :=
  { Label.bare "token" ':' (by decide) (.inr rfl) with
    space := [' ']
    space_blank := List.all_eq_true.mp (by decide) }

/-- A bearer token that begins in front of a label takes up the name, and the value stays. -/
theorem bearer_takes_name :
    isWordStart "Bearer ".toList.getLast? = true ∧ IsPlainValue "abc123".toList ∧ Breaks [] ∧
      ¬ "abc123".toList <:+: "Bearer ".toList ++ tokenLabel.text ++ [] ∧
      (∀ text ∈ replacements, ¬ "abc123".toList <:+: text.toList) ∧
      String.ofList ("Bearer ".toList ++ tokenLabel.text ++ "abc123".toList ++ []) =
        "Bearer token: abc123" ∧
      redact "Bearer token: abc123" = "Bearer [REDACTED]: abc123" :=
  ⟨by decide, ⟨by decide, List.all_eq_true.mp (by decide)⟩, nofun, by decide +kernel,
    by decide +kernel, by decide +kernel, by decide +kernel⟩

-- Nor does a pair stand free of the other two kinds here.
example : redact "eyJa.b.key=abc" = "[REDACTED_JWT]=abc" := by decide +kernel

example : redact "key=password = abc" = "key=[REDACTED] = abc" := by decide +kernel

end Reindex
