import Reindex.Proofs.Redaction.Labels

/-!
# Texts in two parts

A text is cut in two at any place. Of the passages that begin in the front the last one may reach into the
back, and what it does not cover is replaced by itself. What takes the place of a passage ends in brackets,
so no value shows up in the front that was not there before.
-/

namespace Reindex.Redaction

open Text

variable {m : Matcher} {v : List Char}

/-! ### Front and back -/

/-- How much of the back belongs to a passage that begins in the front. -/
def overhang (m : Matcher) (back : List Char) :
    (skip : Nat) → (before : Option Char) → (front : List Char) → Nat
  | skip, _, [] => skip
  | skip + 1, _, c :: front => overhang m back skip (some c) front
  | 0, before, c :: front =>
    match m before (c :: (front ++ back)) with
    | some hit => overhang m back (hit.length - 1) (some c) front
    | none => overhang m back 0 (some c) front

/-- The text in place of the front when passages have been replaced. -/
def replaceFront (m : Matcher) (back : List Char) :
    (skip : Nat) → (before : Option Char) → (front : List Char) → List Char
  | _, _, [] => []
  | skip + 1, _, c :: front => replaceFront m back skip (some c) front
  | 0, before, c :: front =>
    match m before (c :: (front ++ back)) with
    | some hit => hit.replacement ++ replaceFront m back (hit.length - 1) (some c) front
    | none => c :: replaceFront m back 0 (some c) front

lemma replaceFrom_parts (m : Matcher) (front back : List Char) :
    ∀ (skip : Nat) (before : Option Char), replaceFrom m skip before (front ++ back) =
      replaceFront m back skip before front ++
        replaceFrom m (overhang m back skip before front) (lastOr before front) back := by
  induction front with
  | nil => exact fun _ _ => rfl
  | cons c front ih =>
    intro skip before
    rw [lastOr_cons]
    cases skip with
    | succ skip => exact ih skip (some c)
    | zero =>
      simp only [List.cons_append, replaceFrom, replaceFront, overhang]
      cases m before (c :: (front ++ back)) with
      | none =>
        dsimp only
        rw [ih, List.cons_append]
      | some hit =>
        dsimp only
        rw [ih, List.append_assoc]

/-- If every passage that begins in the front ends there or where `n` characters of the back are over, then
so does what is left of the last one. -/
lemma overhang_eq {back : List Char} {n : Nat} (front : List Char)
    (h : ∀ before x, x <:+ front → x ≠ [] → ∀ hit, m before (x ++ back) = some hit →
      hit.length ≤ x.length ∨ hit.length = x.length + n) :
    ∀ (skip : Nat) (before : Option Char), skip ≤ front.length ∨ skip = front.length + n →
      overhang m back skip before front = 0 ∨ overhang m back skip before front = n := by
  induction front with
  | nil =>
    intro skip before hskip
    rcases hskip with hskip | hskip
    · exact .inl (Nat.le_zero.mp hskip)
    · exact .inr (hskip.trans (Nat.zero_add n))
  | cons c front ih =>
    intro skip before hskip
    have ih := ih fun before x hx => h before x (hx.trans (List.suffix_cons c front))
    rw [List.length_cons] at hskip
    cases skip with
    | succ skip => exact ih skip (some c) (by omega)
    | zero =>
      rw [overhang]
      cases hhit : m before (c :: (front ++ back)) with
      | none => exact ih 0 (some c) (.inl (Nat.zero_le _))
      | some hit =>
        have hlength := h before (c :: front) List.suffix_rfl (List.cons_ne_nil c front) hit hhit
        rw [List.length_cons] at hlength
        exact ih (hit.length - 1) (some c) (by omega)

/-! ### Values in a text -/

lemma prefix_of_append_cons {c : Char} (hc : c ∉ v) {xs ys : List Char} (h : v <+: xs ++ c :: ys) :
    v <+: xs := by
  have hxs : xs <+: xs ++ c :: ys := List.prefix_append xs (c :: ys)
  rcases Nat.lt_or_ge xs.length v.length with hlt | hle
  · have hmore : xs ++ [c] <+: v := by
      have hxs : xs ++ [c] <+: xs ++ c :: ys := by
        rw [List.append_cons xs c ys]
        exact List.prefix_append _ _
      exact List.prefix_of_prefix_length_le hxs h (by rwa [List.length_append])
    exact absurd (hmore.subset (List.mem_append_right xs List.mem_cons_self)) hc
  · exact List.prefix_of_prefix_length_le h hxs hle

/-- A value lies on one side of a character that it does not have. -/
lemma infix_append_cons {c : Char} (hc : c ∉ v) {xs ys : List Char} (h : v <:+: xs ++ c :: ys) :
    v <:+: xs ∨ v <:+: ys := by
  induction xs with
  | nil =>
    rcases List.infix_cons_iff.mp h with hprefix | hys
    · exact .inl (prefix_of_append_cons hc hprefix).isInfix
    · exact .inr hys
  | cons x xs ih =>
    rcases List.infix_cons_iff.mp h with hprefix | hrest
    · exact .inl (prefix_of_append_cons hc hprefix).isInfix
    · exact (ih hrest).imp_left fun hxs => hxs.trans (List.suffix_cons x xs).isInfix

/-- A value of letters and digits does not reach over the beginning of a word. -/
lemma IsPlainValue.infix_append (hv : IsPlainValue v) {xs ys : List Char}
    (hxs : isWordStart xs.getLast? = true) (h : v <:+: xs ++ ys) : v <:+: xs ∨ v <:+: ys := by
  rcases List.eq_nil_or_concat' xs with rfl | ⟨front, c, rfl⟩
  · exact .inr h
  · have hc : c ∉ v := by
      intro hmem
      rw [List.getLast?_concat, isWordStart, Option.any_some,
        isWordChar_of_isAlphanum (hv.2 c hmem)] at hxs
      cases hxs
    rw [List.append_assoc] at h
    exact (infix_append_cons hc h).imp_left fun hfront =>
      hfront.trans (List.prefix_append front [c]).isInfix

/-- What takes the place of a passage that begins in the front ends in brackets that the value is not
in. What it has in front of them was there before, or it is a word by itself. -/
def Hides (m : Matcher) (v front back : List Char) : Prop :=
  ∀ before x, x <:+ front → x ≠ [] → ∀ hit, m before (x ++ back) = some hit →
    ∃ kept inner, hit.replacement = kept ++ '[' :: (inner ++ [']']) ∧ ¬ v <:+: inner ∧
      (kept <+: x ∨ isWordStart before = true ∧ ¬ v <:+: kept)

lemma Hides.suffix {front front' back : List Char} (h : Hides m v front back)
    (hsuffix : front' <:+ front) : Hides m v front' back :=
  fun before x hx => h before x (hx.trans hsuffix)

/-- A value that is in the text afterwards was in it before. The induction is on the front; the
characters in front of it, `done`, have been left alone since the last passage. -/
lemma infix_of_replaceFront (hv : IsPlainValue v) {back : List Char} (front : List Char) :
    Hides m v front back → ∀ (skip : Nat) (before : Option Char) (done rest : List Char),
      done = [] ∨ skip = 0 ∧ done.getLast? = before →
      v <:+: done ++ (replaceFront m back skip before front ++ rest) →
        v <:+: done ++ (front.drop skip ++ rest) := by
  have hopen : '[' ∉ v := hv.not_mem rfl
  have hclose : ']' ∉ v := hv.not_mem rfl
  induction front with
  | nil =>
    intro _ skip before done rest _ h
    rw [List.drop_nil]
    exact h
  | cons c front ih =>
    intro hhides skip before done rest hdone h
    have ih := ih (hhides.suffix (List.suffix_cons c front))
    cases skip with
    | succ skip =>
      exact ih skip (some c) done rest (hdone.imp_right fun hskip => absurd hskip.1 (by omega)) h
    | zero =>
      rw [replaceFront] at h
      cases hhit : m before (c :: (front ++ back)) with
      | none =>
        rw [hhit] at h
        have h := ih 0 (some c) (done ++ [c]) rest (.inr ⟨rfl, List.getLast?_concat⟩)
          (by simpa using h)
        simpa using h
      | some hit =>
        obtain ⟨kept, inner, hreplacement, hinner, hkept⟩ := hhides before (c :: front)
          List.suffix_rfl (List.cons_ne_nil c front) hit hhit
        rw [hhit] at h
        dsimp only at h
        have hsplit : done ++ (hit.replacement ++
            replaceFront m back (hit.length - 1) (some c) front ++ rest) =
              (done ++ kept) ++ '[' :: (inner ++ ']' ::
                (replaceFront m back (hit.length - 1) (some c) front ++ rest)) := by
          rw [hreplacement]
          simp
        rw [hsplit] at h
        rcases infix_append_cons hopen h with hfront | hrest
        · rcases hkept with hkept | ⟨hword, hkept⟩
          · have hkept := hkept.trans (List.prefix_append (c :: front) rest)
            exact hfront.trans ((List.prefix_append_right_inj done).mpr hkept).isInfix
          · have hstart : isWordStart done.getLast? = true := by
              rcases hdone with rfl | ⟨-, rfl⟩
              · rfl
              · exact hword
            rcases hv.infix_append hstart hfront with hdone | hin
            · exact hdone.trans (List.prefix_append done _).isInfix
            · exact absurd hin hkept
        · rcases infix_append_cons hclose hrest with hin | hrest
          · exact absurd hin hinner
          · have hrest := ih (hit.length - 1) (some c) [] rest (.inl rfl) hrest
            have hsuffix : front.drop (hit.length - 1) ++ rest <:+ done ++ (c :: front ++ rest) := by
              refine ⟨done ++ c :: front.take (hit.length - 1), ?_⟩
              rw [List.append_assoc, List.cons_append, ← List.append_assoc (front.take _),
                List.take_append_drop]
              rfl
            exact hrest.trans hsuffix.isInfix

/-- No word reaches from the front into the back if none did before. The induction is on the front; `last`
is what has been put out last. -/
lemma isWordStart_replaceFront {back : List Char} (front : List Char) :
    Hides m v front back → ∀ (skip : Nat) (before last : Option Char),
      (front = [] ∨ 0 < skip → isWordStart last = true) →
      (front ≠ [] → isWordStart front.getLast? = true) →
      isWordStart (lastOr last (replaceFront m back skip before front)) = true := by
  induction front with
  | nil => exact fun _ _ _ _ hlast _ => hlast (.inl rfl)
  | cons c front ih =>
    intro hhides skip before last hlast hfront
    have ih := ih (hhides.suffix (List.suffix_cons c front))
    have hfront' : front ≠ [] → isWordStart front.getLast? = true := by
      intro hne
      have hlast := hfront (List.cons_ne_nil c front)
      rwa [List.getLast?_cons_of_ne_nil hne] at hlast
    cases skip with
    | succ skip => exact ih skip (some c) last (fun _ => hlast (.inr (Nat.succ_pos skip))) hfront'
    | zero =>
      rw [replaceFront]
      cases hhit : m before (c :: (front ++ back)) with
      | none =>
        dsimp only
        rw [lastOr_cons]
        refine ih 0 (some c) (some c) (fun hend => ?_) hfront'
        obtain rfl : front = [] := hend.resolve_right (Nat.lt_irrefl 0)
        exact hfront (List.cons_ne_nil c [])
      | some hit =>
        dsimp only
        obtain ⟨kept, inner, hreplacement, -⟩ := hhides before (c :: front)
          List.suffix_rfl (List.cons_ne_nil c front) hit hhit
        have hlast : lastOr last hit.replacement = some ']' := by
          rw [hreplacement, lastOr, List.getLast?_append, List.getLast?_cons, List.getLast?_concat]
          rfl
        rw [lastOr_append, hlast]
        exact ih (hit.length - 1) (some c) (some ']') (fun _ => rfl) hfront'

/-- A value that is in a text after passages were replaced was in it before. -/
lemma infix_of_replaceFrom (hv : IsPlainValue v) {cs : List Char} (h : Hides m v cs []) (skip : Nat)
    (before : Option Char) (hin : v <:+: replaceFrom m skip before cs) : v <:+: cs := by
  have hparts := replaceFrom_parts m cs [] skip before
  rw [List.append_nil, replaceFrom, List.append_nil] at hparts
  have hdrop := infix_of_replaceFront hv cs h skip before [] [] (.inl rfl)
    (by rwa [List.append_nil, List.nil_append, ← hparts])
  rw [List.nil_append, List.append_nil] at hdrop
  exact hdrop.trans (List.drop_suffix skip cs).isInfix

/-! ### Texts that are kept in two parts -/

/-- A text that is cut in two. -/
structure Parts where
  front : List Char
  back : List Char

namespace Parts

def text (t : Parts) : List Char := t.front ++ t.back

/-- How much of the back belongs to a passage that begins in the front. -/
def overhang (t : Parts) (m : Matcher) : Nat := Redaction.overhang m t.back 0 none t.front

/-- The two parts when every passage of a kind has been replaced. -/
def replace (t : Parts) (m : Matcher) : Parts :=
  ⟨replaceFront m t.back 0 none t.front,
    replaceFrom m (t.overhang m) (lastOr none t.front) t.back⟩

lemma replaceAll_text (t : Parts) (m : Matcher) : replaceAll m t.text = (t.replace m).text :=
  replaceFrom_parts m t.front t.back 0 none

lemma isWordStart_replace {t : Parts} (h : Hides m v t.front t.back)
    (hstart : isWordStart t.front.getLast? = true) :
    isWordStart (t.replace m).front.getLast? = true := by
  have hlast := isWordStart_replaceFront t.front h 0 none none (fun _ => rfl) fun _ => hstart
  rwa [lastOr, Option.or_none] at hlast

lemma infix_of_replace (hv : IsPlainValue v) {t : Parts} (h : Hides m v t.front t.back)
    {rest : List Char} (hin : v <:+: (t.replace m).front ++ rest) : v <:+: t.front ++ rest :=
  infix_of_replaceFront hv t.front h 0 none [] rest (.inl rfl) hin

end Parts

end Reindex.Redaction
