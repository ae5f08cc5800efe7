import Reindex.Proofs.Redaction.Passages
import Reindex.Proofs.Text.Alphanumeric

/-!
# What passages begin with

Whether a passage begins somewhere is decided by the characters there, one class of characters after the
other, and for some kinds by whether a word begins there too. `Sought m start shapes` says so for a kind:
it is found where `start` holds of the character in front and one of the shapes of the kind stands. For
web tokens, bearer tokens and long runs of Base64 no bracket can stand in such a shape.
-/

namespace Reindex.Redaction

open Text

/-- Classes of characters, one for each of the characters that stand one after the other. -/
abbrev Shape := List (Char → Bool)

/-- The text begins with characters of these classes. -/
def Begins : Shape → List Char → Prop
  | [], _ => True
  | _ :: _, [] => False
  | p :: s, c :: cs => p c = true ∧ Begins s cs

/-- No character of the shape can be this one. -/
def Avoids (s : Shape) (c : Char) : Prop := ∀ p ∈ s, p c = false

variable {s t : Shape} {p q : Char → Bool} {c : Char} {cs xs rest : List Char}

lemma Avoids.suffix (h : Avoids s c) (hsuffix : t <:+ s) : Avoids t c :=
  fun p hp => h p (hsuffix.subset hp)

/-! ### Shapes and texts -/

lemma Begins.append : ∀ {s : Shape} {cs : List Char}, Begins s cs → ∀ rest, Begins s (cs ++ rest)
  | [], _, _, _ => trivial
  | _ :: _, _ :: _, ⟨hc, h⟩, rest => ⟨hc, h.append rest⟩

lemma Begins.of_prefix (h : Begins s xs) (hxs : xs <+: cs) : Begins s cs := by
  obtain ⟨rest, rfl⟩ := hxs
  exact h.append rest

lemma not_begins_nil (h : s ≠ []) : ¬ Begins s [] := by
  cases s with
  | nil => exact absurd rfl h
  | cons p s => exact id

lemma Begins.length_le : ∀ {s : Shape} {cs : List Char}, Begins s cs → s.length ≤ cs.length
  | [], _, _ => Nat.zero_le _
  | _ :: _, _ :: _, ⟨_, h⟩ => Nat.succ_le_succ h.length_le

/-- Without the last class, a shape stands without the last character. -/
lemma Begins.dropLast (h : Begins (s ++ [p]) (xs ++ [c])) : Begins s xs := by
  induction s generalizing xs with
  | nil => trivial
  | cons q s ih =>
    cases xs with
    | nil => exact absurd h.2 (not_begins_nil (List.append_ne_nil_of_right_ne_nil s (List.cons_ne_nil p [])))
    | cons x xs => exact ⟨h.1, ih h.2⟩

/-- Every class of a shape has a character in the text. -/
lemma Begins.exists_mem : ∀ {s : Shape} {cs : List Char}, Begins s cs → ∀ {p}, p ∈ s →
    ∃ c ∈ cs, p c = true
  | _ :: _, c :: _, ⟨hc, h⟩, p, hp => by
    rcases List.mem_cons.mp hp with rfl | hp
    · exact ⟨c, List.mem_cons_self, hc⟩
    · obtain ⟨d, hd, hpd⟩ := h.exists_mem hp
      exact ⟨d, List.mem_cons_of_mem c hd, hpd⟩

/-- A shape ends in front of a character that it cannot have. -/
lemma Begins.of_append_stop (hs : Avoids s c) (h : Begins s (xs ++ c :: rest)) : Begins s xs := by
  induction xs generalizing s with
  | nil =>
    cases s with
    | nil => trivial
    | cons p s => exact absurd (h.1.symm.trans (hs p List.mem_cons_self)) nofun
  | cons x xs ih =>
    cases s with
    | nil => trivial
    | cons p s => exact ⟨h.1, ih (hs.suffix (List.suffix_cons p s)) h.2⟩

/-- Some characters of a class, as many as there are. -/
lemma begins_replicate {n : Nat} :
    Begins (List.replicate n p) cs ↔ n ≤ (cs.takeWhile p).length := by
  induction n generalizing cs with
  | zero => exact ⟨fun _ => Nat.zero_le _, fun _ => trivial⟩
  | succ n ih =>
    cases cs with
    | nil => exact ⟨fun h => h.elim, fun h => absurd h (Nat.not_succ_le_zero n)⟩
    | cons c cs =>
      rw [List.replicate_succ, Begins, ih, List.takeWhile_cons]
      by_cases hc : p c = true
      · rw [if_pos hc, List.length_cons, Nat.succ_le_succ_iff]
        exact and_iff_right hc
      · rw [if_neg hc]
        exact ⟨fun h => absurd h.1 hc, fun h => absurd h (Nat.not_succ_le_zero n)⟩

/-- A run of characters of one class, up to a character that is not of this class. -/
lemma begins_run (hpq : ∀ c, q c = true → p c = false) {n : Nat} :
    Begins (List.replicate n p ++ q :: t) cs ↔ (cs.takeWhile p).length = n ∧
      ∃ c rest, cs.dropWhile p = c :: rest ∧ q c = true ∧ Begins t rest := by
  induction n generalizing cs with
  | zero =>
    cases cs with
    | nil => exact ⟨fun h => h.elim, fun ⟨_, _, _, h, _⟩ => absurd h nofun⟩
    | cons c cs =>
      rw [List.replicate_zero, List.nil_append, Begins, List.takeWhile_cons, List.dropWhile_cons]
      by_cases hc : p c = true
      · rw [if_pos hc, if_pos hc]
        exact ⟨fun h => absurd hc (by rw [hpq c h.1]; exact Bool.false_ne_true),
          fun h => absurd h.1 (Nat.succ_ne_zero _)⟩
      · rw [if_neg hc, if_neg hc]
        constructor
        · exact fun h => ⟨rfl, c, cs, rfl, h⟩
        · rintro ⟨-, _, _, heq, h⟩
          cases heq
          exact h
  | succ n ih =>
    cases cs with
    | nil => exact ⟨fun h => h.elim, fun ⟨_, _, _, h, _⟩ => absurd h nofun⟩
    | cons c cs =>
      rw [List.replicate_succ, List.cons_append, Begins, ih, List.takeWhile_cons, List.dropWhile_cons]
      by_cases hc : p c = true
      · rw [if_pos hc, if_pos hc, List.length_cons, Nat.succ_inj]
        exact and_iff_right hc
      · rw [if_neg hc, if_neg hc]
        exact ⟨fun h => absurd h.1 hc, fun h => absurd h.1.symm (Nat.succ_ne_zero n)⟩

/-- A word, whatever the case of its letters. -/
def forms (word : List Char) : Shape := word.map isFormOf

lemma begins_forms {word : List Char} :
    Begins (forms word ++ t) cs ↔ ∃ rest, behindWord? word cs = some rest ∧ Begins t rest := by
  induction word generalizing cs with
  | nil =>
    constructor
    · exact fun h => ⟨cs, rfl, h⟩
    · rintro ⟨rest, h, ht⟩
      cases h
      exact ht
  | cons w word ih =>
    cases cs with
    | nil =>
      constructor
      · exact fun h => h.elim
      · rintro ⟨rest, h, -⟩
        cases h
    | cons c cs =>
      rw [forms, List.map_cons, List.cons_append, Begins, behindWord?, ← forms, ih]
      by_cases hc : isFormOf w c = true
      · rw [if_pos hc]
        exact and_iff_right hc
      · rw [if_neg hc]
        constructor
        · exact fun h => absurd h.1 hc
        · rintro ⟨rest, h, -⟩
          cases h

/-! ### The shapes of the kinds -/

/-- The kind is found where `start` holds of the character in front and one of the shapes stands. -/
structure Sought (m : Matcher) (start : Option Char → Bool) (shapes : Shape → Prop) : Prop where
  isSome_iff : ∀ before cs, (m before cs).isSome = true ↔
    start before = true ∧ ∃ s, shapes s ∧ Begins s cs

/-- The kind is found at every place alike. -/
def anywhere : Option Char → Bool := fun _ => true

/-- The beginning of a web token up to the second dot. -/
def webShape (head body : Nat) : Shape :=
  [(· == 'e'), (· == 'y'), (· == 'J')] ++ (List.replicate (head + 1) isTokenChar ++ (· == '.') ::
    (List.replicate (body + 1) isTokenChar ++ [(· == '.')]))

/-- The beginning of a bearer token up to the first character of the token itself. -/
def bearerShape (gap : Nat) : Shape :=
  forms "bearer".toList ++ (List.replicate (gap + 1) isBlankChar ++ [isBearerChar])

/-- The shortest run that is long. -/
def runShape : Shape := List.replicate 48 isBase64Char

lemma isTokenChar_of_dot : ∀ c, (c == '.') = true → isTokenChar c = false := by
  intro c hc
  rw [eq_of_beq hc]
  rfl

lemma length_pos_of_isEmpty {α : Type} {xs : List α} (h : ¬ xs.isEmpty = true) :
    xs.length - 1 + 1 = xs.length :=
  Nat.sub_add_cancel (List.length_pos_iff.mpr fun hnil => h (hnil ▸ rfl))

lemma not_isEmpty_of_length {α : Type} {xs : List α} {n : Nat} (h : xs.length = n + 1) :
    xs.isEmpty = false := by
  cases xs with
  | nil => cases h
  | cons x xs => rfl

lemma sought_webToken : Sought webToken anywhere fun s => ∃ head body, s = webShape head body where
  isSome_iff before cs := by
    constructor
    · intro h
      refine ⟨rfl, ?_⟩
      unfold webToken at h
      split at h
      · rename_i rest
        dsimp only at h
        split at h
        · rename_i rest' hhead
          split at h
          · rename_i rest'' hbody
            split at h
            · cases h
            · rename_i hempty
              rw [Bool.or_eq_true, not_or] at hempty
              refine ⟨_, ⟨(rest.takeWhile isTokenChar).length - 1,
                (rest'.takeWhile isTokenChar).length - 1, rfl⟩, rfl, rfl, rfl, ?_⟩
              refine (begins_run isTokenChar_of_dot).mpr
                ⟨(length_pos_of_isEmpty hempty.1).symm, '.', rest', hhead, rfl, ?_⟩
              exact (begins_run isTokenChar_of_dot).mpr
                ⟨(length_pos_of_isEmpty hempty.2).symm, '.', rest'', hbody, rfl, trivial⟩
          · cases h
        · cases h
      · cases h
    · rintro ⟨-, _, ⟨head, body, rfl⟩, h⟩
      rcases cs with _ | ⟨e, _ | ⟨y, _ | ⟨J, rest⟩⟩⟩
      · exact h.elim
      · exact h.2.elim
      · exact h.2.2.elim
      obtain ⟨he, hy, hJ, h⟩ := h
      obtain rfl : e = 'e' := eq_of_beq he
      obtain rfl : y = 'y' := eq_of_beq hy
      obtain rfl : J = 'J' := eq_of_beq hJ
      obtain ⟨hhead, d, rest', hdot, hd, h⟩ := (begins_run isTokenChar_of_dot).mp h
      obtain ⟨hbody, d', rest'', hdot', hd', -⟩ := (begins_run isTokenChar_of_dot).mp h
      obtain rfl : d = '.' := eq_of_beq hd
      obtain rfl : d' = '.' := eq_of_beq hd'
      simp [webToken, hdot, hdot', not_isEmpty_of_length hhead, not_isEmpty_of_length hbody]

lemma isBlankChar_of_isBearerChar : ∀ c, isBearerChar c = true → isBlankChar c = false := by
  intro c hc
  simp only [isBearerChar, isLetterForm, Bool.or_eq_true, decide_eq_true_eq,
    List.contains_iff_mem, List.mem_cons, List.not_mem_nil, or_false] at hc
  rcases hc with (hc | rfl | rfl) | rfl | rfl | rfl | rfl | rfl | rfl
  · exact isBlankChar_of_isAlphanum hc
  all_goals decide

lemma sought_bearer : Sought bearer isWordStart fun s => ∃ gap, s = bearerShape gap where
  isSome_iff before cs := by
    cases hstart : isWordStart before with
    | false =>
      unfold bearer
      rw [hstart]
      exact ⟨nofun, fun h => absurd h.1 nofun⟩
    | true =>
      unfold bearer
      rw [hstart, Bool.not_true, if_neg Bool.false_ne_true]
      constructor
      · intro h
        refine ⟨rfl, ?_⟩
        split at h
        · cases h
        · rename_i rest hword
          dsimp only at h
          split at h
          · cases h
          · rename_i hempty
            rw [Bool.or_eq_true, not_or] at hempty
            refine ⟨_, ⟨(rest.takeWhile isBlankChar).length - 1, rfl⟩, begins_forms.mpr
              ⟨rest, hword, (begins_run isBlankChar_of_isBearerChar).mpr
                ⟨(length_pos_of_isEmpty hempty.1).symm, ?_⟩⟩⟩
            cases hdrop : rest.dropWhile isBlankChar with
            | nil => exact absurd (by rw [hdrop]; rfl) hempty.2
            | cons c more =>
              refine ⟨c, more, rfl, ?_, trivial⟩
              by_contra hc
              exact hempty.2 (by rw [hdrop, List.takeWhile_cons, if_neg hc]; rfl)
      · rintro ⟨-, _, ⟨gap, rfl⟩, h⟩
        obtain ⟨rest, hword, h⟩ := begins_forms.mp h
        obtain ⟨hgap, c, more, hdrop, hc, -⟩ := (begins_run isBlankChar_of_isBearerChar).mp h
        rw [hword]
        dsimp only
        rw [not_isEmpty_of_length hgap, hdrop, List.takeWhile_cons, if_pos hc]
        rfl

lemma sought_longBase64 : Sought longBase64 anywhere fun s => s = runShape where
  isSome_iff before cs := by
    unfold longBase64
    dsimp only
    constructor
    · intro h
      refine ⟨rfl, _, rfl, begins_replicate.mpr ?_⟩
      split at h
      · cases h
      · rename_i hlong
        exact Nat.not_lt.mp hlong
    · rintro ⟨-, _, rfl, h⟩
      rw [if_neg (Nat.not_lt.mpr (begins_replicate.mp h))]
      rfl

end Reindex.Redaction
