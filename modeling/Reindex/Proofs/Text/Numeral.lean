import Mathlib.Data.List.Induction
import Mathlib.Tactic.Common
import Reindex.Text.Numeral

/-!
# Numbers and their decimal digits

A run of digits stands for a number exactly if it is the digits of that number with any zeros in front.
With a sign in front of that, it is how a whole number may be spelled.
-/

namespace Reindex.Text

variable {c : Char} {cs : List Char} {n acc : Nat}

/-! ### Runs of digits -/

lemma digit?_eq (c : Char) : digit? c = if c.isDigit then some (c.toNat - '0'.toNat) else none := by
  have hrange : c.isDigit = true ↔ '0' ≤ c ∧ c ≤ '9' := by
    rw [Char.isDigit, Bool.and_eq_true, decide_eq_true_eq, decide_eq_true_eq]
    rfl
  by_cases h : c.isDigit = true
  · rw [digit?, if_pos (hrange.mp h), if_pos h]
  · rw [digit?, if_neg (mt hrange.mpr h), if_neg h]

lemma isSome_digit?_iff : (digit? c).isSome = true ↔ c.isDigit = true := by
  rw [digit?_eq]
  split
  · rename_i h
    exact iff_of_true rfl h
  · rename_i h
    exact iff_of_false Bool.false_ne_true h

lemma digitsValue_eq_some_iff :
    digitsValue acc cs = some n ↔ (∀ c ∈ cs, c.isDigit = true) ∧ Nat.ofDigitChars 10 cs acc = n := by
  induction cs generalizing acc with
  | nil => simp [digitsValue]
  | cons c rest ih =>
    rw [digitsValue, digit?_eq, Nat.ofDigitChars_cons, List.forall_mem_cons]
    by_cases h : c.isDigit = true
    · simp only [h, if_true, true_and]
      rw [ih, Nat.mul_comm]
    · simp [h]

lemma isDigit_of_mem_toDigits (h : c ∈ Nat.toDigits 10 n) : c.isDigit = true :=
  Nat.isDigit_of_mem_toDigits (by decide) (by decide) h

/-- Only the number zero has a zero for its first digit. -/
lemma eq_nil_of_toDigits {n : Nat} : ∀ {rest : List Char}, Nat.toDigits 10 n = '0' :: rest →
    rest = [] := by
  induction n using Nat.strongRecOn with
  | ind n ih =>
    intro rest h
    by_cases hn : n < 10
    · rw [Nat.toDigits_of_lt_base hn] at h
      exact (List.cons.inj h).2.symm
    · rw [Nat.toDigits_of_base_le (by decide) (Nat.not_lt.mp hn)] at h
      obtain ⟨front, hfront, -⟩ := List.append_eq_cons_iff.mp h |>.resolve_left
        fun hnil => Nat.toDigits_ne_nil hnil.1
      have hzero : n / 10 = 0 := by
        obtain rfl := ih (n / 10) (by omega) hfront
        have hvalue := congrArg (Nat.ofDigitChars 10 · 0) hfront
        rwa [Nat.ofDigitChars_toDigits (by decide) (by decide)] at hvalue
      omega

/-- The digits of a number, with zeros in front of them. -/
def paddedDigits (zeros n : Nat) : List Char := List.replicate zeros '0' ++ Nat.toDigits 10 n

lemma paddedDigits_ne_nil (zeros n : Nat) : paddedDigits zeros n ≠ [] :=
  List.append_ne_nil_of_right_ne_nil _ Nat.toDigits_ne_nil

lemma isDigit_of_mem_paddedDigits {zeros : Nat} (h : c ∈ paddedDigits zeros n) :
    c.isDigit = true := by
  rcases List.mem_append.mp h with h | h
  · rw [List.eq_of_mem_replicate h]
    rfl
  · exact isDigit_of_mem_toDigits h

lemma ofDigitChars_paddedDigits (zeros n : Nat) :
    Nat.ofDigitChars 10 (paddedDigits zeros n) 0 = n := by
  have hzeros : Nat.ofDigitChars 10 (List.replicate zeros '0') 0 = 0 := by
    induction zeros with
    | zero => rfl
    | succ zeros ih =>
      rw [List.replicate_succ, Nat.ofDigitChars_cons]
      exact ih
  rw [paddedDigits, Nat.ofDigitChars_append, hzeros, Nat.ofDigitChars_toDigits (by decide) (by decide)]

lemma digitChar_of_isDigit (h : c.isDigit = true) :
    c.toNat - '0'.toNat < 10 ∧ (c.toNat - '0'.toNat).digitChar = c := by
  obtain ⟨hlow, hhigh⟩ := Char.isDigit_iff_toNat.mp h
  have hzero : '0'.toNat = 48 := rfl
  have hnine : '9'.toNat = 57 := rfl
  have hbelow : c.toNat - '0'.toNat < 10 := by omega
  refine ⟨hbelow, ?_⟩
  have hchar : ∀ k < 10, k.digitChar = Char.ofNat (48 + k) := by decide
  rw [hchar _ hbelow, hzero, Nat.add_sub_of_le (by omega), Char.ofNat_toNat]

/-- Digits are those of their value, but for zeros in front. The induction is on the last digit, since
this is the one that is worth itself. -/
lemma exists_eq_paddedDigits (hne : cs ≠ []) (h : ∀ c ∈ cs, c.isDigit = true) :
    ∃ zeros, cs = paddedDigits zeros (Nat.ofDigitChars 10 cs 0) := by
  induction cs using List.reverseRecOn with
  | nil => exact absurd rfl hne
  | append_singleton front d ih =>
    obtain ⟨hbelow, hd⟩ := digitChar_of_isDigit (h d (by simp))
    have hvalue : Nat.ofDigitChars 10 (front ++ [d]) 0 =
        10 * Nat.ofDigitChars 10 front 0 + (d.toNat - '0'.toNat) := by
      rw [Nat.ofDigitChars_append, Nat.ofDigitChars_cons]
      rfl
    rw [hvalue]
    by_cases hfront : front = []
    · subst hfront
      refine ⟨0, ?_⟩
      have hzero : Nat.ofDigitChars 10 [] 0 = 0 := rfl
      rw [hzero, Nat.mul_zero, Nat.zero_add, paddedDigits, Nat.toDigits_of_lt_base hbelow, hd]
      rfl
    · obtain ⟨zeros, hzeros⟩ := ih hfront fun c hc => h c (List.mem_append_left _ hc)
      rcases Nat.eq_zero_or_pos (Nat.ofDigitChars 10 front 0) with hv | hv
      · refine ⟨zeros + 1, ?_⟩
        rw [hv, paddedDigits] at hzeros
        rw [hv, Nat.mul_zero, Nat.zero_add, paddedDigits, Nat.toDigits_of_lt_base hbelow, hd, hzeros,
          List.replicate_succ']
        rfl
      · refine ⟨zeros, ?_⟩
        rw [paddedDigits, Nat.toDigits_of_base_le (by decide) (by omega), Nat.mul_add_div (by decide),
          Nat.mul_add_mod, Nat.div_eq_of_lt hbelow, Nat.mod_eq_of_lt hbelow, hd, Nat.add_zero,
          ← List.append_assoc, ← paddedDigits, ← hzeros]

/-- A text is read as a number in digits exactly if it is the digits of the number behind some zeros. -/
lemma digits?_eq_some_iff : digits? cs = some n ↔ ∃ zeros, cs = paddedDigits zeros n := by
  have hvalue : ∀ {cs : List Char}, cs ≠ [] → digits? cs = digitsValue 0 cs := by
    intro cs hne
    cases cs with
    | nil => exact absurd rfl hne
    | cons c rest => rfl
  constructor
  · intro h
    have hne : cs ≠ [] := by
      rintro rfl
      cases h
    rw [hvalue hne, digitsValue_eq_some_iff] at h
    obtain ⟨hdigits, rfl⟩ := h
    exact exists_eq_paddedDigits hne hdigits
  · rintro ⟨zeros, rfl⟩
    rw [hvalue (paddedDigits_ne_nil zeros n), digitsValue_eq_some_iff]
    exact ⟨fun _ => isDigit_of_mem_paddedDigits, ofDigitChars_paddedDigits zeros n⟩

/-! ### Numbers with a sign -/

/-- A spelling of a whole number in decimal digits: there may be a sign in front of the digits, and
there may be zeros in front of those that count. -/
inductive IsNumeral : List Char → Int → Prop
  | bare (zeros n : Nat) : IsNumeral (paddedDigits zeros n) n
  | plus (zeros n : Nat) : IsNumeral ('+' :: paddedDigits zeros n) n
  | minus (zeros n : Nat) : IsNumeral ('-' :: paddedDigits zeros n) (-n)

/-- The whole numbers of 64 bits. -/
def Is64 (n : Int) : Prop := -0x8000000000000000 ≤ n ∧ n < 0x8000000000000000

/-- The first of some digits is no sign. -/
lemma not_sign_of_eq_paddedDigits {zeros : Nat} {rest : List Char} (h : c :: rest = paddedDigits zeros n) :
    c ≠ '+' ∧ c ≠ '-' := by
  have hdigit : c.isDigit = true := isDigit_of_mem_paddedDigits (h ▸ List.mem_cons_self)
  constructor <;> (rintro rfl; cases hdigit)

/-- A spelling is read as a number exactly if it spells the number, and the number fits. -/
lemma intOfBits?_eq_some_iff {n : Int} : intOfBits? 64 cs = some n ↔ IsNumeral cs n ∧ Is64 n := by
  have hrange : ∀ m : Int, decide (-Int.ofNat (1 <<< 63) ≤ m ∧ m < Int.ofNat (1 <<< 63)) = true ↔
      Is64 m := fun m => decide_eq_true_iff
  unfold intOfBits?
  rw [Option.filter_eq_some_iff, hrange]
  refine and_congr_left fun _ => ?_
  constructor
  · intro h
    split at h
    all_goals
      obtain ⟨k, hk, rfl⟩ := Option.map_eq_some_iff.mp h
      obtain ⟨zeros, rfl⟩ := digits?_eq_some_iff.mp hk
    case h_1 => exact .plus zeros k
    case h_2 => exact .minus zeros k
    case h_3 => exact .bare zeros k
  · intro h
    cases h with
    | bare zeros k =>
      have hvalue : digits? (paddedDigits zeros k) = some k := digits?_eq_some_iff.mpr ⟨zeros, rfl⟩
      split
      · rename_i heq
        exact absurd rfl (not_sign_of_eq_paddedDigits heq.symm).1
      · rename_i heq
        exact absurd rfl (not_sign_of_eq_paddedDigits heq.symm).2
      · rw [hvalue]
        rfl
    | plus zeros k =>
      show (digits? (paddedDigits zeros k)).map Int.ofNat = some (k : Int)
      rw [digits?_eq_some_iff.mpr ⟨zeros, rfl⟩]
      rfl
    | minus zeros k =>
      show (digits? (paddedDigits zeros k)).map (fun n => -Int.ofNat n) = some (-(k : Int))
      rw [digits?_eq_some_iff.mpr ⟨zeros, rfl⟩]
      rfl

/-- The usual spelling has no zeros in front, and no sign but a minus. -/
lemma toList_toString_natCast (n : Nat) : (toString (n : Int)).toList = paddedDigits 0 n :=
  String.toList_ofList

lemma toList_toString_negSucc (n : Nat) :
    (toString (Int.negSucc n)).toList = '-' :: paddedDigits 0 (n + 1) := by
  have htext : toString (Int.negSucc n) = "-" ++ toString (((n + 1 : Nat) : Int)) := rfl
  rw [htext, String.toList_append, toList_toString_natCast]
  rfl

lemma isNumeral_toString (n : Int) : IsNumeral (toString n).toList n := by
  cases n with
  | ofNat n =>
    rw [Int.ofNat_eq_natCast, toList_toString_natCast]
    exact .bare 0 n
  | negSucc n =>
    rw [toList_toString_negSucc]
    exact .minus 0 (n + 1)

end Reindex.Text
