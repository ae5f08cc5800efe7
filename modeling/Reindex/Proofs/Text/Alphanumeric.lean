import Mathlib.Tactic.Common
import Reindex.Text.Blank
import Reindex.Text.WordChar

/-!
# ASCII letters and digits

Many checks of the project let letters and digits pass as they are. What their proofs need is where
these characters lie among the code points.
-/

namespace Reindex.Text

variable {c d : Char}

/-- There are few enough characters in ASCII to try all of them. -/
lemma forall_ascii {p : Char → Prop} (h : ∀ n < 0x80, p (Char.ofNat n)) :
    ∀ c : Char, c.toNat < 0x80 → p c := by
  intro c hc
  have hp := h c.toNat hc
  rwa [Char.ofNat_toNat] at hp

/-- The digits, the capital letters and the small letters are one range of code points each. -/
lemma isAlphanum_iff : c.isAlphanum = true ↔
    48 ≤ c.toNat ∧ c.toNat ≤ 57 ∨ 65 ≤ c.toNat ∧ c.toNat ≤ 90 ∨ 97 ≤ c.toNat ∧ c.toNat ≤ 122 := by
  have hranges : c.isAlphanum = ((decide (c.val ≥ 65 ∧ c.val ≤ 90) ||
      (decide (c.val ≥ 97) && decide (c.val ≤ 122))) ||
        (decide (c.val ≥ 48) && decide (c.val ≤ 57))) := rfl
  rw [hranges]
  simp only [Bool.or_eq_true, Bool.and_eq_true, decide_eq_true_eq, ge_iff_le,
    UInt32.le_iff_toNat_le]
  change ((65 ≤ c.toNat ∧ c.toNat ≤ 90) ∨ (97 ≤ c.toNat ∧ c.toNat ≤ 122)) ∨
    (48 ≤ c.toNat ∧ c.toNat ≤ 57) ↔ _
  omega

lemma toNat_lt_of_isAlphanum (h : c.isAlphanum = true) : c.toNat < 0x80 := by
  have hranges := isAlphanum_iff.mp h
  omega

lemma isBlankChar_of_isAlphanum (h : c.isAlphanum = true) : isBlankChar c = false := by
  have hranges := isAlphanum_iff.mp h
  simp [isBlankChar]
  omega

lemma ne_of_isAlphanum (h : c.isAlphanum = true) (hd : d.isAlphanum = false) : c ≠ d := by
  rintro rfl
  rw [h] at hd
  cases hd

lemma isWordChar_of_isAlphanum (h : c.isAlphanum = true) : isWordChar c = true := by
  rw [isWordChar, if_pos (toNat_lt_of_isAlphanum h), h]
  rfl

/-- Only a letter has another small form, and that is a letter too. -/
lemma toLower_cases (c : Char) :
    c.toLower = c ∨ c.isAlphanum = true ∧ c.toLower.isAlphanum = true := by
  unfold Char.toLower
  split
  · rename_i hupper
    obtain ⟨hlow, hhigh⟩ := hupper
    rw [ge_iff_le, UInt32.le_iff_toNat_le] at hlow
    rw [UInt32.le_iff_toNat_le] at hhigh
    change 65 ≤ c.toNat at hlow
    change c.toNat ≤ 90 at hhigh
    have hsmall : ∀ h, (Char.mk (c.val + ('a'.val - 'A'.val)) h).toNat = c.toNat + 32 := by
      intro h
      change (c.val + 32).toNat = c.toNat + 32
      rw [UInt32.toNat_add, Nat.mod_eq_of_lt]
      · rfl
      · change c.toNat + 32 < 2 ^ 32
        omega
    right
    rw [isAlphanum_iff, isAlphanum_iff, hsmall]
    omega
  · exact .inl rfl

/-- A property that all letters and digits have does not depend on the case of a character. -/
lemma toLower_eq_of_isAlphanum {f : Char → Bool} (hf : ∀ c, c.isAlphanum = true → f c = true)
    (c : Char) : f c.toLower = f c := by
  rcases toLower_cases c with hsame | ⟨hc, hsmall⟩
  · rw [hsame]
  · rw [hf c hc, hf c.toLower hsmall]

end Reindex.Text
