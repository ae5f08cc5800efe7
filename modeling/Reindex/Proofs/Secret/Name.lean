import Mathlib.Data.String.Basic
import Mathlib.Tactic.Common
import Reindex.Proofs.Outcome
import Reindex.Proofs.Text.Alphanumeric
import Reindex.Secret.Error

/-!
# Which texts are names of secrets

The check of a name counts octets, looks for a first character that is wrong and has a fault for each
case. What it lets pass is said in one sentence by `IsSecretName`.
-/

namespace Reindex

/-- The text has 1 to 127 letters, digits and hyphens, all of them ASCII. -/
def IsSecretName (s : String) : Prop :=
  0 < s.length ∧ s.length ≤ maxSecretNameLength ∧ ∀ c ∈ s.toList, c.isAlphanum = true ∨ c = '-'

instance (s : String) : Decidable (IsSecretName s) := inferInstanceAs (Decidable (_ ∧ _ ∧ _))

lemma isSecretNameChar_iff (c : Char) :
    isSecretNameChar c = true ↔ c.isAlphanum = true ∨ c = '-' := by
  rw [isSecretNameChar, Bool.or_eq_true, decide_eq_true_eq]

/-- The characters of names are ASCII. -/
lemma toNat_lt_of_isSecretNameChar {c : Char} (h : isSecretNameChar c = true) : c.toNat < 0x80 := by
  rcases (isSecretNameChar_iff c).mp h with h | rfl
  · exact Text.toNat_lt_of_isAlphanum h
  · decide

/-- A text of such characters has as many octets as characters. -/
lemma utf8ByteSize_of_isSecretNameChar {s : String} (h : ∀ c ∈ s.toList, isSecretNameChar c = true) :
    s.utf8ByteSize = s.length := by
  rw [← String.utf8Len_toList, ← String.length_toList]
  generalize s.toList = cs at h
  induction cs with
  | nil => rfl
  | cons c rest ih =>
    have hc : c.utf8Size = 1 := by
      rw [Char.utf8Size_eq_one_iff, UInt32.le_iff_toNat_le]
      exact Nat.le_of_lt_succ (toNat_lt_of_isSecretNameChar (h c List.mem_cons_self))
    rw [String.utf8Len_cons, hc, List.length_cons, ih fun d hd => h d (List.mem_cons_of_mem c hd)]

/-- Nothing is wrong with the names of secrets, and something with every other text. -/
lemma secretNameFault?_eq_none_iff (s : String) : secretNameFault? s = none ↔ IsSecretName s := by
  have hfind : (s.toList.find? fun c => !isSecretNameChar c) = none ↔
      ∀ c ∈ s.toList, isSecretNameChar c = true := by
    simp only [List.find?_eq_none, Bool.not_eq_true', Bool.not_eq_false]
  have hlength : 0 < s.length ↔ s ≠ "" := by
    rw [Nat.pos_iff_ne_zero, ne_eq, String.length_eq_zero_iff]
  simp only [secretNameFault?, IsSecretName]
  simp only [← isSecretNameChar_iff]
  by_cases hchars : ∀ c ∈ s.toList, isSecretNameChar c = true
  · rw [hlength, utf8ByteSize_of_isSecretNameChar hchars]
    split_ifs with hempty hlong
    · simp_all
    · simp_all
    · simp_all
  · split_ifs with hempty hlong
    · simp_all
    · simp_all
    · rw [Option.map_eq_none_iff, hfind]
      exact ⟨fun h => absurd h hchars, fun h => absurd h.2.2 hchars⟩

namespace SecretName

/-- The check in `create` lets the names of secrets pass, and no other text. -/
lemma isOk_create_iff (s : String) : (create s).isOk = true ↔ IsSecretName s := by
  rw [← secretNameFault?_eq_none_iff, create, check]
  split <;> simp_all [Except.mapError, Except.isOk, Except.toBool]

end SecretName

end Reindex
