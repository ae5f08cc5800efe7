import Mathlib.Tactic.Common
import Reindex.Proofs.Text.Utf8
import Reindex.Url.Percent

/-!
# Percent encoding, there and back

Where a percent sign is encoded too, what was encoded is read as the octets of the text that it was. So
no two texts are encoded alike.
-/

namespace Reindex

/-- A digit that is written in capitals is read as itself. -/
lemma Text.hexDigit?_upperHex {n : Nat} (h : n < 16) : hexDigit? (upperHex n) = some n := by
  have hall : ∀ n < 16, hexDigit? (upperHex n) = some n := by decide
  exact hall n h

lemma Text.isAlphanum_upperHex {n : Nat} (h : n < 16) : (upperHex n).isAlphanum = true := by
  have hall : ∀ n < 16, (upperHex n).isAlphanum = true := by decide
  exact hall n h

namespace Url.Percent

open Text

variable {set : Char → Bool}

/-! ### What is written -/

/-- An escape is a percent sign and digits. -/
lemma mem_escape {b : UInt8} {c : Char} (h : c ∈ escape b) : c = '%' ∨ c.isAlphanum = true := by
  have hb : b.toNat < 256 := b.toNat_lt
  simp only [escape, List.mem_cons, List.not_mem_nil, or_false] at h
  rcases h with rfl | rfl | rfl
  · exact .inl rfl
  · exact .inr (isAlphanum_upperHex (by omega))
  · exact .inr (isAlphanum_upperHex (by omega))

lemma encodeChar_ne_nil (set : Char → Bool) (c : Char) : encodeChar set c ≠ [] := by
  unfold encodeChar
  split
  · intro hnil
    have hlength := String.length_utf8EncodeChar c
    cases hoctets : String.utf8EncodeChar c with
    | nil =>
      rw [hoctets] at hlength
      exact absurd hlength.symm (Nat.ne_of_gt c.utf8Size_pos)
    | cons b more =>
      rw [hoctets] at hnil
      cases hnil
  · exact List.cons_ne_nil c []

/-- Besides escapes there are only characters of the text that need no encoding. -/
lemma mem_encode {cs : List Char} {c : Char} (h : c ∈ encode set cs) :
    (c = '%' ∨ c.isAlphanum = true) ∨ c ∈ cs ∧ c.toNat < 0x80 ∧ set c = false := by
  obtain ⟨d, hd, h⟩ := List.mem_flatMap.mp h
  unfold encodeChar at h
  split at h
  · obtain ⟨b, -, hc⟩ := List.mem_flatMap.mp h
    exact .inl (mem_escape hc)
  · rename_i hplain
    obtain rfl := List.mem_singleton.mp h
    rw [Bool.or_eq_true, decide_eq_true_eq, not_or, Bool.not_eq_true] at hplain
    exact .inr ⟨hd, Nat.lt_of_not_le hplain.1, hplain.2⟩

/-! ### What is read -/

lemma decode_cons {c : Char} (h : c ≠ '%') (rest : List Char) :
    decode (c :: rest) = String.utf8EncodeChar c ++ decode rest := by
  rw [decode]
  intro a b more hc
  exact absurd hc h

/-- An octet that is written as `%XX` is read as that octet. -/
lemma decode_escape (b : UInt8) (rest : List Char) : decode (escape b ++ rest) = b :: decode rest := by
  have hb : b.toNat < 256 := b.toNat_lt
  have hvalue : b.toNat / 16 * 16 + b.toNat % 16 = b.toNat := by omega
  simp only [escape, List.cons_append, List.nil_append]
  rw [decode, hexDigit?_upperHex (by omega), hexDigit?_upperHex (by omega)]
  simp only [hvalue, UInt8.ofNat_toNat]

lemma decode_flatMap_escape (bytes : List UInt8) (rest : List Char) :
    decode (bytes.flatMap escape ++ rest) = bytes ++ decode rest := by
  induction bytes with
  | nil => rfl
  | cons b bytes ih =>
    rw [List.flatMap_cons, List.append_assoc, decode_escape, ih, List.cons_append]

/-- A character is read as its octets, whether it is encoded or not, if a percent sign is. -/
lemma decode_encodeChar (hset : set '%' = true) (c : Char) (rest : List Char) :
    decode (encodeChar set c ++ rest) = String.utf8EncodeChar c ++ decode rest := by
  unfold encodeChar
  split
  · exact decode_flatMap_escape _ rest
  · rename_i h
    apply decode_cons
    rintro rfl
    rw [hset, Bool.or_true] at h
    exact h rfl

lemma encode_cons (set : Char → Bool) (c : Char) (cs : List Char) :
    encode set (c :: cs) = encodeChar set c ++ encode set cs := List.flatMap_cons

/-- An encoded text is decoded as its own octets, if the percent sign is encoded. -/
lemma decode_encode (hset : set '%' = true) (cs : List Char) :
    decode (encode set cs) = Utf8.encodeList cs := by
  induction cs with
  | nil => rfl
  | cons c cs ih => rw [encode_cons, decode_encodeChar hset, ih, Utf8.encodeList_cons]

lemma encode_injective (hset : set '%' = true) : Function.Injective (encode set) := by
  intro cs cs' h
  have hoctets := congrArg decode h
  rw [decode_encode hset, decode_encode hset] at hoctets
  exact Utf8.encodeList_injective hoctets

end Url.Percent

end Reindex
