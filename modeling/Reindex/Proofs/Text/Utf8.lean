import Mathlib.Tactic.Common
import Reindex.Text.Utf8

/-!
# UTF-8, there and back

What a text is written as is read as that text again, whether by the strict or by the lenient reader,
and the two readers agree on everything that the strict one accepts.
-/

namespace Reindex.Text.Utf8

/-! ### First octets -/

lemma lead?_one {a : Nat} (h : a < 0x80) : lead? a = some ⟨0, 0x80, 0xBF, a⟩ := by
  rw [lead?, if_pos h]

lemma lead?_two {a : Nat} (h : 0xC2 ≤ a ∧ a ≤ 0xDF) : lead? a = some ⟨1, 0x80, 0xBF, a - 0xC0⟩ := by
  rw [lead?, if_neg (by omega), if_pos h]

/-- The octets behind the first one of three must spell neither an overlong form nor a surrogate. -/
lemma exists_lead?_three {a b : Nat} (ha : 0xE0 ≤ a ∧ a ≤ 0xEF) (hb : 0x80 ≤ b ∧ b ≤ 0xBF)
    (hlow : a = 0xE0 → 0xA0 ≤ b) (hhigh : a = 0xED → b ≤ 0x9F) :
    ∃ low high, lead? a = some ⟨2, low, high, a - 0xE0⟩ ∧ low ≤ b ∧ b ≤ high := by
  rw [lead?, if_neg (by omega), if_neg (by omega)]
  by_cases h0 : a = 0xE0
  · subst h0
    exact ⟨0xA0, 0xBF, rfl, hlow rfl, hb.2⟩
  by_cases hD : a = 0xED
  · subst hD
    exact ⟨0x80, 0x9F, rfl, hb.1, hhigh rfl⟩
  rw [if_neg h0, if_neg hD, if_pos (by omega)]
  exact ⟨0x80, 0xBF, rfl, hb⟩

/-- The octets behind the first one of four must spell neither an overlong form nor anything beyond the last
code point. -/
lemma exists_lead?_four {a b : Nat} (ha : 0xF0 ≤ a ∧ a ≤ 0xF4) (hb : 0x80 ≤ b ∧ b ≤ 0xBF)
    (hlow : a = 0xF0 → 0x90 ≤ b) (hhigh : a = 0xF4 → b ≤ 0x8F) :
    ∃ low high, lead? a = some ⟨3, low, high, a - 0xF0⟩ ∧ low ≤ b ∧ b ≤ high := by
  rw [lead?, if_neg (by omega), if_neg (by omega), if_neg (by omega), if_neg (by omega),
    if_neg (by omega)]
  by_cases h0 : a = 0xF0
  · subst h0
    exact ⟨0x90, 0xBF, rfl, hlow rfl, hb.2⟩
  by_cases h4 : a = 0xF4
  · subst h4
    exact ⟨0x80, 0x8F, rfl, hb.1, hhigh rfl⟩
  rw [if_neg h0, if_pos (by omega)]
  exact ⟨0x80, 0xBF, rfl, hb⟩

/-! ### One character -/

lemma tails_succ {count low high bits : Nat} {b : UInt8} {rest : List UInt8}
    (h : low ≤ b.toNat ∧ b.toNat ≤ high) :
    tails (count + 1) low high bits (b :: rest) =
      tails count 0x80 0xBF (bits * 64 + (b.toNat - 0x80)) rest := by
  rw [tails, if_pos h]

lemma next_of_lead? {a : UInt8} {l : Lead} (h : lead? a.toNat = some l) (rest : List UInt8) :
    next a rest = ((tails l.count l.low l.high l.bits rest).1.map Char.ofNat,
      (tails l.count l.low l.high l.bits rest).2) := by
  rw [next, h]

lemma toNat_ofNat_octet {n : Nat} (h : n < 0x100) : (UInt8.ofNat n).toNat = n := by
  rw [UInt8.toNat_ofNat', Nat.mod_eq_of_lt h]

/-- The octets of a character are read as the character, and nothing more is read. -/
lemma exists_next_encodeChar (c : Char) (rest : List UInt8) :
    ∃ a more, String.utf8EncodeChar c = a :: more ∧ next a (more ++ rest) = (some c, rest) := by
  have hvalid : c.toNat < 0xD800 ∨ 0xDFFF < c.toNat ∧ c.toNat < 0x110000 := c.valid
  have hc : Char.ofNat c.toNat = c := Char.ofNat_toNat c
  simp only [String.utf8EncodeChar]
  simp only [show c.val.toNat = c.toNat from rfl]
  split_ifs with h1 h2 h3
  · refine ⟨_, _, rfl, ?_⟩
    have ha := toNat_ofNat_octet (n := c.toNat) (by omega)
    rw [next_of_lead? (lead?_one (by omega))]
    simp [tails, ha, hc]
  · refine ⟨_, _, rfl, ?_⟩
    have ha := toNat_ofNat_octet (n := c.toNat / 64 % 0x20 + 0xC0) (by omega)
    have hb := toNat_ofNat_octet (n := c.toNat % 0x40 + 0x80) (by omega)
    rw [next_of_lead? (lead?_two (by omega))]
    simp only [List.cons_append, List.nil_append]
    rw [tails_succ (by omega), tails]
    refine Prod.ext ?_ rfl
    rw [Option.map_some, Option.some.injEq]
    convert hc using 2
    omega
  · refine ⟨_, _, rfl, ?_⟩
    have ha := toNat_ofNat_octet (n := c.toNat / 4096 % 0x10 + 0xE0) (by omega)
    have hb := toNat_ofNat_octet (n := c.toNat / 64 % 0x40 + 0x80) (by omega)
    have hd := toNat_ofNat_octet (n := c.toNat % 0x40 + 0x80) (by omega)
    obtain ⟨low, high, hlead, hlow⟩ := exists_lead?_three
      (a := (UInt8.ofNat (c.toNat / 4096 % 0x10 + 0xE0)).toNat)
      (b := (UInt8.ofNat (c.toNat / 64 % 0x40 + 0x80)).toNat)
      (by omega) (by omega) (by omega) (by omega)
    rw [next_of_lead? hlead]
    simp only [List.cons_append, List.nil_append]
    rw [tails_succ hlow, tails_succ (by omega), tails]
    refine Prod.ext ?_ rfl
    rw [Option.map_some, Option.some.injEq]
    convert hc using 2
    omega
  · refine ⟨_, _, rfl, ?_⟩
    have ha := toNat_ofNat_octet (n := c.toNat / 262144 % 0x08 + 0xF0) (by omega)
    have hb := toNat_ofNat_octet (n := c.toNat / 4096 % 0x40 + 0x80) (by omega)
    have hd := toNat_ofNat_octet (n := c.toNat / 64 % 0x40 + 0x80) (by omega)
    have he := toNat_ofNat_octet (n := c.toNat % 0x40 + 0x80) (by omega)
    obtain ⟨low, high, hlead, hlow⟩ := exists_lead?_four
      (a := (UInt8.ofNat (c.toNat / 262144 % 0x08 + 0xF0)).toNat)
      (b := (UInt8.ofNat (c.toNat / 4096 % 0x40 + 0x80)).toNat)
      (by omega) (by omega) (by omega) (by omega)
    rw [next_of_lead? hlead]
    simp only [List.cons_append, List.nil_append]
    rw [tails_succ hlow, tails_succ (by omega), tails_succ (by omega), tails]
    refine Prod.ext ?_ rfl
    rw [Option.map_some, Option.some.injEq]
    convert hc using 2
    omega

/-! ### Texts -/

@[simp] lemma encodeList_nil : encodeList [] = [] := rfl

lemma encodeList_cons (c : Char) (cs : List Char) :
    encodeList (c :: cs) = String.utf8EncodeChar c ++ encodeList cs := List.flatMap_cons

lemma encodeList_append (cs cs' : List Char) :
    encodeList (cs ++ cs') = encodeList cs ++ encodeList cs' := List.flatMap_append

lemma encode_append (s s' : String) : encode (s ++ s') = encode s ++ encode s' := by
  rw [encode, String.toList_append, encodeList_append]
  rfl

lemma scan_encodeList (cs : List Char) : scan (encodeList cs) = cs.map some := by
  induction cs with
  | nil => rw [encodeList_nil, scan, List.map_nil]
  | cons c cs ih =>
    obtain ⟨a, more, hchar, hnext⟩ := exists_next_encodeChar c (encodeList cs)
    rw [encodeList_cons, hchar, List.cons_append, scan, hnext, ih, List.map_cons]

/-- No two texts are written alike. -/
lemma encodeList_injective : Function.Injective encodeList := by
  intro cs cs' h
  have hscan := congrArg scan h
  rw [scan_encodeList, scan_encodeList] at hscan
  exact (List.map_inj_right fun _ _ => Option.some.inj).mp hscan

lemma mapM_id_eq_some_iff {α : Type} {xs : List (Option α)} {ys : List α} :
    xs.mapM id = some ys ↔ xs = ys.map some := by
  induction xs generalizing ys with
  | nil =>
    rw [List.mapM_nil]
    cases ys with
    | nil => exact ⟨fun _ => rfl, fun _ => rfl⟩
    | cons y ys => exact ⟨nofun, nofun⟩
  | cons x xs ih =>
    rw [List.mapM_cons]
    cases x with
    | none => cases ys <;> exact ⟨nofun, nofun⟩
    | some x =>
      cases ys with
      | nil =>
        cases hxs : xs.mapM id <;> exact ⟨by simp, nofun⟩
      | cons y ys =>
        rw [List.map_cons, List.cons.injEq, ← ih]
        cases hxs : xs.mapM id <;> simp

/-- The strict reader accepts what has no bad octets in it, and gives its characters. -/
lemma decodeList?_eq_some_iff {bytes : List UInt8} {cs : List Char} :
    decodeList? bytes = some cs ↔ scan bytes = cs.map some := mapM_id_eq_some_iff

/-- The strict reader undoes the writing. -/
lemma decode?_encode (s : String) : decode? (encode s) = some s := by
  rw [decode?, encode, decodeList?_eq_some_iff.mpr (scan_encodeList s.toList), Option.map_some,
    String.ofList_toList]

/-- The lenient reader reads what the strict one does, where that reads anything. -/
lemma decodeLossy_of_decode? {bytes : List UInt8} {s : String} (h : decode? bytes = some s) :
    decodeLossy bytes = s := by
  obtain ⟨cs, hcs, rfl⟩ := Option.map_eq_some_iff.mp h
  rw [decodeLossy, decodeList?_eq_some_iff.mp hcs, List.map_map]
  congr 1
  exact List.map_id cs

end Reindex.Text.Utf8
