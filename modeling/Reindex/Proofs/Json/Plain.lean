import Reindex.Json.Reader
import Reindex.Proofs.Text.Utf8

/-!
# JSON without escapes

Most strings that go over the wire need no escapes: what stands between the quotes is the text itself.
An object with one such string under one such key is read as exactly that.
-/

namespace Reindex.Json

open Text Text.Utf8

/-- A character that stands for itself in a string. -/
def isPlainChar (c : Char) : Bool := c ≠ '"' && c ≠ '\\' && 0x20 ≤ c.toNat

/-- A text that stands for itself between quotes. -/
def isPlain (s : String) : Bool := s.toList.all isPlainChar

/-- The object with a single text under a single key, as a text. -/
def memberText (key value : String) : String := "\x7b\"" ++ key ++ "\":\"" ++ value ++ "\"\x7d"

/-! ### Octets -/

/-- An octet that stands for itself in a string. -/
def isPlainOctet (b : UInt8) : Bool := b ≠ 0x22 && b ≠ 0x5C && 0x20 ≤ b.toNat

lemma toNat_asChar (b : UInt8) : (asChar b).toNat = b.toNat := by
  have hvalid : b.toNat.isValidChar := .inl (by have := b.toNat_lt; omega)
  rw [asChar, Char.ofNat, dif_pos hvalid]
  rfl

lemma asChar_eq_iff {b : UInt8} {c : Char} : asChar b = c ↔ b.toNat = c.toNat := by
  rw [← toNat_asChar]
  constructor
  · intro h
    rw [h]
  · intro h
    rw [← Char.ofNat_toNat (asChar b), h, Char.ofNat_toNat]

lemma isPlainOctet_iff {b : UInt8} :
    isPlainOctet b = true ↔ asChar b ≠ '"' ∧ asChar b ≠ '\\' ∧ 0x20 ≤ b.toNat := by
  simp only [isPlainOctet, Bool.and_eq_true, decide_eq_true_eq, ne_eq, asChar_eq_iff,
    ← UInt8.toNat_inj, and_assoc]
  rfl

/-- The octets of a plain character are plain: there is only one, or they are beyond all that mean
anything to a reader. -/
lemma isPlainOctet_of_encodeChar {c : Char} (h : isPlainChar c = true) :
    ∀ b ∈ String.utf8EncodeChar c, isPlainOctet b = true := by
  simp only [isPlainChar, Bool.and_eq_true, decide_eq_true_eq, and_assoc] at h
  obtain ⟨hquote, hslash, hlow⟩ := h
  have hlarge : ∀ n, 0x80 ≤ n → n < 0x100 → isPlainOctet (UInt8.ofNat n) = true := by
    intro n hn hlt
    rw [isPlainOctet_iff, Ne, Ne, asChar_eq_iff, asChar_eq_iff, toNat_ofNat_octet hlt]
    exact ⟨by have : '"'.toNat = 34 := rfl; omega, by have : '\\'.toNat = 92 := rfl; omega, by omega⟩
  intro b hb
  simp only [String.utf8EncodeChar] at hb
  simp only [show c.val.toNat = c.toNat from rfl] at hb
  split_ifs at hb with h1 h2 h3
  · rw [List.mem_singleton] at hb
    rw [hb, isPlainOctet_iff, Ne, Ne, asChar_eq_iff, asChar_eq_iff, toNat_ofNat_octet (by omega)]
    refine ⟨fun heq => hquote ?_, fun heq => hslash ?_, hlow⟩
    · rw [← Char.ofNat_toNat c, heq, Char.ofNat_toNat]
    · rw [← Char.ofNat_toNat c, heq, Char.ofNat_toNat]
  all_goals
    simp only [List.mem_cons, List.not_mem_nil, or_false] at hb
    rcases hb with rfl | rfl | rfl | rfl
  all_goals exact hlarge _ (by omega) (by omega)

/-- Plain octets are pieces of their own, up to the quote behind them. -/
lemma pieces?_of_plain {bs : List UInt8} (h : ∀ b ∈ bs, isPlainOctet b = true) (rest : List UInt8) :
    pieces? (bs ++ 0x22 :: rest) = some (bs.map .octet, rest) := by
  induction bs with
  | nil =>
    rw [List.nil_append]
    unfold pieces?
    exact if_pos (by decide)
  | cons b bs ih =>
    obtain ⟨hquote, hslash, hlow⟩ := isPlainOctet_iff.mp (h b List.mem_cons_self)
    have ih := ih fun b hb => h b (List.mem_cons_of_mem _ hb)
    rw [List.cons_append]
    unfold pieces?
    rw [if_neg hquote, if_neg hslash, if_neg (by omega), ih]
    rfl

lemma pieceOctets?_map_octet (bs : List UInt8) : pieceOctets? (bs.map .octet) = some bs := by
  induction bs with
  | nil => rfl
  | cons b bs ih => rw [List.map_cons, pieceOctets?, ih, Option.map_some]

/-! ### Tokens -/

lemma tokens?_cons {b : UInt8} {rest more : List UInt8} {t : Token} (hb : isSpace b = false)
    (h : first? b rest = some (t, more)) : tokens? (b :: rest) = (tokens? more).map (t :: ·) := by
  rw [tokens?, hb, if_neg Bool.false_ne_true]
  split
  · rename_i heq
    rw [h] at heq
    cases heq
  · rename_i heq
    rw [h] at heq
    cases heq
    rfl

/-- A plain text between quotes is a token. -/
lemma tokens?_quoted {s : String} (h : isPlain s = true) (rest : List UInt8) :
    tokens? (0x22 :: (encode s ++ 0x22 :: rest)) = (tokens? rest).map (.string (some s) :: ·) := by
  have hs : ∀ b ∈ encode s, isPlainOctet b = true := by
    intro b hb
    obtain ⟨c, hc, hb⟩ := List.mem_flatMap.mp hb
    exact isPlainOctet_of_encodeChar (List.all_eq_true.mp h c hc) b hb
  refine tokens?_cons rfl ?_
  have hquote : mark? (asChar 0x22) = none := by decide
  rw [first?, hquote, if_pos (by decide), pieces?_of_plain hs, Option.map_some, pieceText?,
    pieceOctets?_map_octet, Option.bind_some, decode?_encode]

lemma tokens?_mark {b : UInt8} {t : Token} (hb : isSpace b = false) (h : mark? (asChar b) = some t)
    (rest : List UInt8) : tokens? (b :: rest) = (tokens? rest).map (t :: ·) :=
  tokens?_cons hb (by rw [first?, h])

lemma encode_memberText (key value : String) : encode (memberText key value) =
    0x7B :: 0x22 :: (encode key ++ 0x22 :: 0x3A :: 0x22 :: (encode value ++ [0x22, 0x7D])) := by
  have h1 : encode "\x7b\"" = [0x7B, 0x22] := by decide
  have h2 : encode "\":\"" = [0x22, 0x3A, 0x22] := by decide
  have h3 : encode "\"\x7d" = [0x22, 0x7D] := by decide
  simp only [memberText]
  simp only [encode_append]
  rw [h1, h2, h3]
  simp

/-- The tokens of the object with a single text come before those of what follows. -/
lemma tokens?_memberText {key value : String} (hkey : isPlain key = true)
    (hvalue : isPlain value = true) (rest : List UInt8) :
    tokens? (encode (memberText key value) ++ rest) = (tokens? rest).map fun more =>
      .leftBrace :: .string (some key) :: .colon :: .string (some value) :: .rightBrace :: more := by
  rw [encode_memberText]
  simp only [List.cons_append, List.append_assoc, List.nil_append]
  rw [tokens?_mark rfl (t := .leftBrace) rfl, tokens?_quoted hkey, tokens?_mark rfl (t := .colon) rfl,
    tokens?_quoted hvalue, tokens?_mark rfl (t := .rightBrace) rfl]
  simp only [Option.map_map]
  rfl

/-- The text of the object with a single text is read as that object. -/
lemma readText?_memberText {key value : String} (hkey : isPlain key = true)
    (hvalue : isPlain value = true) :
    readText? (memberText key value) = some (.object [(some key, .string (some value))]) := by
  have htokens := tokens?_memberText hkey hvalue []
  rw [List.append_nil] at htokens
  rw [readText?, read?, htokens, tokens?]
  rfl

/-- The object with such an object under a single key, as a text. -/
def recordText (outer key value : String) : String :=
  "\x7b\"" ++ outer ++ "\":" ++ memberText key value ++ "\x7d"

lemma readText?_recordText {outer key value : String} (houter : isPlain outer = true)
    (hkey : isPlain key = true) (hvalue : isPlain value = true) :
    readText? (recordText outer key value) =
      some (.object [(some outer, .object [(some key, .string (some value))])]) := by
  have hencode : encode (recordText outer key value) =
      0x7B :: 0x22 :: (encode outer ++ 0x22 :: 0x3A :: (encode (memberText key value) ++ [0x7D])) := by
    have h1 : encode "\x7b\"" = [0x7B, 0x22] := by decide
    have h2 : encode "\":" = [0x22, 0x3A] := by decide
    have h3 : encode "\x7d" = [0x7D] := by decide
    simp only [recordText]
    simp only [encode_append]
    rw [h1, h2, h3]
    simp
  rw [readText?, read?, hencode, tokens?_mark rfl (t := .leftBrace) rfl, tokens?_quoted houter,
    tokens?_mark rfl (t := .colon) rfl, tokens?_memberText hkey hvalue,
    tokens?_mark rfl (t := .rightBrace) rfl, tokens?]
  rfl

end Reindex.Json
