import Reindex.Json.Printer
import Reindex.Proofs.Json.Plain
import Reindex.Proofs.Text.Blank
import Reindex.Proofs.Text.Numeral

/-!
# Records of numbers

An object of numbers that is written is read as these numbers under their keys. Digits are a token up to
whatever cannot be in a number.
-/

namespace Reindex.Json

open Text Text.Utf8

/-! ### Digits -/

/-- The octet of a digit. -/
def octet (c : Char) : UInt8 := UInt8.ofNat c.toNat

variable {c : Char} {n : Nat} {rest : List UInt8}

lemma asChar_octet (h : c.isDigit = true) : asChar (octet c) = c := by
  obtain ⟨-, hhigh⟩ := Char.isDigit_iff_toNat.mp h
  have hnine : '9'.toNat = 57 := rfl
  rw [asChar_eq_iff, octet, toNat_ofNat_octet (by omega)]

lemma encodeList_of_isDigit {cs : List Char} (h : ∀ c ∈ cs, c.isDigit = true) :
    encodeList cs = cs.map octet := by
  induction cs with
  | nil => rfl
  | cons c cs ih =>
    obtain ⟨-, hhigh⟩ := Char.isDigit_iff_toNat.mp (h c List.mem_cons_self)
    have hnine : '9'.toNat = 57 := rfl
    have hone : String.utf8EncodeChar c = [octet c] := by
      have hsmall : c.val.toNat ≤ 0x7F := by
        have hval : c.val.toNat = c.toNat := rfl
        omega
      rw [String.utf8EncodeChar, if_pos hsmall]
      rfl
    rw [encodeList_cons, ih fun c hc => h c (List.mem_cons_of_mem _ hc), hone]
    rfl

/-- Digits begin nothing but numbers. -/
lemma first?_of_isDigit {b : UInt8} (h : (asChar b).isDigit = true) (rest : List UInt8) :
    isSpace b = false ∧ first? b rest = number? b rest := by
  have hnot : ∀ c : Char, c.isDigit = false → asChar b ≠ c := by
    rintro c hc rfl
    rw [h] at hc
    cases hc
  have hspace : ∀ n < 0x30, b ≠ UInt8.ofNat n := by
    rintro n hn rfl
    obtain ⟨hlow, -⟩ := Char.isDigit_iff_toNat.mp h
    have hzero : '0'.toNat = 0x30 := rfl
    rw [toNat_asChar, toNat_ofNat_octet (by omega)] at hlow
    omega
  constructor
  · simp only [isSpace, Bool.or_eq_false_iff, beq_eq_false_iff_ne]
    exact ⟨⟨⟨hspace 0x20 (by decide), hspace 0x0A (by decide)⟩, hspace 0x0D (by decide)⟩,
      hspace 0x09 (by decide)⟩
  · have hmark : mark? (asChar b) = none := by
      unfold mark?
      rw [if_neg (hnot _ (by decide)), if_neg (hnot _ (by decide)), if_neg (hnot _ (by decide)),
        if_neg (hnot _ (by decide)), if_neg (hnot _ (by decide)), if_neg (hnot _ (by decide))]
    have hword : word? (asChar b) = none := by
      unfold word?
      rw [if_neg (hnot _ (by decide)), if_neg (hnot _ (by decide)), if_neg (hnot _ (by decide))]
    rw [first?, hmark, if_neg (hnot _ (by decide)), hword]

lemma isNumber_toDigits (n : Nat) : isNumber (Nat.toDigits 10 n) = true := by
  obtain ⟨c, cs, hdigits⟩ := List.exists_cons_of_ne_nil (Nat.toDigits_ne_nil (n := n) (b := 10))
  have hall : ∀ d ∈ c :: cs, d.isDigit = true := fun d hd => isDigit_of_mem_toDigits (hdigits ▸ hd)
  have hc : c.isDigit = true := hall c List.mem_cons_self
  have hrest : cs.dropWhile Char.isDigit = [] :=
    List.dropWhile_eq_nil_iff.mpr fun d hd => hall d (List.mem_cons_of_mem _ hd)
  have hminus : c ≠ '-' := by
    rintro rfl
    cases hc
  rw [hdigits]
  by_cases hzero : c = '0'
  · subst hzero
    rw [eq_nil_of_toDigits hdigits]
    rfl
  · unfold isNumber
    split
    · rename_i heq
      exact absurd (List.cons.inj heq).1 hminus
    · dsimp only
      split
      · rename_i heq
        exact absurd (List.cons.inj heq).1 hzero
      · rw [dropDigits?, if_pos hc, hrest]
        rfl

/-- The digits of a number are its token, if what is behind them cannot go on with it. -/
lemma tokens?_digits (n : Nat) (hrest : ∀ b ∈ rest.head?, isNumberChar (asChar b) = false) :
    tokens? (encodeList (Nat.toDigits 10 n) ++ rest) =
      (tokens? rest).map (.number (Nat.toDigits 10 n) :: ·) := by
  have hall : ∀ d ∈ Nat.toDigits 10 n, d.isDigit = true := fun d hd => isDigit_of_mem_toDigits hd
  have hnumber := isNumber_toDigits n
  rw [encodeList_of_isDigit hall]
  obtain ⟨c, cs, hdigits⟩ := List.exists_cons_of_ne_nil (Nat.toDigits_ne_nil (n := n) (b := 10))
  rw [hdigits] at hall hnumber ⊢
  obtain ⟨hc, hcs⟩ := List.forall_mem_cons.mp hall
  have hbelongs : ∀ b ∈ cs.map octet, isNumberChar (asChar b) = true := by
    intro b hb
    obtain ⟨d, hd, rfl⟩ := List.mem_map.mp hb
    rw [asChar_octet (hcs d hd), isNumberChar, hcs d hd]
    rfl
  have hspelling : (cs.map octet).map asChar = cs := by
    rw [List.map_map]
    exact (List.map_congr_left fun d hd => asChar_octet (hcs d hd)).trans (List.map_id cs)
  obtain ⟨hspace, hfirst⟩ :=
    first?_of_isDigit (b := octet c) (by rw [asChar_octet hc]; exact hc) (cs.map octet ++ rest)
  rw [List.map_cons, List.cons_append]
  refine tokens?_cons hspace ?_
  rw [hfirst, number?, takeWhile_append_break hbelongs hrest, dropWhile_append_break hbelongs hrest, hspelling,
    asChar_octet hc, if_pos hnumber]

/-! ### Members -/

/-- The tokens of a member. -/
def memberTokens (m : String × Nat) : List Token :=
  [.string (some m.1), .colon, .number (Nat.toDigits 10 m.2)]

/-- The member of a record that a written number is read as. -/
def numberMember (m : String × Nat) : Option String × Json := (some m.1, .number (Nat.toDigits 10 m.2))

lemma tokens?_writeNumber {m : String × Nat} (hkey : isPlain m.1 = true)
    (hrest : ∀ b ∈ rest.head?, isNumberChar (asChar b) = false) :
    tokens? (encode (writeNumber m) ++ rest) = (tokens? rest).map (memberTokens m ++ ·) := by
  have hquote : encode "\"" = [0x22] := by decide
  have hcolon : encode "\":" = [0x22, 0x3A] := by decide
  have hnumber : encode (toString m.2) = encodeList (Nat.toDigits 10 m.2) :=
    congrArg encodeList String.toList_ofList
  have hencode : encode (writeNumber m) ++ rest =
      0x22 :: (encode m.1 ++ 0x22 :: 0x3A :: (encodeList (Nat.toDigits 10 m.2) ++ rest)) := by
    rw [writeNumber, encode_append, encode_append, encode_append, hquote, hcolon, hnumber]
    simp
  rw [hencode, tokens?_quoted hkey, tokens?_mark rfl (t := .colon) rfl, tokens?_digits m.2 hrest,
    Option.map_map, Option.map_map]
  rfl

lemma tokens?_intercalate (m : String × Nat) (more : List (String × Nat))
    (hkeys : ∀ m' ∈ m :: more, isPlain m'.1 = true)
    (hrest : ∀ b ∈ rest.head?, isNumberChar (asChar b) = false) :
    tokens? (encode (",".intercalate ((m :: more).map writeNumber)) ++ rest) =
      (tokens? rest).map fun ts =>
        memberTokens m ++ (more.flatMap fun m' => .comma :: memberTokens m') ++ ts := by
  induction more generalizing m with
  | nil =>
    rw [List.map_singleton, String.intercalate_singleton,
      tokens?_writeNumber (hkeys m List.mem_cons_self) hrest]
    rfl
  | cons m' more ih =>
    obtain ⟨hm, hmore⟩ := List.forall_mem_cons.mp hkeys
    have hcomma : encode "," = [0x2C] := by decide
    have hbreak : ∀ {behind : List UInt8}, ∀ b ∈ ((0x2C : UInt8) :: behind).head?,
        isNumberChar (asChar b) = false := by
      rintro _ b ⟨⟩
      decide
    rw [List.map_cons, List.map_cons, String.intercalate_cons_cons, encode_append, encode_append,
      hcomma, List.append_assoc, List.append_assoc, List.singleton_append,
      tokens?_writeNumber hm hbreak, tokens?_mark rfl (t := .comma) rfl, ← List.map_cons, ih m' hmore,
      Option.map_map, Option.map_map]
    refine congrArg (Option.map · (tokens? rest)) (funext fun ts => ?_)
    simp

/-- Further members are added to those that were read before, up to the end of the object. -/
lemma run?_members (more : List (String × Nat)) (members : List (Option String × Json))
    (key : Option String) (last : Json) :
    run? ⟨[.object members key], .after last⟩
        ((more.flatMap fun m => .comma :: memberTokens m) ++ [.rightBrace]) =
      some ⟨[], .after (.object (((key, last) :: members).reverse ++ more.map numberMember))⟩ := by
  induction more generalizing members key last with
  | nil =>
    rw [List.map_nil, List.append_nil]
    rfl
  | cons m more ih =>
    have hstep : run? ⟨[.object members key], .after last⟩
          (((m :: more).flatMap fun m => .comma :: memberTokens m) ++ [.rightBrace]) =
        run? ⟨[.object ((key, last) :: members) (some m.1)], .after (.number (Nat.toDigits 10 m.2))⟩
          ((more.flatMap fun m => .comma :: memberTokens m) ++ [.rightBrace]) := rfl
    rw [hstep, ih, List.map_cons, List.reverse_cons, List.append_assoc]
    rfl

/-- An object of numbers is read as what was written. -/
lemma readText?_writeNumbers {members : List (String × Nat)}
    (hkeys : ∀ m ∈ members, isPlain m.1 = true) :
    readText? (writeNumbers members) = some (.object (members.map numberMember)) := by
  have hleft : encode "\x7b" = [0x7B] := by decide
  have hright : encode "\x7d" = [0x7D] := by decide
  have hend : tokens? [0x7D] = some [.rightBrace] := by
    rw [tokens?_mark rfl (t := .rightBrace) rfl, tokens?]
    rfl
  rw [readText?, read?, writeNumbers, encode_append, encode_append, hleft, hright, List.append_assoc,
    List.singleton_append, tokens?_mark rfl (t := .leftBrace) rfl]
  cases members with
  | nil =>
    rw [List.map_nil, String.intercalate_nil]
    show ((tokens? [0x7D]).map _).bind ofTokens? = _
    rw [hend]
    rfl
  | cons m more =>
    rw [tokens?_intercalate m more hkeys (by rintro b ⟨⟩; decide), hend]
    have hrun := run?_members more [] (some m.1) (.number (Nat.toDigits 10 m.2))
    have hfirst : run? ⟨[], .value⟩
          (.leftBrace :: (memberTokens m ++ (more.flatMap fun m => .comma :: memberTokens m) ++
            [.rightBrace])) =
        run? ⟨[.object [] (some m.1)], .after (.number (Nat.toDigits 10 m.2))⟩
          ((more.flatMap fun m => .comma :: memberTokens m) ++ [.rightBrace]) := rfl
    rw [Option.map_some, Option.map_some, Option.bind_some, ofTokens?, hfirst, hrun]
    rfl

end Reindex.Json
