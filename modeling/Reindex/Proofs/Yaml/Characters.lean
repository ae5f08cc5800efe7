import Reindex.Proofs.Yaml.Scalar

/-!
# The characters of written values

Whatever the texts in a value are, what is written of it has only characters that a reader accepts and
that stand for themselves: all others are escaped.
-/

namespace Reindex.Yaml

open Reindex.Text

/-! ### Digits -/

lemma hasPair_eq_false {p q : Char → Bool} {cs : List Char} (h : ∀ c ∈ cs, p c = false) :
    hasPair p q cs = false := by
  induction cs with
  | nil => rfl
  | cons a rest ih =>
    cases rest with
    | nil => rfl
    | cons b rest =>
      have ha := h a List.mem_cons_self
      rw [hasPair, ha, Bool.false_and, Bool.false_or]
      exact ih fun c hc => h c (List.mem_cons_of_mem _ hc)

lemma hasInnerIndicator_eq_false {cs : List Char} (h : ∀ c ∈ cs, c ≠ ':' ∧ c ≠ '#') :
    hasInnerIndicator cs = false := by
  induction cs with
  | nil => rfl
  | cons a rest ih =>
    cases rest with
    | nil => rfl
    | cons b rest =>
      obtain ⟨hcolon, hsign⟩ := h b (List.mem_cons_of_mem _ List.mem_cons_self)
      rw [hasInnerIndicator, ih fun c hc => h c (List.mem_cons_of_mem _ hc)]
      simp [hcolon, hsign]

/-- Digits can stand without quotes. -/
lemma canBePlain_of_isDigit {cs : List Char} (h : ∀ c ∈ cs, c.isDigit = true) :
    canBePlain cs = true := by
  have hne : ∀ {c d : Char}, c ∈ cs → d.isDigit = false → c ≠ d := by
    rintro c _ hc hd rfl
    rw [h c hc] at hd
    cases hd
  have hprintable : ∀ c ∈ cs, isPrintable c = true := by
    intro c hc
    obtain ⟨hlow, hhigh⟩ := Char.isDigit_iff_toNat.mp (h c hc)
    simp only [Char.reduceToNat] at hlow hhigh
    simp only [isPrintable, Bool.or_eq_true, Bool.and_eq_true, decide_eq_true_eq]
    omega
  have hbreak : ∀ c ∈ cs, isBreak c = false := by
    intro c hc
    simp [isBreak, hne hc (d := '\n') rfl, hne hc (d := '\u2028') rfl, hne hc (d := '\u2029') rfl]
  have hspace : ∀ c ∈ cs, isSpaceOrBreak c = false := by
    intro c hc
    simp [isSpaceOrBreak, hne hc (d := ' ') rfl, hbreak c hc]
  have hpair : hasSpaceBreak cs = false :=
    hasPair_eq_false fun c hc => decide_eq_false (hne hc rfl)
  have hinner : hasInnerIndicator cs = false :=
    hasInnerIndicator_eq_false fun c hc => ⟨hne hc rfl, hne hc rfl⟩
  have hindicator : hasIndicator cs = false := by
    cases cs with
    | nil => rfl
    | cons c rest =>
      have hc : c ∈ c :: rest := List.mem_cons_self
      have hleading : isLeadingIndicator c rest.head? = false := by
        simp [isLeadingIndicator, hne hc]
      have hdash : c ≠ '-' := hne hc rfl
      have hdot : c ≠ '.' := hne hc rfl
      simp [hasIndicator, List.isPrefixOf, hinner, hleading, hdash.symm, hdot.symm]
  have hends : ∀ {c : Option Char}, (∀ d ∈ c, d ∈ cs) → c.any isSpaceOrBreak = false := by
    intro c hc
    cases c with
    | none => rfl
    | some d => exact hspace d (hc d rfl)
  have hhead : cs.head?.any isSpaceOrBreak = false := hends fun _ => List.mem_of_head?
  have hlast : cs.getLast?.any isSpaceOrBreak = false := hends fun _ => List.mem_of_getLast?
  have hescapes : needsEscapes cs = false := by
    rw [needsEscapes, hpair, Bool.or_false, List.any_eq_false]
    intro c hc
    simp [hprintable c hc]
  have hbreaks : cs.any isBreak = false := by
    rw [List.any_eq_false]
    intro c hc
    simp [hbreak c hc]
  rw [canBePlain, hescapes, hindicator, hbreaks, hhead, hlast]
  rfl

/-! ### Characters that are read as they are -/

/-- All characters stand for themselves. -/
def Printable (cs : List Char) : Prop := ∀ c ∈ cs, isPrintable c = true

instance (cs : List Char) : Decidable (Printable cs) :=
  decidable_of_iff (cs.all isPrintable = true) List.all_eq_true

namespace Printable

variable {cs : List Char}

@[simp] lemma nil_iff : Printable [] ↔ True := iff_true_intro (List.forall_mem_nil _)

@[simp] lemma cons_iff {c : Char} : Printable (c :: cs) ↔ isPrintable c = true ∧ Printable cs :=
  List.forall_mem_cons

@[simp] lemma append_iff {front back : List Char} :
    Printable (front ++ back) ↔ Printable front ∧ Printable back := List.forall_mem_append

lemma flatMap {α : Type} {items : List α} {f : α → List Char} (h : ∀ a ∈ items, Printable (f a)) :
    Printable (items.flatMap f) := by
  intro c hc
  obtain ⟨a, ha, hmem⟩ := List.mem_flatMap.mp hc
  exact h a ha c hmem

@[simp] lemma spaces (n : Nat) : Printable (spaces n) := by
  intro c hc
  rw [List.eq_of_mem_replicate hc]
  rfl

lemma isAllowed (h : Printable cs) : cs.all isAllowed = true := by
  rw [List.all_eq_true]
  intro c hc
  have hprintable := h c hc
  have hvalid : c.toNat.isValidChar := c.valid
  simp only [Nat.isValidChar] at hvalid
  simp only [isPrintable, Bool.or_eq_true, Bool.and_eq_true, decide_eq_true_eq, ne_eq] at hprintable
  simp only [Yaml.isAllowed, Bool.or_eq_true, Bool.and_eq_true, decide_eq_true_eq, beq_iff_eq]
  omega

/-- There are no line ends but line feeds. -/
lemma normalLines_eq (h : Printable cs) : normalLines cs = cs := by
  induction cs with
  | nil => rfl
  | cons c rest ih =>
    obtain ⟨hc, hrest⟩ := cons_iff.mp h
    have hreturn : isPrintable '\r' = false := by decide
    have hnext : isPrintable '\u0085' = false := by decide
    unfold normalLines
    split <;> simp_all

/-! ### Texts in each style -/

lemma of_needsEscapes (h : needsEscapes cs = false) : Printable cs := by
  rw [needsEscapes, Bool.or_eq_false_iff, List.any_eq_false] at h
  intro c hc
  simpa using h.1 c hc

lemma of_canBePlain (h : canBePlain cs = true) : Printable cs := by
  simp only [canBePlain, Bool.and_eq_true, Bool.not_eq_true'] at h
  obtain ⟨⟨⟨⟨hescapes, -⟩, -⟩, -⟩, -⟩ := h
  exact of_needsEscapes hescapes

lemma singleBody {indent : Nat} (h : Printable cs) :
    ∀ {afterBreak : Bool}, Printable (singleBody indent afterBreak cs) := by
  induction cs with
  | nil =>
    intro afterBreak
    cases afterBreak <;> simp [Yaml.singleBody]
  | cons c rest ih =>
    intro afterBreak
    obtain ⟨hc, hrest⟩ := cons_iff.mp h
    have hquote : isPrintable '\'' = true := by decide
    unfold Yaml.singleBody
    split
    · exact cons_iff.mpr ⟨hc, ih hrest⟩
    · have hone : Printable (if c = '\'' then ['\'', '\''] else [c]) := by
        split <;> simp [hc, hquote]
      cases afterBreak <;> simp [hone, ih hrest]

lemma literalBody {indent : Nat} (h : Printable cs) :
    ∀ {afterBreak : Bool}, Printable (literalBody indent afterBreak cs) := by
  induction cs with
  | nil => exact List.forall_mem_nil _
  | cons c rest ih =>
    intro afterBreak
    obtain ⟨hc, hrest⟩ := cons_iff.mp h
    unfold Yaml.literalBody
    split
    · exact cons_iff.mpr ⟨hc, ih hrest⟩
    · cases afterBreak <;> simp [hc, ih hrest]

lemma literalHints (cs : List Char) : Printable (literalHints cs) := by
  have htwo : isPrintable '2' = true := by decide
  have hminus : isPrintable '-' = true := by decide
  have hplus : isPrintable '+' = true := by decide
  refine append_iff.mpr ⟨?_, ?_⟩
  · split <;> simp [htwo]
  · split
    · simp [hminus]
    · split
      · simp [hminus]
      · split
        · simp [hplus]
        · split <;> simp [hplus]

lemma hexOfWidth (width n : Nat) : Printable (hexOfWidth width n) := by
  have hdigit : ∀ n < 16, isPrintable (upperHex n) = true := by decide
  intro c hc
  obtain ⟨i, -, rfl⟩ := List.mem_map.mp hc
  exact hdigit _ (Nat.mod_lt _ (by decide))

lemma escaped (c : Char) : Printable (escaped c) := by
  have hbackslash : isPrintable '\\' = true := by decide
  have hletter : Printable "0abtnvfreNLPxuU".toList := by decide
  simp only [String.reduceToList, cons_iff, nil_iff, and_true] at hletter
  unfold Yaml.escaped
  split
  · rename_i hmark
    simp only [Bool.or_eq_true, decide_eq_true_eq] at hmark
    rcases hmark with rfl | rfl <;> decide
  · split
    · rename_i hplain
      simp_all
    · refine cons_iff.mpr ⟨hbackslash, ?_⟩
      split <;> (try split) <;> (try split) <;> simp [hletter, hexOfWidth]

lemma writeText (indent : Nat) (cs : List Char) : Printable (writeText indent cs) := by
  have hsuits := suits_styleOf cs
  have hnewline : isPrintable '\n' = true := by decide
  unfold Yaml.writeText
  cases hstyle : styleOf cs with
  | plain =>
    rw [hstyle] at hsuits
    simp [of_canBePlain hsuits.1, hnewline]
  | single =>
    rw [hstyle] at hsuits
    simp only [Style.Suits, canBeSingle, Bool.and_eq_true, Bool.not_eq_true'] at hsuits
    have hquote : isPrintable '\'' = true := by decide
    simp [singleBody (of_needsEscapes hsuits.1.1), hquote, hnewline]
  | double =>
    have hquote : isPrintable '"' = true := by decide
    simp [flatMap fun c _ => escaped c, hquote, hnewline]
  | literal =>
    rw [hstyle] at hsuits
    simp only [Style.Suits, canBeLiteral, Bool.and_eq_true, Bool.not_eq_true'] at hsuits
    have hbar : isPrintable '|' = true := by decide
    have hend : Printable (if cs.getLast?.any isBreak then [] else ['\n']) := by
      split <;> simp [hnewline]
    simp [literalHints, literalBody (of_needsEscapes hsuits.1.1), hbar, hnewline, hend]

lemma writeScalar (indent : Nat) (v : Scalar) : Printable (writeScalar indent v) := by
  cases v with
  | null => exact (show Printable "null\n".toList by decide)
  | bool b =>
    cases b with
    | false => exact (show Printable "false\n".toList by decide)
    | true => exact (show Printable "true\n".toList by decide)
  | number n =>
    have hdigits := of_canBePlain (canBePlain_of_isDigit fun c hc => isDigit_of_mem_toDigits (n := n) hc)
    have hnewline : isPrintable '\n' = true := by decide
    simp [Yaml.writeScalar, hdigits, hnewline]
  | text s => exact writeText indent s.toList

end Printable

/-! ### Values -/

mutual

/-- The names of all fields, also of those inside. -/
def Value.keys : Value → List String
  | .record fields => fieldKeys fields
  | _ => []

def fieldKeys : List (String × Value) → List String
  | [] => []
  | (key, v) :: rest => key :: v.keys ++ fieldKeys rest

end

/-- A name that can stand before a colon: without quotes, and not too long for the scanner to look
ahead. -/
def IsKey (key : String) : Prop := styleOf key.toList = .plain ∧ key.length ≤ 1024

instance (key : String) : Decidable (IsKey key) := inferInstanceAs (Decidable (_ ∧ _))

mutual

/-- The text of a value has only characters that stand for themselves, whatever texts are in the value. -/
theorem printable_writeValue (v : Value) (column : Nat) (h : ∀ key ∈ v.keys, IsKey key) :
    Printable (writeValue column v) := by
  have hnewline : isPrintable '\n' = true := by decide
  have hspace : isPrintable ' ' = true := by decide
  have hminus : isPrintable '-' = true := by decide
  match v with
  | .scalar s => simp [writeValue, hspace, Printable.writeScalar]
  | .texts [] => exact (show Printable " []\n".toList by decide)
  | .texts (first :: more) =>
    have hitem : ∀ s : String,
        Printable (spaces column ++ '-' :: ' ' :: writeText (column + 2) s.toList) := by
      intro s
      simp [hminus, hspace, Printable.writeText]
    rw [writeValue]
    · exact Printable.cons_iff.mpr ⟨hnewline, .flatMap fun s _ => hitem s⟩
    · exact List.cons_ne_nil _ _
  | .record [] => exact (show Printable " \x7b\x7d\n".toList by decide)
  | .record (f :: more) =>
    rw [writeValue]
    · exact Printable.cons_iff.mpr ⟨hnewline, printable_writeFields (f :: more) _ h⟩
    · exact List.cons_ne_nil _ _

theorem printable_writeFields (fields : List (String × Value)) (column : Nat)
    (h : ∀ key ∈ fieldKeys fields, IsKey key) : Printable (writeFields column fields) := by
  match fields with
  | [] => exact List.forall_mem_nil _
  | (key, v) :: more =>
    have hcolon : isPrintable ':' = true := by decide
    have hsuits := suits_styleOf key.toList
    rw [(h key (by simp [fieldKeys])).1] at hsuits
    have hvalue := printable_writeValue v column fun key hkey => h key (by simp [fieldKeys, hkey])
    have hmore := printable_writeFields more column fun key hkey => h key (by simp [fieldKeys, hkey])
    simp [writeFields, Printable.of_canBePlain hsuits.1, hcolon, hvalue, hmore]

end

end Reindex.Yaml
