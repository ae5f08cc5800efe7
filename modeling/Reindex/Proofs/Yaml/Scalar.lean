import Reindex.Proofs.Text.Numeral
import Reindex.Proofs.Yaml.Unquoted
import Reindex.Yaml.Decode

/-!
# What is read from the nodes of values

A node that stands for a value is read as that value by the decoder for values of its kind: a text is
read as a text however it is written, a number as a number, and a record field by field.
-/

namespace Reindex.Yaml

open Reindex.Text

/-! ### Numbers -/

lemma hexDigit?_of_isDigit {c : Char} (h : c.isDigit = true) :
    (hexDigit? c).filter (· < 10) = some (c.toNat - '0'.toNat) := by
  obtain ⟨hlow, hhigh⟩ := Char.isDigit_iff_toNat.mp h
  have hbelow : c.toNat - '0'.toNat < 10 := by
    have hnine : '9'.toNat = '0'.toNat + 9 := rfl
    omega
  have hdigit : hexDigit? c = some (c.toNat - '0'.toNat) := if_pos ⟨hlow, hhigh⟩
  rw [hdigit, Option.filter_some, if_pos (decide_eq_true hbelow)]

/-- Decimal digits are read as one number, behind what was read before them. -/
lemma foldlM_of_isDigit {cs : List Char} (h : ∀ c ∈ cs, c.isDigit = true) : ∀ acc : Nat,
    cs.foldlM (fun acc c => ((hexDigit? c).filter (· < 10)).map (acc * 10 + ·)) acc =
      some (Nat.ofDigitChars 10 cs acc) := by
  induction cs with
  | nil => exact fun _ => rfl
  | cons c rest ih =>
    intro acc
    rw [List.foldlM_cons, hexDigit?_of_isDigit (h c List.mem_cons_self), Nat.ofDigitChars_cons,
      Nat.mul_comm 10 acc]
    exact ih (fun d hd => h d (List.mem_cons_of_mem _ hd)) _

/-- A number is read from its digits. -/
lemma digitsIn?_toDigits (n : Nat) : digitsIn? 10 (Nat.toDigits 10 n) = some n := by
  have hne : (Nat.toDigits 10 n).isEmpty = false := by
    rw [List.isEmpty_eq_false_iff]
    exact Nat.toDigits_ne_nil
  unfold digitsIn?
  rw [hne, if_neg Bool.false_ne_true, foldlM_of_isDigit fun c hc => isDigit_of_mem_toDigits hc,
    Nat.ofDigitChars_toDigits (by decide) (by decide)]

lemma isZeroPadded_toDigits (n : Nat) : isZeroPadded (Nat.toDigits 10 n) = false := by
  obtain ⟨c, rest, hdigits⟩ := List.exists_cons_of_ne_nil (Nat.toDigits_ne_nil (n := n) (b := 10))
  have hdigit : c.isDigit = true := isDigit_of_mem_toDigits (hdigits ▸ List.mem_cons_self)
  have hplus : c ≠ '+' := fun h => absurd (h ▸ hdigit) (by decide)
  have hminus : c ≠ '-' := fun h => absurd (h ▸ hdigit) (by decide)
  rw [hdigits]
  by_cases hzero : c = '0'
  · subst hzero
    rw [eq_nil_of_toDigits hdigits]
    rfl
  · simp [isZeroPadded, hplus, hminus, hzero]

/-- Nothing in the digits of a number is taken for a sign or for the mark of a base. -/
lemma nat?_toDigits (n : Nat) : nat? (Nat.toDigits 10 n) = some n := by
  have hmagnitude : magnitude? (Nat.toDigits 10 n) = some n := by
    have hmark : ∀ {mark : Char} {rest : List Char}, Nat.toDigits 10 n = '0' :: mark :: rest →
        False := fun h => List.cons_ne_nil _ _ (eq_nil_of_toDigits h)
    unfold magnitude?
    split
    · exact (hmark ‹_›).elim
    · exact (hmark ‹_›).elim
    · exact (hmark ‹_›).elim
    · rw [isZeroPadded_toDigits, if_neg Bool.false_ne_true, digitsIn?_toDigits]
  unfold nat?
  split
  · rename_i hplus
    have hdigit : '+'.isDigit = true := isDigit_of_mem_toDigits (hplus ▸ List.mem_cons_self)
    exact absurd hdigit (by decide)
  · exact hmagnitude

namespace Decoder

/-! ### Scalars -/

lemma text_node (root : Node) (s : String) : text root (Scalar.text s).node = some s := rfl

/-- A text that is written without quotes is not taken for nothing. -/
lemma isNull_of_plain {s : String} (h : styleOf s.toList = .plain) :
    (s.isEmpty || isNull s.toList) = false := by
  have hsuits := suits_styleOf s.toList
  rw [h] at hsuits
  have htyped := hsuits.2
  simp only [looksTyped, Bool.or_eq_false_iff] at htyped
  obtain ⟨⟨⟨⟨⟨⟨hempty, hnull⟩, -⟩, -⟩, -⟩, -⟩, -⟩ := htyped
  rw [List.isEmpty_eq_false_iff, ne_eq, String.toList_eq_nil_iff] at hempty
  rw [hnull, Bool.or_false, Bool.eq_false_iff, ne_eq, String.isEmpty_iff]
  exact hempty

lemma optionalText_node (root : Node) (s : Option String) :
    optionalText root (Value.optional s).node = some s := by
  cases s with
  | none => rfl
  | some s =>
    by_cases hplain : styleOf s.toList = .plain
    · have hnode : (Value.optional (some s)).node = .scalar s true none := by
        simp [Value.optional, Value.node, Scalar.node, hplain]
      rw [hnode]
      dsimp only [optionalText, Node.resolve]
      rw [isNull_of_plain hplain, if_neg Bool.false_ne_true]
    · have hnode : (Value.optional (some s)).node = .scalar s false none := by
        simp [Value.optional, Value.node, Scalar.node, hplain]
      rw [hnode]
      rfl

lemma natBelow_node (root : Node) (bound : Nat) {n : Nat} (h : n < bound) :
    natBelow bound root (Value.number n).node = some n := by
  have hdigits : (toString n).toList = Nat.toDigits 10 n := String.toList_ofList
  have hnode : natBelow bound root (Value.number n).node =
      (nat? (toString n).toList).filter (· < bound) := rfl
  rw [hnode, hdigits, nat?_toDigits, Option.filter_some, if_pos (decide_eq_true h)]

lemma bool_node (root : Node) (b : Bool) : bool root (Value.bool b).node = some b := by
  cases b <;> rfl

lemma list_node (root : Node) (items : List String) :
    list text root (Value.texts items).node = some items := by
  have hitems : ∀ items : List String,
      (items.map fun s => (Scalar.text s).node).mapM (text root) = some items := by
    intro items
    induction items with
    | nil => rfl
    | cons s rest ih =>
      rw [List.map_cons, List.mapM_cons, text_node, ih]
      rfl
  have hnode : (Value.texts items).node = .sequence (items.map fun s => (Scalar.text s).node) := by
    rw [Value.node]
  rw [hnode]
  exact hitems items

/-! ### Records -/

/-- A name that no other field has is a name that leads to its value. -/
lemma lookup_node {fields : List (String × Value)} (h : (fields.map Prod.fst).Nodup)
    {key : String} {v : Value} (hmem : (key, v) ∈ fields) :
    lookup key (fields.map fun f => (f.1, f.2.node)) = some (some v.node) := by
  have hkey : (fields.map fun f => (f.1, f.2.node)).filter (·.1 == key) = [(key, v.node)] := by
    induction fields with
    | nil => cases hmem
    | cons f rest ih =>
      obtain ⟨hnot, hrest⟩ := List.nodup_cons.mp h
      have hother : ∀ key', key' ∉ rest.map Prod.fst →
          (rest.map fun f => (f.1, f.2.node)).filter (·.1 == key') = [] := by
        intro key' hkey'
        rw [List.filter_eq_nil_iff]
        intro e he heq
        obtain ⟨f', hf', rfl⟩ := List.mem_map.mp he
        exact hkey' (List.mem_map.mpr ⟨f', hf', eq_of_beq heq⟩)
      rcases List.mem_cons.mp hmem with rfl | hmem
      · rw [List.map_cons, List.filter_cons_of_pos (by simp), hother key hnot]
      · have hne : f.1 ≠ key := by
          rintro rfl
          exact hnot (List.mem_map.mpr ⟨_, hmem, rfl⟩)
        rw [List.map_cons, List.filter_cons_of_neg (by simpa using hne)]
        exact ih hrest hmem
  rw [lookup, hkey]

lemma nodes_eq (fields : List (String × Value)) :
    nodes fields = fields.map fun f => ((Scalar.text f.1).node, f.2.node) := by
  induction fields with
  | nil => rfl
  | cons f rest ih => rw [nodes, ih, List.map_cons]

/-- The fields of a record are its values, if no two have the same name. -/
lemma fields_node (root : Node) {names : List String} {fields : List (String × Value)}
    (hnames : fields.map Prod.fst = names) (h : names.Nodup) :
    Decoder.fields names root (Value.record fields).node =
      some (fields.map fun f => some f.2.node) := by
  subst hnames
  have hnode : (Value.record fields).node = .mapping (nodes fields) := by rw [Value.node]
  have hkeys : ∀ fields : List (String × Value),
      (nodes fields).mapM (fun e => (text root e.1).map (·, e.2)) =
        some (fields.map fun f => (f.1, f.2.node)) := by
    intro fields
    rw [nodes_eq]
    induction fields with
    | nil => rfl
    | cons f rest ih =>
      rw [List.map_cons, List.mapM_cons, ih]
      rfl
  have hvalues : ∀ part ⊆ fields, (part.map Prod.fst).mapM
      (lookup · (fields.map fun f => (f.1, f.2.node))) = some (part.map fun f => some f.2.node) := by
    intro part hpart
    induction part with
    | nil => rfl
    | cons f rest ih =>
      obtain ⟨hf, hrest⟩ := List.cons_subset.mp hpart
      rw [List.map_cons, List.mapM_cons, lookup_node h hf, ih hrest]
      rfl
  have hfields : ∀ entries : List (Node × Node),
      Decoder.fields (fields.map Prod.fst) root (.mapping entries) =
        (entries.mapM fun e => (text root e.1).map (·, e.2)) >>= fun entries =>
          (fields.map Prod.fst).mapM (lookup · entries) := fun _ => rfl
  rw [hnode, hfields, hkeys]
  exact hvalues fields (List.Subset.refl fields)

lemma fields_node_bind {α : Type} (root : Node) {names : List String}
    {fields : List (String × Value)} {f : List (Option Node) → Option α} {a : α}
    (hnames : fields.map Prod.fst = names) (h : names.Nodup)
    (hf : f (fields.map fun f => some f.2.node) = some a) :
    (Decoder.fields names root (Value.record fields).node >>= f) = some a := by
  rw [fields_node root hnames h]
  exact hf

end Decoder

end Reindex.Yaml
