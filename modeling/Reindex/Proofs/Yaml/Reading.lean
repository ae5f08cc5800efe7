import Reindex.Proofs.Yaml.Tokens
import Reindex.Yaml.Reader

/-!
# Written values are read back

The tokens of a value are read as the node that stands for it, provided that its records are not nested
too deep. With the scan of what is written this is the round trip: a record that is written and read is
the same record.
-/

namespace Reindex.Yaml

/-! ### Values without anchors -/

def Scalar.named : Scalar → Named
  | .null => .scalar "null" true none
  | .bool b => .scalar (if b then "true" else "false") true none
  | .number n => .scalar (toString n) true none
  | .text s => .scalar s (styleOf s.toList = .plain) none

mutual

/-- The node that the tokens of a value spell, before its anchors are numbered; it has none. -/
def Value.named : Value → Named
  | .scalar s => s.named
  | .texts items => .sequence (items.map fun s => (Scalar.text s).named)
  | .record fields => .mapping (namedFields fields)

def namedFields : List (String × Value) → List (Named × Named)
  | [] => []
  | (key, v) :: rest => ((Scalar.text key).named, v.named) :: namedFields rest

end

lemma Scalar.number?_named (names : Names) (s : Scalar) :
    Named.number? names s.named = some (s.node, names) := by
  cases s <;> simp [named, node, Named.number?]

mutual

lemma Value.number?_named (v : Value) (names : Names) :
    Named.number? names v.named = some (v.node, names) := by
  match v with
  | .scalar s => exact s.number?_named names
  | .texts items =>
    have hitems : numberItems? names (items.map fun s => (Scalar.text s).named) =
        some (items.map fun s => (Scalar.text s).node, names) := by
      induction items with
      | nil => rfl
      | cons s more ih =>
        rw [List.map_cons, numberItems?, Scalar.number?_named]
        dsimp only
        rw [ih]
        rfl
    rw [Value.named, Named.number?, hitems, Value.node]
    rfl
  | .record fields =>
    rw [Value.named, Named.number?, numberEntries?_named fields names, Value.node]
    rfl

lemma numberEntries?_named (fields : List (String × Value)) (names : Names) :
    numberEntries? names (namedFields fields) = some (nodes fields, names) := by
  match fields with
  | [] => rfl
  | (key, v) :: more =>
    rw [namedFields, numberEntries?, Scalar.number?_named]
    dsimp only
    rw [v.number?_named names]
    dsimp only
    rw [numberEntries?_named more names, nodes]
    rfl

end

/-! ### Reading tokens -/

mutual

/-- How deep the collections of a value are nested. -/
def Value.depth : Value → Nat
  | .scalar _ => 0
  | .texts _ => 1
  | .record fields => fieldDepth fields + 1

def fieldDepth : List (String × Value) → Nat
  | [] => 0
  | (_, v) :: rest => max v.depth (fieldDepth rest)

end

variable {handles : Handles} {depth : Nat} {block indentless : Bool} {rest : List Token}

lemma Scalar.exists_token (s : Scalar) : ∃ text plain,
    s.token = .scalar text plain ∧ s.named = .scalar (String.ofList text) plain none := by
  cases s with
  | null => exact ⟨_, _, rfl, rfl⟩
  | bool b => cases b <;> exact ⟨_, _, rfl, rfl⟩
  | number n => exact ⟨_, _, rfl, rfl⟩
  | text s => exact ⟨_, _, rfl, by rw [String.ofList_toList, named]⟩

lemma node?_scalar (s : Scalar) (rest : List Token) :
    node? handles depth block indentless (s.token :: rest) = some (s.named, rest) := by
  obtain ⟨text, plain, htoken, hnamed⟩ := s.exists_token
  rw [htoken, hnamed]
  cases depth <;> simp [node?, properties?, anchoredAs]

/-- A node that is written is read where one might be missing. -/
lemma optionalNode_cons {node : NodeReader} {ends : Token → Bool} {t : Token} (h : ends t = false) :
    optionalNode node block indentless ends (t :: rest) = node block indentless (t :: rest) := by
  rw [optionalNode, h, if_neg Bool.false_ne_true]

/-- The items of a list in the column of its key. -/
lemma indentlessItems?_tokens (hrest : rest.head? ≠ some .blockEntry) (items : List String) :
    ∀ {fuel}, items.length < fuel → indentlessItems? (node? handles depth) fuel
      ((items.flatMap fun s => [Token.blockEntry, (Scalar.text s).token]) ++ rest) =
        some (items.map fun s => (Scalar.text s).named, rest) := by
  induction items with
  | nil =>
    intro fuel hfuel
    cases fuel with
    | zero => omega
    | succ fuel =>
      cases rest with
      | nil => rfl
      | cons t more =>
        cases t <;> first | rfl | exact absurd rfl hrest
  | cons s more ih =>
    intro fuel hfuel
    cases fuel with
    | zero => omega
    | succ fuel =>
      simp only [List.flatMap_cons, List.cons_append, List.nil_append, indentlessItems?]
      rw [optionalNode_cons (by simp [Scalar.token]), node?_scalar]
      simp only [Option.bind_eq_bind, Option.bind_some]
      rw [ih (by simpa using hfuel)]
      rfl

/-- The tokens of a value begin with no token that stands for something else in its place. -/
lemma Value.exists_tokens_cons (v : Value) : ∃ t more, v.tokens = t :: more ∧
    (t = .key || t = .value || t = .blockEnd) = false := by
  match v with
  | .scalar s =>
    obtain ⟨text, plain, htoken, -⟩ := s.exists_token
    exact ⟨_, _, rfl, by simp [htoken]⟩
  | .texts [] => exact ⟨_, _, rfl, by decide⟩
  | .texts (s :: more) =>
    rw [tokens]
    · exact ⟨_, _, List.flatMap_cons, by decide⟩
    · exact List.cons_ne_nil s more
  | .record [] => exact ⟨_, _, rfl, by decide⟩
  | .record (f :: more) =>
    rw [tokens]
    · exact ⟨_, _, rfl, by decide⟩
    · exact List.cons_ne_nil f more

/-- No list goes on behind the fields of a record. -/
lemma head?_fieldTokens (fields : List (String × Value)) (rest : List Token) :
    (fieldTokens fields ++ .blockEnd :: rest).head? ≠ some .blockEntry := by
  cases fields with
  | nil => simp [fieldTokens]
  | cons f more => simp [fieldTokens]

lemma node?_blockEntry {ts : List Token} {xs : List Named}
    (h : indentlessItems? (node? handles depth) (ts.length + 2) (.blockEntry :: ts) =
      some (xs, rest)) :
    node? handles (depth + 1) block true (.blockEntry :: ts) = some (.sequence xs, rest) := by
  simp [node?, properties?, anchoredAs, h]

lemma node?_blockMappingStart {ts : List Token} {es : List (Named × Named)}
    (h : blockEntries? (node? handles depth) (ts.length + 2) ts = some (es, rest)) :
    node? handles (depth + 1) true indentless (.blockMappingStart :: ts) =
      some (.mapping es, rest) := by
  simp [node?, properties?, anchoredAs, h]

lemma length_le_length_fieldTokens (fields : List (String × Value)) :
    fields.length ≤ (fieldTokens fields).length := by
  induction fields with
  | nil => exact Nat.le_refl 0
  | cons f more ih =>
    simp only [fieldTokens, List.length_cons, List.cons_append, List.length_append]
    omega

lemma length_le_length_flatMap (items : List String) : items.length ≤
    (items.flatMap fun s => [Token.blockEntry, (Scalar.text s).token]).length := by
  induction items with
  | nil => exact Nat.le_refl 0
  | cons s more ih =>
    simp only [List.length_cons, List.flatMap_cons, List.length_append]
    omega

mutual

/-- Every value is read from its tokens. Behind a list there must not be another hyphen, which would
stand for one more item: lists are in the column of their key. -/
theorem node?_tokens (v : Value) {depth : Nat} {rest : List Token} (hdepth : v.depth ≤ depth)
    (hrest : rest.head? ≠ some .blockEntry) :
    node? handles depth true true (v.tokens ++ rest) = some (v.named, rest) := by
  match v, depth with
  | .scalar s, _ => exact node?_scalar s rest
  | .texts _, 0 => simp [Value.depth] at hdepth
  | .record _, 0 => simp [Value.depth] at hdepth
  | .texts [], depth + 1 =>
    simp [Value.tokens, Value.named, node?, properties?, flowItems?, anchoredAs]
  | .texts (s :: more), depth + 1 =>
    have hlength := length_le_length_flatMap more
    rw [Value.tokens, Value.named]
    · simp only [List.flatMap_cons, List.cons_append, List.nil_append]
      refine node?_blockEntry (indentlessItems?_tokens hrest (s :: more) ?_)
      simp only [List.length_cons, List.length_append]
      omega
    · exact List.cons_ne_nil _ _
  | .record [], depth + 1 =>
    simp [Value.tokens, Value.named, namedFields, node?, properties?, flowEntries?, anchoredAs]
  | .record (f :: more), depth + 1 =>
    have hlength := length_le_length_fieldTokens (f :: more)
    rw [Value.tokens, Value.named]
    · rw [List.cons_append, List.cons_append, List.append_assoc]
      refine node?_blockMappingStart (blockEntries?_tokens (f :: more) rest ?_ ?_)
      · simpa [Value.depth] using hdepth
      · rw [List.length_append]
        omega
    · exact List.cons_ne_nil _ _

/-- Every record is read from the tokens of its fields. -/
theorem blockEntries?_tokens (fields : List (String × Value)) {depth fuel : Nat} (rest : List Token)
    (hdepth : fieldDepth fields ≤ depth) (hfuel : fields.length < fuel) :
    blockEntries? (node? handles depth) fuel (fieldTokens fields ++ .blockEnd :: rest) =
      some (namedFields fields, rest) := by
  match fields, fuel with
  | _, 0 => omega
  | [], fuel + 1 => rfl
  | (key, v) :: more, fuel + 1 =>
    obtain ⟨hvalue, hmore⟩ := max_le_iff.mp (show max v.depth (fieldDepth more) ≤ depth from hdepth)
    have hfuel' : more.length < fuel := by simpa using hfuel
    obtain ⟨t, ts, hts, hends⟩ := v.exists_tokens_cons
    have hnode := node?_tokens v hvalue (head?_fieldTokens more rest)
    rw [hts, List.cons_append] at hnode
    simp only [fieldTokens, List.cons_append, List.append_assoc, blockEntries?, hts]
    rw [optionalNode_cons (by simp [Scalar.token]), node?_scalar]
    simp only [Option.bind_eq_bind, Option.bind_some]
    rw [optionalNode_cons hends, hnode]
    simp only [Option.bind_some]
    rw [blockEntries?_tokens more rest hmore hfuel']
    rfl

end

/-! ### The round trip -/

/-- A record that is written is read as the node that stands for it. -/
theorem read?_write {fields : List (String × Value)} (hne : fields ≠ [])
    (hkeys : ∀ key ∈ fieldKeys fields, IsKey key) (hdepth : fieldDepth fields < maxDepth) :
    read? (write fields) = some (.root (Value.record fields).node) := by
  have hnode : node? defaultHandles maxDepth true false (Value.record fields).tokens =
      some ((Value.record fields).named, []) := by
    have hlength := length_le_length_fieldTokens fields
    rw [Value.tokens, Value.named, List.cons_append]
    · refine node?_blockMappingStart (blockEntries?_tokens fields [] ?_ ?_)
      · exact Nat.lt_succ_iff.mp hdepth
      · rw [List.length_append]
        omega
    · exact hne
  have hnumber : Named.number? [] (Value.record fields).named =
      some ((Value.record fields).node, []) := Value.number?_named _ []
  obtain ⟨ts, hts⟩ : ∃ ts, (Value.record fields).tokens = .blockMappingStart :: ts := by
    rw [Value.tokens]
    · exact ⟨_, rfl⟩
    · exact hne
  rw [read?, tokens?_write hne hkeys, Option.bind_some]
  rw [hts] at hnode ⊢
  simp [ofTokens?, hnode, hnumber, isOver]

end Reindex.Yaml
