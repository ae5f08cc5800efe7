import Reindex.Proofs.Yaml.Characters
import Reindex.Proofs.Yaml.Scanning

/-!
# The tokens of written values

What is written of a value is scanned as the tokens of this value, whatever is open around it. The
induction is over the value: behind each of its parts the scanner is at the end of a line, and the blocks
that the part has opened are closed when the next line is further out.
-/

namespace Reindex.Yaml

/-! ### Tokens of values -/

def Scalar.token : Scalar → Token
  | .null => .scalar "null".toList true
  | .bool b => .scalar (if b then "true" else "false").toList true
  | .number n => .scalar (Nat.toDigits 10 n) true
  | .text s => .scalar s.toList (styleOf s.toList = .plain)

mutual

def Value.tokens : Value → List Token
  | .scalar s => [s.token]
  | .texts [] => [.flowSequenceStart, .flowSequenceEnd]
  | .texts items => items.flatMap fun s => [.blockEntry, (Scalar.text s).token]
  | .record [] => [.flowMappingStart, .flowMappingEnd]
  | .record fields => .blockMappingStart :: fieldTokens fields ++ [.blockEnd]

def fieldTokens : List (String × Value) → List Token
  | [] => []
  | (key, v) :: rest => .key :: (Scalar.text key).token :: .value :: v.tokens ++ fieldTokens rest

end

namespace Scanner

variable {s s' : Scanner} {column n : Nat} {indents : List Nat} {tokens : List Token}
  {cs rest : List Char}

/-! ### Scalars -/

/-- Every scalar is scanned from what is written of it. -/
lemma Within.exists_scalar {v : Scalar} (h : Within column indents tokens
      (' ' :: (writeScalar (column + 2) v ++ (spaces n ++ rest))) s)
    (hn : n ≤ column) (hrest : Starts rest) (hend : rest = [] → n = 0) :
    ∃ s', Moves s s' ∧ Behind column indents (tokens ++ [v.token]) n rest s' := by
  cases v with
  | null => exact exists_plain "null".toList h (by decide) (by decide) hn hrest
  | bool b =>
    cases b with
    | false => exact exists_plain "false".toList h (by decide) (by decide) hn hrest
    | true => exact exists_plain "true".toList h (by decide) (by decide) hn hrest
  | number m =>
    refine exists_plain _ ?_ (canBePlain_of_isDigit fun c hc => Text.isDigit_of_mem_toDigits hc)
      Nat.toDigits_ne_nil hn hrest
    simpa [writeScalar] using h
  | text s => exact exists_text h hn hrest hend

/-! ### Collections in one line -/

/-- The four characters that begin and end collections in one line, with their tokens. -/
inductive IsFlow : Char → Char → Token → Token → Prop
  | sequence : IsFlow '[' ']' .flowSequenceStart .flowSequenceEnd
  | mapping : IsFlow '\x7b' '\x7d' .flowMappingStart .flowMappingEnd

lemma token?_first {first last : Char} {start stop : Token} (h : IsFlow first last start stop)
    (hcolumn : s.place.column ≠ 0) : s.token? first rest = s.openFlow? start := by
  cases h <;> simp [token?, hcolumn]

lemma token?_last {first last : Char} {start stop : Token} (h : IsFlow first last start stop)
    (hcolumn : s.place.column ≠ 0) : s.token? last rest = s.closeFlow? stop := by
  cases h <;> simp [token?, hcolumn]

lemma IsFlow.starts {first last : Char} {start stop : Token} (h : IsFlow first last start stop)
    (rest : List Char) {c : Char} (hc : c = first ∨ c = last) :
    Starts (c :: rest) ∧ isBreak c = false := by
  have hall : isBlank c = false ∧ isBreak c = false ∧ c ≠ '#' ∧ c ≠ '\uFEFF' := by
    cases h <;> rcases hc with rfl | rfl <;> decide
  exact ⟨starts_cons rest hall, hall.2.1⟩

/-- An empty collection is scanned as its two tokens. -/
lemma Within.exists_empty {first last : Char} {start stop : Token} (h : Within column indents tokens
      (' ' :: first :: last :: '\n' :: (spaces n ++ rest)) s)
    (hflow : IsFlow first last start stop) (hrest : Starts rest) :
    ∃ s', Reaches s s' ∧ Behind column indents (tokens ++ [start, stop]) n rest s' := by
  obtain ⟨hfirst, hbreak⟩ := hflow.starts (last :: '\n' :: (spaces n ++ rest)) (.inl rfl)
  obtain ⟨hlast, -⟩ := hflow.starts ('\n' :: (spaces n ++ rest)) (.inr rfl)
  obtain ⟨r, hnext, hr⟩ := h.next? (n := 1) hfirst
  obtain ⟨k, hfree, hsave⟩ := hr.exists_saveKey?
  have hbeyond := hr.column_lt
  set p := r.place.next first with hp
  have hcolumn : p.column ≠ 0 := by
    rw [hp, Place.next_of_inline _ hbreak]
    exact Nat.succ_ne_zero _
  have hopen : r.token? first (last :: '\n' :: (spaces n ++ rest)) =
      some ⟨last :: '\n' :: (spaces n ++ rest), p, column :: indents, [none, k], true,
        (tokens ++ [start]).toArray⟩ := by
    rw [token?_first hflow (by omega), openFlow?, hsave]
    simp [push, skip, hp]
  let inner : Scanner := ⟨last :: '\n' :: (spaces n ++ rest), p, column :: indents, [none, fresh p k],
    true, (tokens ++ [start]).toArray⟩
  have hinner : Scanner.next? ⟨last :: '\n' :: (spaces n ++ rest), p, column :: indents, [none, k],
      true, (tokens ++ [start]).toArray⟩ = some inner := by
    have hnone : IsFree none := rfl
    have hkeys : ∀ k' ∈ [none, k], IsFree k' := by simpa using And.intro hnone hfree
    rw [Scanner.next?, toNext, toNext_go_of_starts hlast, dropStale?_of_free hkeys]
    rfl
  have hclose : inner.token? last ('\n' :: (spaces n ++ rest)) = some ⟨'\n' :: (spaces n ++ rest),
      p.next last, column :: indents, [fresh p k], false, (tokens ++ [start, stop]).toArray⟩ := by
    rw [token?_last hflow hcolumn, closeFlow?]
    simp [dropKey?, inner, push, skip, inFlow]
  refine ⟨_, .head ⟨r, first, _, hnext, hr.rest_eq, hopen, ?_⟩
    (.single ⟨inner, last, _, hinner, rfl, hclose, ?_⟩), ?_, .of_indents rfl rfl le_rfl⟩
  · rw [h.rest_eq]
    simp
  · simp
  · exact .of_newline ⟨_, isFree_fresh p hfree, rfl⟩ rfl hrest

/-! ### Items and fields -/

lemma prefix_of_atMarker {m : Char} (h : atMarker m cs = true) : [m, m, m] <+: cs := by
  unfold atMarker at h
  split at h
  · simp only [Bool.and_eq_true, decide_eq_true_eq] at h
    obtain ⟨⟨⟨rfl, rfl⟩, rfl⟩, -⟩ := h
    exact ⟨_, rfl⟩
  · cases h

/-- A hyphen in the column of the block around it is scanned as the beginning of an item. -/
lemma EndsLine.exists_item (h : s.EndsLine column ('-' :: ' ' :: rest))
    (hblocks : s.Closes column (column :: indents) tokens) :
    ∃ s', Moves s s' ∧ Within column indents (tokens ++ [.blockEntry]) (' ' :: rest) s' := by
  obtain ⟨p, k, hcolumn, hfree, hnext⟩ := h.next? hblocks
  have htoken : token? ⟨'-' :: ' ' :: rest, p, column :: indents, [k], true, tokens.toArray⟩ '-'
      (' ' :: rest) = some ⟨' ' :: rest, p.next '-', column :: indents, [none], true,
        (tokens ++ [Token.blockEntry]).toArray⟩ := by
    have hmarker : ∀ m, atMarker m ('-' :: ' ' :: rest) = false := by
      intro m
      by_contra hyes
      rw [Bool.not_eq_false] at hyes
      obtain ⟨more, hmore⟩ := prefix_of_atMarker hyes
      simp only [List.cons_append, List.cons.injEq] at hmore
      exact absurd (hmore.1.symm.trans hmore.2.1) (by decide)
    have hentry : ∀ s : Scanner, s.token? '-' (' ' :: rest) = s.blockEntry? := by
      intro s
      simp [token?, hmarker, atBlank, isBlank]
    have hroll : ∀ s : Scanner, s.indents = p.column :: indents → ∀ i t, s.roll p.column i t = s := by
      intro s hs i t
      simp [roll, hs]
    rw [hentry, blockEntry?]
    subst hcolumn
    rw [if_neg (by simp [inFlow]), if_neg (by simp), hroll _ rfl, mark, dropKey?_of_free rfl hfree]
    simp [push, skip]
  refine ⟨_, ⟨_, '-', _, hnext, rfl, htoken, ?_⟩, .intro true ?_ rfl⟩
  · have hlength := h.length
    simp only [List.length_cons] at hlength ⊢
    omega
  · rw [Place.next_of_inline p rfl]
    simp [hcolumn]

/-- Before a key in `column` some blocks are open. It opens a block in its column unless it is in a block
there; these are the blocks around that one, and the tokens of what it opens. -/
inductive Opens (column : Nat) : List Nat → List Nat → List Token → Prop
  | first {indents : List Nat} (h : ∀ i ∈ indents.head?, i < column) :
      Opens column indents indents [.blockMappingStart]
  | next {indents : List Nat} : Opens column (column :: indents) indents []

lemma insertIdx_length_append (front back : List Token) (t : Token) :
    (front ++ back).insertIdx front.length t = front ++ t :: back := by
  induction front with
  | nil => rfl
  | cons a front ih => simp [ih]

namespace Opens

variable {before : List Nat} {start : List Token}

lemma head_le (h : Opens column before indents start) : ∀ i ∈ before.head?, i ≤ column := by
  cases h with
  | first hlt => exact fun i hi => (hlt i hi).le
  | next =>
    intro i hi
    obtain rfl := Option.some.inj hi
    exact le_rfl

/-- The block is opened in front of what came with the key. -/
lemma roll_eq (h : Opens column before indents start) {p : Place} {k : Option KeyStart}
    {allowed : Bool} {more : List Token} :
    roll ⟨rest, p, before, [k], allowed, (tokens ++ more).toArray⟩ column tokens.length
      .blockMappingStart =
        ⟨rest, p, column :: indents, [k], allowed, (tokens ++ start ++ more).toArray⟩ := by
  cases h with
  | first hlt =>
    have hnot : indents.head?.any (column ≤ ·) = false := by
      rw [Option.any_eq_false]
      intro i hi
      simpa using hlt i hi
    simp [roll, inFlow, hnot, insertIdx_length_append]
  | next => simp [roll, inFlow]

end Opens

lemma not_atAnyMarker_of_canBePlain (h : canBePlain cs = true) (rest : List Char) :
    atAnyMarker (cs ++ ':' :: rest) = false := by
  have hno : ∀ m, [m, m, m].isPrefixOf cs = false → m ≠ ':' →
      atMarker m (cs ++ ':' :: rest) = false := by
    intro m hprefix hm
    by_contra hyes
    rw [Bool.not_eq_false] at hyes
    have hmarker := prefix_of_atMarker hyes
    rcases List.prefix_or_prefix_of_prefix hmarker (List.prefix_append cs _) with hcs | hcs
    · rw [List.isPrefixOf_iff_prefix.mpr hcs] at hprefix
      cases hprefix
    · -- The name is so short that the colon would be a part of the marker.
      obtain ⟨more, hmore⟩ := hcs
      rw [← hmore] at hmarker hprefix
      rw [List.prefix_append_right_inj] at hmarker
      cases more with
      | nil =>
        rw [List.append_nil, List.isPrefixOf_iff_prefix.mpr (List.prefix_refl cs)] at hprefix
        cases hprefix
      | cons d more =>
        have hd : d = m := List.eq_of_mem_replicate (n := 3) (show d ∈ [m, m, m] by simp [← hmore])
        obtain ⟨t, hcons⟩ := hmarker
        simp only [List.cons_append, List.cons.injEq] at hcons
        exact hm (hd.symm.trans hcons.1)
  simp only [canBePlain, hasIndicator, Bool.and_eq_true, Bool.not_eq_true', Bool.or_eq_false_iff] at h
  obtain ⟨⟨⟨⟨-, ⟨⟨⟨hdash, hdot⟩, -⟩, -⟩⟩, -⟩, -⟩, -⟩ := h
  rw [atAnyMarker, hno '-' hdash (by decide), hno '.' hdot (by decide)]
  rfl

/-- The key itself is a scalar, and the place where it begins is kept. -/
lemma token?_key {c : Char} {p : Place} {k : Option KeyStart} (tokens : List Token)
    (before : List Nat) (h : canBePlain (c :: cs) = true) (hfree : IsFree k)
    (hrest : atBlank rest = true) :
    ∃ required, token? ⟨c :: (cs ++ ':' :: rest), p, before, [k], true, tokens.toArray⟩ c
      (cs ++ ':' :: rest) = some ⟨':' :: rest, (c :: cs).foldl Place.next p, before,
        [some ⟨required, tokens.length, p⟩], false,
        (tokens ++ [Token.scalar (c :: cs) true]).toArray⟩ := by
  have hscan := fun indent => plain?_key indent p.column h (List.cons_ne_nil c cs) hrest
  refine ⟨before.head? = some p.column, ?_⟩
  rw [token?_of_canBePlain h rfl fun _ => not_atAnyMarker_of_canBePlain h rest, scalar?, saveKey?,
    dropKey?_of_free rfl hfree]
  simp only [List.cons_append] at hscan
  simp only [inFlow, List.length_singleton, Nat.lt_irrefl, decide_false, Bool.not_false,
    Bool.true_and, if_true, Option.pure_def, Option.bind_eq_bind, Option.bind_some, hscan,
    List.drop_one, List.tail_cons, List.size_toArray]
  rw [moveTo_of_rest (c :: cs) rfl]
  simp [push]

/-- The colon is reached on the line of the key. -/
lemma next?_colon {before : List Nat} {k : KeyStart} {q : Place} (hline : q.line = k.place.line)
    (hindex : q.index ≤ k.place.index + 1024) (hbefore : ∀ i ∈ before.head?, i ≤ q.column) :
    next? ⟨':' :: rest, q, before, [some k], false, tokens.toArray⟩ =
      some ⟨':' :: rest, q, before, [some k], false, tokens.toArray⟩ := by
  have hstarts : Starts (':' :: rest) := starts_cons rest (by decide)
  have hstale : dropStale? ⟨':' :: rest, q, before, [some k], false, tokens.toArray⟩ =
      some ⟨':' :: rest, q, before, [some k], false, tokens.toArray⟩ := by
    have hfresh : KeyStart.isStale k q = false := by
      simp [KeyStart.isStale, hline, hindex]
    simp [dropStale?, hfresh]
  rw [next?, toNext, toNext_go_of_starts hstarts, hstale, Option.bind_eq_bind, Option.bind_some]
  exact congrArg some (unroll_of_closes rfl (.of_le hbefore))

/-- At the colon it is known that the scalar was a key. -/
lemma token?_colon {before : List Nat} {start : List Token} {p q : Place} {required : Bool} {t : Token}
    (hopens : Opens p.column before indents start) (hrest : atBlank rest = true) (hq : q.column ≠ 0) :
    token? ⟨':' :: rest, q, before, [some ⟨required, tokens.length, p⟩], false,
      (tokens ++ [t]).toArray⟩ ':' rest = some ⟨rest, q.next ':', p.column :: indents, [none], false,
        (tokens ++ start ++ [.key, t, .value]).toArray⟩ := by
  have hvalue : ∀ s : Scanner, s.place.column ≠ 0 → s.token? ':' rest = s.value? := by
    intro s hs
    simp [token?, hs, hrest]
  rw [hvalue _ hq, value?]
  simp only [List.insertIdxIfInBounds_toArray, insertIdx_length_append]
  rw [hopens.roll_eq]
  simp [push, skip]

/-- A key and its colon are scanned, in the column of the block around them or of one that begins there. -/
lemma EndsLine.exists_key {before : List Nat} {start : List Token} {key : String}
    (h : s.EndsLine column (key.toList ++ ':' :: rest)) (hblocks : s.Closes column before tokens)
    (hopens : Opens column before indents start) (hkey : IsKey key) (hrest : atBlank rest = true) :
    ∃ s', Reaches s s' ∧ Within column indents
      (tokens ++ start ++ [.key, (Scalar.text key).token, .value]) rest s' := by
  obtain ⟨hstyle, hlength⟩ := hkey
  have hsuits := suits_styleOf key.toList
  rw [hstyle] at hsuits
  obtain ⟨hplain, -⟩ := hsuits
  have htoken : (Scalar.text key).token = .scalar key.toList true := by simp [Scalar.token, hstyle]
  rw [htoken]
  rw [← String.length_toList] at hlength
  cases hcs : key.toList with
  | nil =>
    rw [hcs] at hstyle
    cases hstyle
  | cons c cs =>
    rw [hcs] at h hplain hlength
    obtain ⟨p, k, rfl, hfree, hnext⟩ := h.next? hblocks
    have hinline : ∀ d ∈ c :: cs, isBreak d = false := by
      have hflows : Flows 'x' (c :: cs) := .of_canBePlain hplain rfl
      exact fun d hd => not_isBreak_of_isInline (hflows.inline d hd)
    set q := (c :: cs).foldl Place.next p with hq
    rw [Place.foldl_next_of_inline hinline] at hq
    have hbeyond : p.column < q.column := by
      rw [hq]
      simp
    -- Two moves: the name as a scalar, then the colon, which puts the tokens of a key around it.
    obtain ⟨required, hkey⟩ := token?_key (p := p) tokens before hplain hfree hrest
    let colon : Scanner := ⟨':' :: rest, q, before, [some ⟨required, tokens.length, p⟩], false,
      (tokens ++ [Token.scalar (c :: cs) true]).toArray⟩
    have hnext' : colon.next? = some colon := by
      refine next?_colon ?_ ?_ fun i hi => (hopens.head_le i hi).trans hbeyond.le
      · rw [hq]
      · rw [hq]
        dsimp only
        omega
    have hless := h.length
    simp only [List.cons_append, List.length_cons, List.length_append] at hless
    refine ⟨_, .head ⟨_, c, _, hnext, rfl, hkey, ?_⟩
      (.single ⟨colon, ':', _, hnext', rfl, token?_colon hopens hrest (by omega), ?_⟩),
      .intro false ?_ rfl⟩
    · simp only [List.length_cons]
      omega
    · simp
    · rw [Place.next_of_inline q rfl]
      dsimp only
      omega

/-- The items of a list are scanned as their tokens, from behind the spaces of the first line. -/
lemma exists_items (hn : n ≤ column) (hrest : Starts rest)
    (hend : rest = [] → n = 0) (more : List String) : ∀ {first : String} {tokens : List Token} {s},
      s.EndsLine column ('-' :: ' ' :: (writeText (column + 2) first.toList ++
        ((more.flatMap fun s => spaces column ++ '-' :: ' ' :: writeText (column + 2) s.toList) ++
          (spaces n ++ rest)))) →
      s.Closes column (column :: indents) tokens →
      ∃ s', Reaches s s' ∧ Behind column indents (tokens ++
        (first :: more).flatMap fun s => [Token.blockEntry, (Scalar.text s).token]) n rest s' := by
  induction more with
  | nil =>
    intro first tokens s hline hblocks
    obtain ⟨r, hitem, hr⟩ := hline.exists_item hblocks
    obtain ⟨s', htext, hs'⟩ := Within.exists_text (n := n) hr hn hrest hend
    refine ⟨s', .head hitem (.single htext), ?_⟩
    simpa [Scalar.token] using hs'
  | cons next more ih =>
    intro first tokens s hline hblocks
    obtain ⟨r, hitem, hr⟩ := hline.exists_item hblocks
    simp only [List.flatMap_cons, List.append_assoc] at hr
    obtain ⟨s', htext, hs'⟩ := Within.exists_text hr le_rfl (starts_cons _ (by decide))
      (absurd · (List.cons_ne_nil _ _))
    obtain ⟨s'', hreaches, hs''⟩ := ih hs'.line hs'.blocks
    refine ⟨s'', .head hitem (.head htext hreaches), ?_⟩
    simpa [Scalar.token] using hs''

/-- The fields of a record, from behind the spaces of their first line. -/
def fieldLines (column : Nat) : List (String × Value) → List Char
  | [] => []
  | (key, v) :: rest => key.toList ++ ':' :: writeValue column v ++ writeFields column rest

lemma writeFields_eq (column : Nat) {fields : List (String × Value)} (h : fields ≠ []) :
    writeFields column fields = spaces column ++ fieldLines column fields := by
  cases fields with
  | nil => exact absurd rfl h
  | cons f rest => simp [writeFields, fieldLines]

lemma atBlank_writeValue (column : Nat) (v : Value) (rest : List Char) :
    atBlank (writeValue column v ++ rest) = true := by
  cases v with
  | scalar s => simp [writeValue, atBlank, isBlank]
  | texts items => cases items <;> simp [writeValue, atBlank, isBlank, isBreak]
  | record fields => cases fields <;> simp [writeValue, atBlank, isBlank, isBreak]

lemma starts_fieldLines (column : Nat) {fields : List (String × Value)} (h : fields ≠ [])
    (hkeys : ∀ key ∈ fieldKeys fields, IsKey key) (rest : List Char) :
    Starts (fieldLines column fields ++ rest) ∧ fieldLines column fields ++ rest ≠ [] := by
  cases fields with
  | nil => exact absurd rfl h
  | cons f more =>
    obtain ⟨key, v⟩ := f
    have hkey := hkeys key (by simp [fieldKeys])
    have hsuits := suits_styleOf key.toList
    rw [hkey.1] at hsuits
    cases hcs : key.toList with
    | nil =>
      rw [IsKey, hcs] at hkey
      cases hkey.1
    | cons c cs =>
      rw [hcs] at hsuits
      simp only [fieldLines, hcs, List.cons_append]
      exact ⟨starts_of_canBePlain hsuits.1, List.cons_ne_nil _ _⟩

mutual

/-- Every value is scanned as its tokens. -/
theorem exists_value (v : Value) {s : Scanner} {column n : Nat} {indents : List Nat}
    {tokens : List Token} {rest : List Char}
    (h : Within column indents tokens (writeValue column v ++ (spaces n ++ rest)) s)
    (hn : n ≤ column) (hrest : Starts rest) (hend : rest = [] → n = 0)
    (hkeys : ∀ key ∈ v.keys, IsKey key) :
    ∃ s', Reaches s s' ∧ Behind column indents (tokens ++ v.tokens) n rest s' := by
  match v with
  | .scalar v =>
    rw [writeValue, List.cons_append] at h
    obtain ⟨s', hmoves, hs'⟩ := h.exists_scalar hn hrest hend
    exact ⟨s', .single hmoves, hs'⟩
  | .texts [] =>
    exact h.exists_empty .sequence hrest
  | .texts (first :: more) =>
    rw [writeValue] at h
    · simp only [List.flatMap_cons, List.append_assoc, List.cons_append] at h
      have hline := h.endsLine (starts_cons _ (by decide))
      have hitems := exists_items hn hrest hend more hline (h.closes le_rfl)
      rw [Value.tokens]
      · exact hitems
      · exact List.cons_ne_nil _ _
    · exact List.cons_ne_nil _ _
  | .record [] =>
    exact h.exists_empty .mapping hrest
  | .record (f :: more) =>
    obtain ⟨hstarts, hnonempty⟩ := starts_fieldLines (column + 2) (List.cons_ne_nil f more) hkeys
      (spaces n ++ rest)
    rw [writeValue, writeFields_eq _ (List.cons_ne_nil f more)] at h
    · rw [List.cons_append, List.append_assoc] at h
      obtain ⟨s', hreaches, hs'⟩ := exists_fields (f :: more) (List.cons_ne_nil f more)
        (h.endsLine hstarts) (h.closes (by omega)) (.first (by simp)) (by omega) hrest hend hkeys
      refine ⟨s', hreaches, hs'.line, ?_⟩
      -- The inner block is closed where the next line begins, which is no further in than this one.
      have hblocks := hs'.blocks.outer (show column < column + 2 by omega) (by simp)
      rw [Value.tokens]
      · simpa using hblocks
      · exact List.cons_ne_nil _ _
    · exact List.cons_ne_nil _ _

/-- The fields of a record are scanned as their tokens, from behind the spaces of the first line. -/
theorem exists_fields (fields : List (String × Value)) {s : Scanner} {column n : Nat}
    {before indents : List Nat} {start tokens : List Token} {rest : List Char} (hne : fields ≠ [])
    (hline : s.EndsLine column (fieldLines column fields ++ (spaces n ++ rest)))
    (hblocks : s.Closes column before tokens) (hopens : Opens column before indents start)
    (hn : n ≤ column) (hrest : Starts rest) (hend : rest = [] → n = 0)
    (hkeys : ∀ key ∈ fieldKeys fields, IsKey key) :
    ∃ s', Reaches s s' ∧ Behind column indents (tokens ++ start ++ fieldTokens fields) n rest s' := by
  match fields with
  | [] => exact absurd rfl hne
  | (key, v) :: more =>
    simp only [fieldLines, List.append_assoc, List.cons_append] at hline
    obtain ⟨r, hkey, hr⟩ := hline.exists_key hblocks hopens (hkeys key (by simp [fieldKeys]))
      (atBlank_writeValue column v _)
    have hvalue : ∀ key ∈ v.keys, IsKey key := fun key hkey => hkeys key (by simp [fieldKeys, hkey])
    -- Behind the value is what follows the record, or the next key in the same column.
    by_cases hmore : more = []
    · subst hmore
      obtain ⟨s', hreaches, hs'⟩ := exists_value v hr hn hrest hend hvalue
      refine ⟨s', hkey.trans hreaches, ?_⟩
      simpa [fieldTokens] using hs'
    · have hkeys' : ∀ key ∈ fieldKeys more, IsKey key :=
        fun key hkey => hkeys key (by simp [fieldKeys, hkey])
      obtain ⟨hstarts, hnonempty⟩ := starts_fieldLines column hmore hkeys' (spaces n ++ rest)
      rw [writeFields_eq column hmore, List.append_assoc (spaces column)] at hr
      obtain ⟨s', hreaches, hs'⟩ := exists_value v hr le_rfl hstarts (absurd · hnonempty) hvalue
      obtain ⟨s'', hreaches', hs''⟩ := exists_fields more hmore hs'.line hs'.blocks .next hn hrest
        hend hkeys'
      refine ⟨s'', hkey.trans (hreaches.trans hreaches'), ?_⟩
      simpa [fieldTokens] using hs''

end

end Scanner

open Scanner

/-- A record is written as a text that is scanned as its tokens. -/
theorem tokens?_write {fields : List (String × Value)} (hne : fields ≠ [])
    (hkeys : ∀ key ∈ fieldKeys fields, IsKey key) :
    tokens? (write fields).toList = some (Value.record fields).tokens := by
  have hprintable := printable_writeFields fields 0 hkeys
  have htext : (write fields).toList = writeFields 0 fields := String.toList_ofList
  have hlines : writeFields 0 fields = fieldLines 0 fields ++ (spaces 0 ++ []) := by
    rw [writeFields_eq 0 hne]
    simp [spaces]
  have hline : (start (writeFields 0 fields)).EndsLine 0 (fieldLines 0 fields ++ (spaces 0 ++ [])) :=
    .of_spaces (n := 0) ⟨none, rfl, rfl⟩ rfl rfl hlines (starts_fieldLines 0 hne hkeys _).1
  obtain ⟨s', hreaches, hs'⟩ := exists_fields fields hne hline (.of_le (by simp [start]))
    (.first (by simp [start])) le_rfl (by simp [Starts]) (fun _ => rfl) hkeys
  obtain ⟨fuel, hfuel, hfinish⟩ := exists_finish?_of_reaches hreaches
    (Nat.lt_succ_self (writeFields 0 fields).length)
  have hend : s'.finish? fuel = some (Value.record fields).tokens.toArray := by
    cases fuel with
    | zero => omega
    | succ fuel =>
      rw [hs'.line.finish? hs'.blocks, Value.tokens]
      · simp [start]
      · exact hne
  rw [htext, tokens?, hprintable.isAllowed, if_pos rfl]
  dsimp only
  rw [hprintable.normalLines_eq, hfinish, hend]
  simp

end Reindex.Yaml
