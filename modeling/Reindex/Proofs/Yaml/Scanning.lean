import Mathlib.Data.List.TakeWhile
import Mathlib.Logic.Relation
import Reindex.Proofs.Yaml.Literal
import Reindex.Proofs.Yaml.Quoted
import Reindex.Yaml.Scanner

/-!
# How the scanner moves

The scanner goes from token to token. What is to be known of it between two tokens of a block is little:
which blocks are open and where the next line begins, or, inside a line, that it is further in than its
block. The lemmas here say this of every token that written values are made of.
-/

namespace Reindex.Yaml

/-! ### Places -/

lemma Place.next_of_inline {c : Char} (p : Place) (h : isBreak c = false) :
    p.next c = ⟨p.index + 1, p.line, p.column + 1⟩ := by
  rw [Place.next, h, if_neg Bool.false_ne_true]

/-- Characters of one line move the place on this line. -/
lemma Place.foldl_next_of_inline {cs : List Char} (h : ∀ c ∈ cs, isBreak c = false) (p : Place) :
    cs.foldl Place.next p = ⟨p.index + cs.length, p.line, p.column + cs.length⟩ := by
  induction cs generalizing p with
  | nil => rfl
  | cons c rest ih =>
    rw [List.foldl_cons, p.next_of_inline (h c List.mem_cons_self),
      ih fun d hd => h d (List.mem_cons_of_mem _ hd), List.length_cons]
    simp only [Place.mk.injEq, true_and]
    omega

lemma Place.foldl_next_spaces (n : Nat) (p : Place) :
    (spaces n).foldl Place.next p = ⟨p.index + n, p.line, p.column + n⟩ := by
  have hinline : ∀ c ∈ spaces n, isBreak c = false := by
    intro c hc
    rw [List.eq_of_mem_replicate hc]
    rfl
  rw [foldl_next_of_inline hinline, spaces, List.length_replicate]

lemma Place.column_next_newline (p : Place) : (p.next '\n').column = 0 := rfl

namespace Scanner

variable {s s' : Scanner} {column n : Nat} {indents : List Nat} {tokens : List Token}
  {cs rest : List Char}

/-! ### Moving on -/

lemma moveTo_of_rest (front : List Char) {back : List Char} (h : s.rest = front ++ back) :
    s.moveTo back = { s with rest := back, place := front.foldl Place.next s.place } := by
  have hlength : s.rest.length - back.length = front.length := by
    rw [h, List.length_append, Nat.add_sub_cancel]
  rw [moveTo, skip, hlength, h, List.drop_left, List.take_left]

/-- The scanner in front of the next token. -/
def next? (s : Scanner) : Option Scanner := do
  let s ← s.toNext.dropStale?
  return s.unroll (some s.place.column)

/-- The scanner takes one token, with at least one character. -/
def Moves (s s' : Scanner) : Prop :=
  ∃ r c rest, s.next? = some r ∧ r.rest = c :: rest ∧ r.token? c rest = some s' ∧
    s'.rest.length < s.rest.length

/-- The scanner takes some tokens. -/
def Reaches : Scanner → Scanner → Prop := Relation.ReflTransGen Moves

lemma finish?_of_moves (h : Moves s s') (fuel : Nat) : s.finish? (fuel + 1) = s'.finish? fuel := by
  obtain ⟨r, c, rest, hnext, hrest, htoken, -⟩ := h
  simp only [next?, Option.bind_eq_bind, Option.bind_eq_some_iff, Option.pure_def,
    Option.some.injEq] at hnext
  obtain ⟨t, hstale, rfl⟩ := hnext
  rw [finish?, hstale]
  simp only [Option.bind_eq_bind, Option.bind_some, hrest, htoken]

/-- There is always enough fuel for what is left of the text. -/
lemma exists_finish?_of_reaches (h : Reaches s s') : ∀ {fuel}, s.rest.length < fuel →
    ∃ fuel', s'.rest.length < fuel' ∧ s.finish? fuel = s'.finish? fuel' := by
  induction h using Relation.ReflTransGen.head_induction_on with
  | refl => exact fun hfuel => ⟨_, hfuel, rfl⟩
  | head hmoves _ ih =>
    intro fuel hfuel
    obtain ⟨-, -, -, -, -, -, hless⟩ := id hmoves
    cases fuel with
    | zero => omega
    | succ fuel =>
      rw [finish?_of_moves hmoves]
      exact ih (by omega)

/-! ### Closing blocks -/

/-- When the blocks beyond `column` are closed, these are the open blocks and the tokens. -/
structure Closes (s : Scanner) (column : Nat) (indents : List Nat) (tokens : List Token) : Prop where
  indents : s.indents.dropWhile (column < ·) = indents
  tokens : s.tokens.toList ++ (s.indents.takeWhile (column < ·)).map (fun _ => Token.blockEnd) =
    tokens

lemma Closes.of_le (h : ∀ i ∈ s.indents.head?, i ≤ column) :
    s.Closes column s.indents s.tokens.toList := by
  have htake : s.indents.takeWhile (column < ·) = [] := by
    cases hindents : s.indents with
    | nil => rfl
    | cons i more =>
      have hi := h i (by simp [hindents])
      exact List.takeWhile_cons_of_neg (by simpa using hi)
  have hdrop : s.indents.dropWhile (column < ·) = s.indents := by
    have hsplit := List.takeWhile_append_dropWhile (p := fun i => decide (column < i))
      (l := s.indents)
    rwa [htake, List.nil_append] at hsplit
  exact ⟨hdrop, by rw [htake, List.map_nil, List.append_nil]⟩

lemma Closes.of_indents (hindents : s.indents = column :: indents)
    (htokens : s.tokens = tokens.toArray) (hn : column ≤ n) :
    s.Closes n (column :: indents) tokens := by
  have hle : ∀ i ∈ s.indents.head?, i ≤ n := by
    intro i hi
    rw [hindents] at hi
    obtain rfl := Option.some.inj hi
    exact hn
  have hcloses := Closes.of_le hle
  rwa [hindents, htokens] at hcloses

/-- Closing one block more adds its end. -/
lemma Closes.outer {outer : Nat} (h : s.Closes column (column :: indents) tokens)
    (houter : outer < column) (hindents : ∀ i ∈ indents.head?, i ≤ outer) :
    s.Closes outer indents (tokens ++ [.blockEnd]) := by
  obtain ⟨hdrop, rfl⟩ := h
  have hsplit : s.indents = s.indents.takeWhile (column < ·) ++ column :: indents := by
    rw [← hdrop, List.takeWhile_append_dropWhile]
  have hbeyond : ∀ i ∈ s.indents.takeWhile (column < ·), decide (outer < i) = true := by
    intro i hi
    have hcolumn := List.mem_takeWhile_imp hi
    simp only [decide_eq_true_eq] at hcolumn ⊢
    omega
  have htake : indents.takeWhile (outer < ·) = [] ∧ indents.dropWhile (outer < ·) = indents := by
    cases indents with
    | nil => exact ⟨rfl, rfl⟩
    | cons i more =>
      have hi : ¬ decide (outer < i) = true := by simpa using hindents i rfl
      exact ⟨List.takeWhile_cons_of_neg hi, List.dropWhile_cons_of_neg hi⟩
  have hcolumn : decide (outer < column) = true := decide_eq_true houter
  constructor
  · rw [hsplit, List.dropWhile_append_of_pos hbeyond, List.dropWhile_cons, hcolumn, if_pos rfl]
    exact htake.2
  · conv_lhs => rw [hsplit]
    rw [List.takeWhile_append_of_pos hbeyond, List.takeWhile_cons, hcolumn, if_pos rfl, htake.1]
    simp

lemma unroll_of_closes (hflow : s.inFlow = false) (h : s.Closes column indents tokens) :
    s.unroll (some column) = { s with indents := indents, tokens := tokens.toArray } := by
  obtain ⟨rfl, rfl⟩ := h
  have hdrop : s.indents.drop (s.indents.takeWhile (column < ·)).length =
      s.indents.dropWhile (column < ·) := by
    have hleft : (s.indents.takeWhile (column < ·) ++ s.indents.dropWhile (column < ·)).drop
        (s.indents.takeWhile (column < ·)).length = s.indents.dropWhile (column < ·) :=
      List.drop_left
    rwa [List.takeWhile_append_dropWhile] at hleft
  rw [unroll, hflow, if_neg Bool.false_ne_true]
  simp only [Option.all_some, hdrop]
  simp

/-! ### Keys that need not be there -/

/-- The place of a key may be forgotten. -/
def IsFree (k : Option KeyStart) : Prop := k.all (!·.required) = true

lemma dropKey?_of_free {k : Option KeyStart} (hkeys : s.keys = [k]) (h : IsFree k) :
    s.dropKey? = some { s with keys := [none] } := by
  cases k with
  | none =>
    rw [dropKey?, hkeys]
    simp [← hkeys]
  | some k =>
    have hrequired : k.required = false := by simpa [IsFree] using h
    simp [dropKey?, hkeys, hrequired]

/-- The place of a key, unless it cannot extend to `p`. -/
def fresh (p : Place) (k : Option KeyStart) : Option KeyStart :=
  if k.any (KeyStart.isStale · p) then none else k

lemma isFree_fresh {k : Option KeyStart} (p : Place) (h : IsFree k) : IsFree (fresh p k) := by
  unfold fresh
  split
  · rfl
  · exact h

lemma dropStale?_of_free (h : ∀ k ∈ s.keys, IsFree k) :
    s.dropStale? = some { s with keys := s.keys.map (fresh s.place) } := by
  have hnone : (s.keys.any fun k => k.any (KeyStart.isStale · s.place) && k.any (·.required)) =
      false := by
    rw [List.any_eq_false]
    intro k hk hboth
    have hfree := h k hk
    cases k with
    | none => cases hboth
    | some k =>
      have hrequired : k.required = false := by simpa [IsFree] using hfree
      simp [hrequired] at hboth
  unfold dropStale?
  dsimp only
  rw [hnone, if_neg Bool.false_ne_true]
  rfl

/-! ### Between lines -/

lemma toNext_go_of_starts {flow allowed : Bool} {p : Place} (h : Starts cs) (s : Scanner) :
    toNext.go flow allowed p cs s = { s with rest := cs, place := p, keyAllowed := allowed } := by
  cases cs with
  | nil => rw [toNext.go]
  | cons c rest =>
    obtain ⟨hblank, hbreak, hsign, hmark⟩ := h c rfl
    simp only [isBlank, Bool.or_eq_false_iff, decide_eq_false_iff_not] at hblank
    simp [toNext.go, hblank, hbreak, hsign, hmark]

lemma toNext_go_space (flow allowed : Bool) (p : Place) (cs : List Char) (s : Scanner) :
    toNext.go flow allowed p (' ' :: cs) s = toNext.go flow allowed (p.next ' ') cs s := by
  simp [toNext.go]

lemma toNext_go_spaces {flow allowed : Bool} {p : Place} (h : Starts rest) (n : Nat) (s : Scanner) :
    toNext.go flow allowed p (spaces n ++ rest) s =
      { s with rest := rest, place := ⟨p.index + n, p.line, p.column + n⟩, keyAllowed := allowed } := by
  induction n generalizing p with
  | zero => exact toNext_go_of_starts h s
  | succ n ih =>
    rw [spaces, List.replicate_succ, List.cons_append, toNext_go_space, Place.next_of_inline p rfl]
    refine (ih).trans ?_
    simp only [mk.injEq, Place.mk.injEq, true_and, and_true]
    omega

/-- A line ends here, and the next one begins with `rest` in column `n`. -/
structure EndsLine (s : Scanner) (n : Nat) (rest : List Char) : Prop where
  next : ∃ p : Place, p.column = n ∧
    s.toNext = { s with rest := rest, place := p, keyAllowed := true }
  length : rest.length ≤ s.rest.length
  keys : ∃ k, IsFree k ∧ s.keys = [k]

lemma EndsLine.of_spaces (hkeys : ∃ k, IsFree k ∧ s.keys = [k]) (hallowed : s.keyAllowed = true)
    (hplace : s.place.column + n = column) (h : s.rest = spaces n ++ rest) (hrest : Starts rest) :
    s.EndsLine column rest := by
  refine ⟨⟨⟨s.place.index + n, s.place.line, s.place.column + n⟩, hplace, ?_⟩, ?_, hkeys⟩
  · rw [toNext, h, hallowed, toNext_go_spaces hrest]
  · rw [h, List.length_append]
    omega

lemma EndsLine.of_newline (hkeys : ∃ k, IsFree k ∧ s.keys = [k])
    (h : s.rest = '\n' :: (spaces n ++ rest)) (hrest : Starts rest) : s.EndsLine n rest := by
  have hflow : s.inFlow = false := by
    obtain ⟨k, -, hk⟩ := hkeys
    rw [inFlow, hk]
    rfl
  refine ⟨⟨⟨s.place.index + 1 + n, s.place.line + 1, 0 + n⟩, Nat.zero_add n, ?_⟩, ?_, hkeys⟩
  · rw [toNext, h, toNext.go, hflow]
    simp only [isBreak, Char.reduceEq, decide_false, decide_true, Bool.false_and, Bool.or_false,
      Bool.false_eq_true, if_false, if_true, Bool.not_false, Bool.or_true]
    exact toNext_go_spaces hrest n s
  · rw [h, List.length_cons, List.length_append]
    omega

/-- At the end of a line the scanner goes on to the first token of the next line, with the blocks beyond its
column closed. -/
lemma EndsLine.next? (h : s.EndsLine n rest) (hblocks : s.Closes n indents tokens) :
    ∃ p k, p.column = n ∧ IsFree k ∧
      s.next? = some ⟨rest, p, indents, [k], true, tokens.toArray⟩ := by
  obtain ⟨⟨p, hp, hnext⟩, -, k, hfree, hkeys⟩ := h
  refine ⟨p, fresh p k, hp, isFree_fresh p hfree, ?_⟩
  rw [Scanner.next?, hnext, hkeys, dropStale?_of_free (by simpa using hfree), Option.bind_eq_bind,
    Option.bind_some]
  have hblocks' : Closes ⟨rest, p, s.indents, [fresh p k], true, s.tokens⟩ p.column indents tokens :=
    hp ▸ ⟨hblocks.indents, hblocks.tokens⟩
  exact congrArg some (unroll_of_closes rfl hblocks')

/-- At the end of the text the scanner closes all blocks. -/
lemma EndsLine.finish? (h : s.EndsLine 0 []) (hblocks : s.Closes 0 indents tokens) (fuel : Nat) :
    s.finish? (fuel + 1) = some (tokens ++ indents.map fun _ => Token.blockEnd).toArray := by
  obtain ⟨p, k, hp, hfree, hnext⟩ := h.next? hblocks
  simp only [Scanner.next?, Option.bind_eq_bind, Option.bind_eq_some_iff, Option.pure_def,
    Option.some.injEq] at hnext
  obtain ⟨t, hstale, hunroll⟩ := hnext
  rw [Scanner.finish?, hstale, Option.bind_eq_bind, Option.bind_some, hunroll]
  have hkeys : (unroll ⟨[], p, indents, [k], true, tokens.toArray⟩ none).keys = [k] := rfl
  dsimp only
  rw [dropKey?_of_free hkeys hfree]
  have hall : indents.takeWhile (fun _ => true) = indents :=
    List.takeWhile_eq_self_iff.mpr fun _ _ => rfl
  simp [unroll, inFlow, hall]

/-! ### Inside a line -/

/-- Inside a line of the block at `column`, where no key has to be. -/
inductive Within (column : Nat) (indents : List Nat) (tokens : List Token) (rest : List Char) :
    Scanner → Prop
  | intro {p : Place} {k : Option KeyStart} (allowed : Bool) (beyond : column < p.column)
      (free : IsFree k) :
      Within column indents tokens rest ⟨rest, p, column :: indents, [k], allowed, tokens.toArray⟩

namespace Within

lemma rest_eq (h : Within column indents tokens rest s) : s.rest = rest := by
  cases h
  rfl

lemma closes (h : Within column indents tokens rest s) (hn : column ≤ n) :
    s.Closes n (column :: indents) tokens := by
  cases h
  exact .of_indents rfl rfl hn

lemma endsLine (h : Within column indents tokens ('\n' :: (spaces n ++ rest)) s)
    (hrest : Starts rest) : s.EndsLine n rest := by
  cases h with
  | intro allowed hbeyond hfree => exact .of_newline ⟨_, hfree, rfl⟩ rfl hrest

/-- Inside a line the scanner passes over spaces to what begins behind them. -/
lemma next? (h : Within column indents tokens (spaces n ++ cs) s) (hcs : Starts cs) :
    ∃ r, s.next? = some r ∧ Within column indents tokens cs r := by
  cases h with
  | @intro p k allowed hbeyond hfree =>
    let q : Place := ⟨p.index + n, p.line, p.column + n⟩
    have hbeyond' : column < q.column := Nat.lt_add_right n hbeyond
    have hfree' : IsFree (fresh q k) := isFree_fresh q hfree
    refine ⟨_, ?_, .intro allowed hbeyond' hfree'⟩
    rw [Scanner.next?, toNext, toNext_go_spaces hcs, dropStale?_of_free (by simpa using hfree),
      Option.bind_eq_bind, Option.bind_some]
    refine congrArg some (unroll_of_closes rfl ?_)
    exact (Within.intro allowed hbeyond' hfree').closes hbeyond'.le

/-- A key that may begin here does not have to. -/
lemma exists_saveKey? (h : Within column indents tokens rest s) : ∃ k, IsFree k ∧
    s.saveKey? = some ⟨rest, s.place, column :: indents, [k], s.keyAllowed, tokens.toArray⟩ := by
  cases h with
  | @intro p k allowed hbeyond hfree =>
    cases allowed with
    | false => exact ⟨k, hfree, rfl⟩
    | true =>
      have hne : column ≠ p.column := hbeyond.ne
      refine ⟨some ⟨false, tokens.length, p⟩, rfl, ?_⟩
      rw [saveKey?, dropKey?_of_free rfl hfree]
      simp [hne]

/-- A scalar is scanned from the characters it is written with. -/
lemma exists_scalar? (front : List Char) {back text : List Char} (plain : Bool) {broken : Bool}
    {scan : Scanner → Option Scanned} (h : Within column indents tokens (front ++ back) s)
    (hscan : ∀ {r}, Within column indents tokens (front ++ back) r →
      scan r = some ⟨text, back, broken⟩) :
    ∃ k, IsFree k ∧ s.scalar? plain scan = some ⟨back, front.foldl Place.next s.place,
      column :: indents, [k], broken, (tokens ++ [Token.scalar text plain]).toArray⟩ := by
  obtain ⟨k, hfree, hsave⟩ := h.exists_saveKey?
  refine ⟨k, hfree, ?_⟩
  have hbeyond : column < s.place.column := by
    cases h
    assumption
  simp only [scalar?, hsave, Option.bind_eq_bind, Option.bind_some,
    hscan (.intro _ hbeyond hfree), Option.pure_def]
  rw [moveTo_of_rest front rfl]
  simp [push]

end Within

/-! ### Texts -/

lemma starts_of_canBePlain {c : Char} {tail : List Char} (h : canBePlain (c :: cs) = true) :
    Starts (c :: tail) := by
  have hflows : Flows 'x' (c :: cs) := .of_canBePlain h rfl
  have hinline : isInline c = true := hflows.inline c List.mem_cons_self
  have hsign : c ≠ '#' := by
    rintro rfl
    simp [canBePlain, hasIndicator, isLeadingIndicator] at h
  have hspace : c ≠ ' ' := by
    rintro rfl
    simp [canBePlain, isSpaceOrBreak] at h
  have hmark : isInline '\uFEFF' = false := by decide
  refine starts_cons _ ⟨not_isBlank_of_isInline hinline hspace, not_isBreak_of_isInline hinline,
    hsign, ?_⟩
  rintro rfl
  rw [hmark] at hinline
  cases hinline

/-- The first character of a plain text is no indicator of anything else. -/
lemma token?_of_canBePlain {c : Char} {tail : List Char} (h : canBePlain (c :: cs) = true)
    (hflow : s.inFlow = false)
    (hmarker : s.place.column = 0 → atAnyMarker (c :: (cs ++ tail)) = false) :
    s.token? c (cs ++ tail) = s.scalar? true fun s =>
      plain? s.inFlow s.plainIndent [] .none s.place.column false s.rest := by
  have hflows : Flows 'x' (c :: cs) := .of_canBePlain h rfl
  have hinline : isInline c = true := hflows.inline c List.mem_cons_self
  simp only [canBePlain, needsEscapes, hasIndicator, Bool.and_eq_true, Bool.not_eq_true',
    Bool.or_eq_false_iff, List.any_eq_false, isLeadingIndicator] at h
  obtain ⟨⟨⟨⟨⟨-, -⟩, ⟨-, hleading, hgap⟩, -⟩, -⟩, hfirst⟩, -⟩ := h
  have hnext : ['?', ':', '-'].contains c = true → atBlank (cs ++ tail) = false := by
    intro hc
    rw [hc, Bool.true_and] at hgap
    cases cs with
    | nil => cases hgap
    | cons d more =>
      by_contra hyes
      rw [Bool.not_eq_false] at hyes
      have hisGap := isGap_of_atBlank hyes
      rw [List.cons_append, List.head?_cons] at hisGap
      rw [List.head?_cons, hisGap] at hgap
      cases hgap
  have hblank : isBlank c = false := by
    refine not_isBlank_of_isInline hinline ?_
    rintro rfl
    cases hfirst
  have hmarkers : ∀ m, m = '-' ∨ m = '.' →
      (decide (s.place.column = 0) && atMarker m (c :: (cs ++ tail))) = false := by
    intro m hm
    by_cases hcolumn : s.place.column = 0
    · have hno := hmarker hcolumn
      rw [atAnyMarker, Bool.or_eq_false_iff] at hno
      rcases hm with rfl | rfl <;> simp [hno]
    · simp [hcolumn]
  have hne : ∀ d ∈ "#,[]\x7b\x7d&*!|>'\"%@\x60".toList, c ≠ d := by
    rintro d hd rfl
    rw [List.contains_iff_mem.mpr hd] at hleading
    cases hleading
  simp only [String.reduceToList, List.mem_cons, List.not_mem_nil, or_false, forall_eq_or_imp,
    forall_eq] at hne
  have hmark : ∀ d ∈ ['?', ':', '-'], (decide (c = d) && atBlank (cs ++ tail)) = false := by
    intro d hd
    by_cases hc : c = d
    · rw [hnext (List.contains_iff_mem.mpr (hc ▸ hd)), Bool.and_false]
    · simp [hc]
  have hbegins : beginsPlain false c (cs ++ tail) = true := by
    by_cases hc : c ∈ ['?', ':', '-']
    · have hno := hnext (List.contains_iff_mem.mpr hc)
      simp only [List.mem_cons, List.not_mem_nil, or_false] at hc
      rcases hc with rfl | rfl | rfl
      · simp [beginsPlain, hno]
      · simp [beginsPlain, hno]
      · cases hrest : cs ++ tail with
        | nil => rfl
        | cons d more =>
          rw [hrest, atBlank, Bool.or_eq_false_iff] at hno
          simp [beginsPlain, hno.1]
    · simp only [List.mem_cons, List.not_mem_nil, or_false, not_or] at hc
      simp [beginsPlain, isIndicator, hblank, hne, hc]
  unfold token?
  simp [hflow, hmarkers, hmark, hbegins, hne]

/-- Behind a value of the block at `column`: its line has ended, and the next one begins with `rest` in
column `n`. -/
structure Behind (column : Nat) (indents : List Nat) (tokens : List Token) (n : Nat)
    (rest : List Char) (s : Scanner) : Prop where
  line : s.EndsLine n rest
  blocks : s.Closes column (column :: indents) tokens

namespace Within

lemma column_lt (h : Within column indents tokens rest s) : column < s.place.column := by
  cases h
  assumption

lemma inFlow_eq (h : Within column indents tokens rest s) : s.inFlow = false := by
  cases h
  rfl

/-- One move to the end of a scalar, given what its token is scanned with and where that ends. -/
lemma exists_moves {c : Char} {front back text : List Char} {plain broken : Bool}
    {scan : Scanner → Option Scanned}
    (h : Within column indents tokens (' ' :: c :: (front ++ back)) s)
    (hstarts : Starts (c :: (front ++ back)))
    (htoken : ∀ {r}, Within column indents tokens (c :: (front ++ back)) r →
      r.token? c (front ++ back) = r.scalar? plain scan)
    (hscan : ∀ {r}, Within column indents tokens (c :: (front ++ back)) r →
      scan r = some ⟨text, back, broken⟩) :
    ∃ s' p k, Moves s s' ∧ IsFree k ∧ s' = ⟨back, (c :: front).foldl Place.next p,
      column :: indents, [k], broken, (tokens ++ [Token.scalar text plain]).toArray⟩ := by
  obtain ⟨r, hnext, hr⟩ := h.next? (n := 1) hstarts
  obtain ⟨k, hfree, hscalar⟩ := hr.exists_scalar? (c :: front) plain hscan
  refine ⟨_, r.place, k, ⟨r, c, front ++ back, hnext, hr.rest_eq, ?_, ?_⟩, hfree, rfl⟩
  · rw [htoken hr, hscalar]
  · rw [h.rest_eq, List.length_cons, List.length_cons, List.length_append]
    dsimp only
    omega

/-- A text without quotes is scanned as a plain scalar. -/
lemma exists_plain (cs : List Char)
    (h : Within column indents tokens (' ' :: (cs ++ '\n' :: (spaces n ++ rest))) s)
    (hplain : canBePlain cs = true) (hne : cs ≠ []) (hn : n ≤ column) (hrest : Starts rest) :
    ∃ s', Moves s s' ∧ Behind column indents (tokens ++ [.scalar cs true]) n rest s' := by
  obtain ⟨c, cs, rfl⟩ := List.exists_cons_of_ne_nil hne
  have htext : c :: cs ++ '\n' :: (spaces n ++ rest) = c :: (cs ++ '\n' :: spaces n ++ rest) := by
    simp
  rw [htext] at h
  have htoken : ∀ {r}, Within column indents tokens (c :: (cs ++ '\n' :: spaces n ++ rest)) r →
      r.token? c (cs ++ '\n' :: spaces n ++ rest) = r.scalar? true fun s =>
        plain? s.inFlow s.plainIndent [] .none s.place.column false s.rest := by
    intro r hr
    rw [List.append_assoc]
    refine token?_of_canBePlain hplain hr.inFlow_eq fun hzero => ?_
    have hbeyond := hr.column_lt
    omega
  have hscan : ∀ {r}, Within column indents tokens (c :: (cs ++ '\n' :: spaces n ++ rest)) r →
      plain? r.inFlow r.plainIndent [] .none r.place.column false r.rest =
        some ⟨c :: cs, rest, true⟩ := by
    intro r hr
    rw [hr.inFlow_eq, hr.rest_eq, ← htext]
    have hindent : r.plainIndent = column + 1 := by
      cases hr
      rfl
    exact plain?_value _ hplain hne (by omega) hrest
  obtain ⟨s', p, k, hmoves, hfree, rfl⟩ := h.exists_moves (starts_of_canBePlain hplain) htoken hscan
  have hcolumn : ((c :: (cs ++ '\n' :: spaces n)).foldl Place.next p).column = n := by
    rw [← List.cons_append, List.foldl_append, List.foldl_cons, Place.foldl_next_spaces,
      Place.column_next_newline, Nat.zero_add]
  refine ⟨_, hmoves, .of_spaces (n := 0) ⟨k, hfree, rfl⟩ rfl hcolumn rfl hrest, ?_⟩
  exact Closes.of_indents rfl rfl le_rfl

/-- A text in quotes of either kind is scanned as a scalar. -/
lemma exists_quoted (quote : Char) (body : List Char) {scan : List Char → Option Scanned}
    (h : Within column indents tokens
      (' ' :: quote :: (body ++ quote :: '\n' :: (spaces n ++ rest))) s)
    (hquote : quote = '\'' ∧ scan = singleQuoted? [] .none false ∨
      quote = '"' ∧ scan = doubleQuoted? [] .none false)
    (hscan : scan (body ++ quote :: '\n' :: (spaces n ++ rest)) =
      some ⟨cs, '\n' :: (spaces n ++ rest), false⟩) (hrest : Starts rest) :
    ∃ s', Moves s s' ∧ Behind column indents (tokens ++ [.scalar cs false]) n rest s' := by
  have htext : body ++ quote :: '\n' :: (spaces n ++ rest) =
      (body ++ [quote]) ++ '\n' :: (spaces n ++ rest) := by simp
  rw [htext] at h hscan
  have hstarts : Starts (quote :: ((body ++ [quote]) ++ '\n' :: (spaces n ++ rest))) := by
    rcases hquote with ⟨rfl, -⟩ | ⟨rfl, -⟩ <;> exact starts_cons _ (by decide)
  have htoken : ∀ {r}, Within column indents tokens
      (quote :: ((body ++ [quote]) ++ '\n' :: (spaces n ++ rest))) r →
        r.token? quote ((body ++ [quote]) ++ '\n' :: (spaces n ++ rest)) =
          r.scalar? false fun s => scan (s.rest.drop 1) := by
    intro r hr
    have hbeyond := hr.column_lt
    have hcolumn : r.place.column ≠ 0 := by omega
    rcases hquote with ⟨rfl, rfl⟩ | ⟨rfl, rfl⟩ <;> simp [token?, hcolumn]
  have hscan' : ∀ {r}, Within column indents tokens
      (quote :: ((body ++ [quote]) ++ '\n' :: (spaces n ++ rest))) r →
        scan (r.rest.drop 1) = some ⟨cs, '\n' :: (spaces n ++ rest), false⟩ := by
    intro r hr
    rw [hr.rest_eq]
    exact hscan
  obtain ⟨s', p, k, hmoves, hfree, rfl⟩ := h.exists_moves hstarts htoken hscan'
  exact ⟨_, hmoves, .of_newline ⟨k, hfree, rfl⟩ rfl hrest, .of_indents rfl rfl le_rfl⟩

/-- A block of lines is scanned from behind its bar. -/
lemma blockScalar?_eq {front back text : List Char}
    (h : Within column indents tokens ('|' :: (front ++ back)) s)
    (hblock : block? false (some column) (front ++ back) = some ⟨text, back, true⟩) :
    s.token? '|' (front ++ back) = some ⟨back, ('|' :: front).foldl Place.next s.place,
      column :: indents, [none], true, (tokens ++ [Token.scalar text false]).toArray⟩ := by
  have htoken : s.token? '|' (front ++ back) = s.blockScalar? false := by
    have hbeyond := h.column_lt
    have hcolumn : s.place.column ≠ 0 := by omega
    simp [token?, hcolumn, h.inFlow_eq]
  rw [htoken]
  cases h with
  | intro allowed hbeyond hfree =>
    rw [blockScalar?, dropKey?_of_free rfl hfree]
    simp only [Option.bind_eq_bind, Option.bind_some, List.head?_cons, List.drop_one,
      List.tail_cons, hblock, Option.pure_def]
    rw [moveTo_of_rest ('|' :: front) rfl]
    simp [push]

/-- A text that is written line by line is scanned as a scalar. -/
lemma exists_literal (h : Within column indents tokens (' ' :: '|' :: (literalHints cs ++
      '\n' :: (literalBody (column + 2) true cs ++ (finalBreak cs ++ (spaces n ++ rest))))) s)
    (hliteral : canBeLiteral cs = true) (hn : n ≤ column) (hrest : Starts rest)
    (hend : rest = [] → n = 0) :
    ∃ s', Moves s s' ∧ Behind column indents (tokens ++ [.scalar cs false]) n rest s' := by
  have hne : cs ≠ [] := by
    rintro rfl
    cases hliteral
  obtain ⟨front, c, hc, hbody⟩ := exists_literalBody_eq (column + 2) hne
  have hblock := block?_text hliteral (show n < column + 2 by omega) hrest hend
  have htext : literalHints cs ++
      '\n' :: (literalBody (column + 2) true cs ++ (finalBreak cs ++ (spaces n ++ rest))) =
        (literalHints cs ++ '\n' :: front ++ [c]) ++ (spaces n ++ rest) := by
    rw [← List.append_assoc (literalBody _ _ _), hbody]
    simp
  rw [htext] at h hblock
  obtain ⟨r, hnext, hr⟩ := h.next? (n := 1) (starts_cons _ (by decide))
  -- The block ends with its last line, so the next one begins in column 0.
  have hcolumn : (('|' :: (literalHints cs ++ '\n' :: front ++ [c])).foldl Place.next
      r.place).column = 0 := by
    rw [← List.cons_append, List.foldl_append, List.foldl_cons, List.foldl_nil, Place.next, hc,
      if_pos rfl]
  refine ⟨_, ⟨r, '|', _, hnext, hr.rest_eq, hr.blockScalar?_eq hblock, ?_⟩,
    .of_spaces ⟨none, rfl, rfl⟩ rfl (by rw [hcolumn, Nat.zero_add]) rfl hrest,
    .of_indents rfl rfl le_rfl⟩
  rw [h.rest_eq]
  simp only [List.length_cons, List.length_append]
  omega

/-- Every text is scanned from what is written of it, in its style. -/
lemma exists_text (h : Within column indents tokens
      (' ' :: (writeText (column + 2) cs ++ (spaces n ++ rest))) s)
    (hn : n ≤ column) (hrest : Starts rest) (hend : rest = [] → n = 0) :
    ∃ s', Moves s s' ∧
      Behind column indents (tokens ++ [.scalar cs (styleOf cs = .plain)]) n rest s' := by
  have hsuits := suits_styleOf cs
  unfold writeText at h
  cases hstyle : styleOf cs with
  | plain =>
    rw [hstyle] at h hsuits
    have hne : cs ≠ [] := by
      rintro rfl
      cases hstyle
    refine exists_plain cs ?_ hsuits.1 hne hn hrest
    simpa using h
  | single =>
    rw [hstyle] at h hsuits
    refine exists_quoted '\'' (singleBody (column + 2) false cs) ?_ (.inl ⟨rfl, rfl⟩)
      (singleQuoted?_text (column + 1) hsuits.1 hsuits.2 (by simp)) hrest
    simpa using h
  | double =>
    rw [hstyle] at h
    refine exists_quoted '"' (cs.flatMap escaped) ?_ (.inr ⟨rfl, rfl⟩)
      (doubleQuoted?_text cs _) hrest
    simpa using h
  | literal =>
    rw [hstyle] at h hsuits
    refine exists_literal ?_ hsuits hn hrest hend
    simpa [finalBreak] using h

end Within

end Scanner
end Reindex.Yaml
