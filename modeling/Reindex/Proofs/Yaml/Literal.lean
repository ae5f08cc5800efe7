import Reindex.Proofs.Yaml.Unquoted

/-!
# Texts written line by line are read back

The lines of a literal block are written further in than what is around them, and empty lines are left
empty. The reader takes the indentation off again; it is told what becomes of the line breaks at the end.
-/

namespace Reindex.Yaml

/-! ### Lines -/

/-- A line with its break. -/
abbrev FullLine := List Char × Char

/-- The line has a text without breaks, and a break behind it. -/
structure IsLine (l : FullLine) : Prop where
  unbroken : ∀ c ∈ l.1, isBreak c = false
  broken : isBreak l.2 = true

def textOf (ls : List FullLine) : List Char := ls.flatMap fun l => l.1 ++ [l.2]

/-- Every text is made of lines and of what is behind their last break. -/
lemma exists_lines (cs : List Char) : ∃ (ls : List FullLine) (t : List Char),
    cs = textOf ls ++ t ∧ (∀ l ∈ ls, IsLine l) ∧ ∀ c ∈ t, isBreak c = false := by
  induction cs with
  | nil => exact ⟨[], [], rfl, List.forall_mem_nil _, List.forall_mem_nil _⟩
  | cons c rest ih =>
    obtain ⟨ls, t, rfl, hls, ht⟩ := ih
    cases hc : isBreak c with
    | true =>
      refine ⟨([], c) :: ls, t, rfl, ?_, ht⟩
      intro l hl
      rcases List.mem_cons.mp hl with rfl | hl
      · exact ⟨List.forall_mem_nil _, hc⟩
      · exact hls l hl
    | false =>
      cases ls with
      | nil =>
        refine ⟨[], c :: t, rfl, List.forall_mem_nil _, ?_⟩
        intro d hd
        rcases List.mem_cons.mp hd with rfl | hd
        · exact hc
        · exact ht d hd
      | cons l more =>
        refine ⟨(c :: l.1, l.2) :: more, t, rfl, ?_, ht⟩
        have hl := hls l List.mem_cons_self
        intro l' hl'
        rcases List.mem_cons.mp hl' with rfl | hl'
        · refine ⟨?_, hl.broken⟩
          intro d hd
          rcases List.mem_cons.mp hd with rfl | hd
          · exact hc
          · exact hl.unbroken d hd
        · exact hls l' (List.mem_cons_of_mem _ hl')

/-- A line of a block: a text that is not empty is moved in. -/
def indented (indent : Nat) (text : List Char) : List Char :=
  if text = [] then [] else spaces indent ++ text

lemma literalBody_text (indent : Nat) {text : List Char} (h : ∀ c ∈ text, isBreak c = false)
    (rest : List Char) : literalBody indent false (text ++ rest) =
      text ++ literalBody indent false rest := by
  induction text with
  | nil => rfl
  | cons c text ih =>
    rw [List.cons_append, literalBody, h c List.mem_cons_self, if_neg Bool.false_ne_true,
      if_neg Bool.false_ne_true, List.nil_append, ih fun d hd => h d (List.mem_cons_of_mem _ hd),
      List.cons_append]

lemma literalBody_indented (indent : Nat) {text : List Char} (h : ∀ c ∈ text, isBreak c = false)
    (rest : List Char) (hrest : ∀ c ∈ rest.head?, isBreak c = true) :
    literalBody indent true (text ++ rest) = indented indent text ++ literalBody indent true rest := by
  cases text with
  | nil => rfl
  | cons c text =>
    have hrest' : literalBody indent false rest = literalBody indent true rest := by
      cases rest with
      | nil => rfl
      | cons d more => simp [literalBody, hrest d rfl]
    have htext : ∀ d ∈ text, isBreak d = false := fun d hd => h d (List.mem_cons_of_mem _ hd)
    rw [List.cons_append, literalBody, h c List.mem_cons_self, if_neg Bool.false_ne_true, if_pos rfl,
      literalBody_text indent htext, hrest', indented, if_neg (List.cons_ne_nil _ _), List.append_assoc,
      List.cons_append]

/-- The body of a block is made of its lines, moved in. -/
lemma literalBody_lines (indent : Nat) {ls : List FullLine} (hls : ∀ l ∈ ls, IsLine l)
    {t : List Char} (ht : ∀ c ∈ t, isBreak c = false) :
    literalBody indent true (textOf ls ++ t) =
      textOf (ls.map fun l => (indented indent l.1, l.2)) ++ indented indent t := by
  induction ls with
  | nil =>
    have hnil := literalBody_indented indent ht [] (by simp)
    rw [List.append_nil] at hnil
    simpa [textOf, literalBody] using hnil
  | cons l ls ih =>
    have hl := hls l List.mem_cons_self
    have hhead : ∀ c ∈ (l.2 :: (textOf ls ++ t)).head?, isBreak c = true := by
      rintro c ⟨⟩
      exact hl.broken
    have hbody := literalBody_indented indent hl.unbroken _ hhead
    rw [literalBody, hl.broken, if_pos rfl, ih fun l' hl' => hls l' (List.mem_cons_of_mem _ hl')]
      at hbody
    simpa [textOf] using hbody

/-! ### Lines as the reader finds them -/

lemma linesOf_line {l : FullLine} (h : IsLine l) (rest : List Char) :
    linesOf (l.1 ++ l.2 :: rest) = (l.1, some l.2) :: linesOf rest := by
  obtain ⟨text, brk⟩ := l
  have hbroken := h.broken
  have hunbroken := h.unbroken
  dsimp only at hbroken hunbroken ⊢
  clear h
  induction text with
  | nil => rw [List.nil_append, linesOf, hbroken, if_pos rfl]
  | cons c text ih =>
    rw [List.cons_append, linesOf, hunbroken c List.mem_cons_self, if_neg Bool.false_ne_true,
      ih fun d hd => hunbroken d (List.mem_cons_of_mem _ hd)]

lemma linesOf_textOf {ls : List FullLine} (h : ∀ l ∈ ls, IsLine l) (rest : List Char) :
    linesOf (textOf ls ++ rest) = ls.map (fun l => (l.1, some l.2)) ++ linesOf rest := by
  induction ls with
  | nil => rfl
  | cons l ls ih =>
    have hrest := ih fun l' hl' => h l' (List.mem_cons_of_mem _ hl')
    have htext : textOf (l :: ls) ++ rest = l.1 ++ l.2 :: (textOf ls ++ rest) := by simp [textOf]
    rw [htext, linesOf_line (h l List.mem_cons_self), hrest, List.map_cons, List.cons_append]

lemma ofLines_linesOf (cs : List Char) : ofLines (linesOf cs) = cs := by
  induction cs with
  | nil => rfl
  | cons c rest ih =>
    rw [linesOf]
    split
    · simpa [ofLines] using ih
    · split
      · rename_i hlines
        rw [hlines] at ih
        simpa [ofLines] using ih
      · rename_i hlines
        rw [hlines] at ih
        simpa [ofLines] using ih

/-- The first line is moved in as far as the text is. -/
lemma exists_linesOf_spaces {c : Char} (hc : isBreak c = false) (rest : List Char) (n : Nat) :
    ∃ text brk more, linesOf (spaces n ++ c :: rest) = (spaces n ++ c :: text, brk) :: more := by
  have hcons : ∀ (d : Char) (cs : List Char), isBreak d = false →
      ∃ text brk more, linesOf (d :: cs) = (d :: text, brk) :: more ∧
        ∀ l ls, linesOf cs = l :: ls → text = l.1 := by
    intro d cs hd
    rw [linesOf, hd, if_neg Bool.false_ne_true]
    cases linesOf cs with
    | nil => exact ⟨[], none, [], rfl, nofun⟩
    | cons l more =>
      refine ⟨l.1, l.2, more, rfl, ?_⟩
      rintro l' ls ⟨⟩
      rfl
  induction n with
  | zero =>
    obtain ⟨text, brk, more, hlines, -⟩ := hcons c rest hc
    exact ⟨text, brk, more, hlines⟩
  | succ n ih =>
    obtain ⟨text, brk, more, hlines⟩ := ih
    obtain ⟨text', brk', more', hlines', hsame⟩ := hcons ' ' (spaces n ++ c :: rest) rfl
    refine ⟨text, brk', more', ?_⟩
    rw [spaces, List.replicate_succ, List.cons_append]
    rw [hsame _ _ hlines] at hlines'
    exact hlines'

/-! ### Lines of a block -/

namespace Block

/-- All that a block has so far, its last character first. -/
def full (b : Block) : List Char := b.empties ++ b.last ++ b.text

/-- The block with one more line, which may be empty. -/
def add (b : Block) (l : FullLine) : Block :=
  if l.1 = [] then { b with empties := l.2 :: b.empties } else b.line false l.1 (some l.2)

lemma full_add (b : Block) (l : FullLine) : (b.add l).full = (l.1 ++ [l.2]).reverse ++ b.full := by
  by_cases hl : l.1 = []
  · simp [add, full, hl]
  · simp [add, full, hl, line]

lemma full_foldl_add (ls : List FullLine) (b : Block) :
    (ls.foldl add b).full = (textOf ls).reverse ++ b.full := by
  induction ls generalizing b with
  | nil => rfl
  | cons l ls ih =>
    rw [List.foldl_cons, ih, full_add]
    simp [textOf]

/-- A line with a text takes in the empty ones before it. -/
lemma add_of_ne_nil (b : Block) {l : FullLine} (h : l.1 ≠ []) :
    (b.add l).empties = [] ∧ (b.add l).last = [l.2] := by
  simp [add, h, line]

end Block

lemma takeWhile_spaces (n : Nat) (cs : List Char) :
    (spaces n ++ cs).takeWhile (· = ' ') = spaces n ++ cs.takeWhile (· = ' ') :=
  List.takeWhile_append_of_pos fun _ hc => decide_eq_true (List.eq_of_mem_replicate hc)

lemma drop_spaces (n : Nat) (cs : List Char) : (spaces n ++ cs).drop n = cs :=
  List.drop_left' (List.length_replicate ..)

/-- The indentation is taken off a line. -/
lemma blockLines?_indented (indent : Nat) (b : Block) (l : FullLine) (more : List Line) :
    blockLines? false indent b ((indented indent l.1, some l.2) :: more) =
      blockLines? false indent (b.add l) more := by
  obtain ⟨text, brk⟩ := l
  cases text with
  | nil => simp [indented, blockLines?, Block.add]
  | cons c text =>
    have hspaces : min indent ((spaces indent ++ c :: text).takeWhile (· = ' ')).length = indent := by
      rw [takeWhile_spaces, List.length_append, spaces, List.length_replicate]
      omega
    simp only [indented, blockLines?, if_neg (List.cons_ne_nil c text), hspaces, drop_spaces,
      Nat.lt_irrefl, if_false, Block.add]

lemma blockLines?_lines (indent : Nat) (ls : List FullLine) (more : List Line) (b : Block) :
    blockLines? false indent b (ls.map (fun l => (indented indent l.1, some l.2)) ++ more) =
      blockLines? false indent (ls.foldl Block.add b) more := by
  induction ls generalizing b with
  | nil => rfl
  | cons l ls ih => rw [List.map_cons, List.cons_append, blockLines?_indented, ih, List.foldl_cons]

/-- A block ends before a line that is not moved in as far, or at the end of the text. -/
lemma blockLines?_end {indent n : Nat} (b : Block) {rest : List Char} (hrest : Starts rest)
    (hn : n < indent) (hend : rest = [] → n = 0) : ∃ more,
      blockLines? false indent b (linesOf (spaces n ++ rest)) = some (b, more) ∧
        ofLines more = spaces n ++ rest := by
  cases rest with
  | nil =>
    obtain rfl := hend rfl
    exact ⟨[], by simp [spaces, linesOf, blockLines?], rfl⟩
  | cons c rest =>
    obtain ⟨hblank, hbreak, -⟩ := hrest c rfl
    have hspace : c ≠ ' ' := by
      rintro rfl
      cases hblank
    have htab : c ≠ '\t' := by
      rintro rfl
      cases hblank
    obtain ⟨text, brk, more, hlines⟩ := exists_linesOf_spaces hbreak rest n
    refine ⟨(spaces n ++ c :: text, brk) :: more, ?_, by rw [← hlines, ofLines_linesOf]⟩
    have hspaces : min indent ((spaces n ++ c :: text).takeWhile (· = ' ')).length = n := by
      rw [takeWhile_spaces, List.takeWhile_cons_of_neg (by simp [hspace]), List.append_nil, spaces,
        List.length_replicate]
      omega
    simp only [hlines, blockLines?, hspaces, drop_spaces, hn, if_true, htab, if_false]

/-! ### Headers -/

/-- The chomping of a block, by the line breaks at the end of its text: there is none, there is one, or
there are several or nothing else. -/
def literalChomping (cs : List Char) : Chomping :=
  match cs.reverse with
  | [] => .strip
  | last :: before =>
    if !isBreak last then .strip
    else match before with
      | [] => .keep
      | c :: _ => if isBreak c then .keep else .clip

lemma blockHeader?_hints (cs rest : List Char) :
    blockHeader? (literalHints cs ++ '\n' :: rest) =
      some (literalChomping cs, if cs.head?.any isSpaceOrBreak then some 2 else none,
        '\n' :: rest) := by
  have hread : ∀ step : Bool, ∀ sign ∈ [(['-'], Chomping.strip), (['+'], .keep), ([], .clip)],
      blockHeader? ((if step then ['2'] else []) ++ sign.1 ++ '\n' :: rest) =
        some (sign.2, if step then some 2 else none, '\n' :: rest) := by
    intro step sign hsign
    simp only [List.mem_cons, List.not_mem_nil, or_false] at hsign
    rcases hsign with rfl | rfl | rfl <;> cases step <;> rfl
  unfold literalHints literalChomping
  cases cs.reverse with
  | nil => exact hread _ (['-'], .strip) (by simp)
  | cons last before =>
    dsimp only
    cases isBreak last with
    | false => exact hread _ (['-'], .strip) (by simp)
    | true =>
      cases before with
      | nil => exact hread _ (['+'], .keep) (by simp)
      | cons c _ =>
        dsimp only
        cases isBreak c with
        | false => exact hread _ ([], .clip) (by simp)
        | true => exact hread _ (['+'], .keep) (by simp)

/-- The line breaks at the end of a block that the reader keeps. -/
def Block.tail (b : Block) : Chomping → List Char
  | .strip => []
  | .clip => b.last
  | .keep => b.empties ++ b.last

/-- The line break that is written behind the last line of a text. -/
def finalBreak (cs : List Char) : List Char := if cs.getLast?.any isBreak then [] else ['\n']

/-- A text that is written in a block is made of lines, but for the break of the last one. -/
inductive IsMadeOf : List Char → List FullLine → FullLine → Prop
  | closed {before : List FullLine} {l : FullLine} : IsMadeOf (textOf before ++ l.1 ++ [l.2]) before l
  | unclosed {before : List FullLine} {text : List Char} (h : text ≠ []) :
      IsMadeOf (textOf before ++ text) before (text, '\n')

lemma exists_isMadeOf {cs : List Char} (hne : cs ≠ []) : ∃ before l,
    IsMadeOf cs before l ∧ ∀ l' ∈ before ++ [l], IsLine l' := by
  obtain ⟨ls, t, rfl, hls, ht⟩ := exists_lines cs
  by_cases hnil : t = []
  · subst hnil
    rw [List.append_nil] at hne ⊢
    rcases List.eq_nil_or_concat ls with rfl | ⟨before, l, rfl⟩
    · exact absurd rfl hne
    · rw [List.concat_eq_append] at hls ⊢
      have htext : textOf (before ++ [l]) = textOf before ++ l.1 ++ [l.2] := by simp [textOf]
      exact ⟨before, l, htext ▸ .closed, hls⟩
  · refine ⟨ls, (t, '\n'), .unclosed hnil, ?_⟩
    intro l' hl'
    rcases List.mem_append.mp hl' with hl' | hl'
    · exact hls l' hl'
    · rw [List.mem_singleton.mp hl']
      exact ⟨ht, rfl⟩

namespace IsMadeOf

variable {cs : List Char} {before : List FullLine} {l : FullLine}

lemma getLast?_isBreak_closed (hl : IsLine l) :
    (textOf before ++ l.1 ++ [l.2]).getLast?.any isBreak = true := by
  simp [hl.broken]

lemma getLast?_isBreak_unclosed {text : List Char} (hne : text ≠ [])
    (htext : ∀ c ∈ text, isBreak c = false) :
    (textOf before ++ text).getLast?.any isBreak = false := by
  rcases List.eq_nil_or_concat text with rfl | ⟨front, c, rfl⟩
  · exact absurd rfl hne
  · have hc := htext c (by simp)
    simp [hc]

lemma textOf_eq (h : IsMadeOf cs before l) (hl : IsLine l) :
    cs ++ finalBreak cs = textOf (before ++ [l]) := by
  cases h with
  | closed =>
    rw [finalBreak, getLast?_isBreak_closed hl, if_pos rfl]
    simp [textOf]
  | unclosed hne =>
    rw [finalBreak, getLast?_isBreak_unclosed hne hl.unbroken, if_neg Bool.false_ne_true]
    simp [textOf]

/-- The body of the block is made of the lines, moved in. -/
lemma literalBody_eq (h : IsMadeOf cs before l) (hls : ∀ l' ∈ before ++ [l], IsLine l')
    (indent : Nat) : literalBody indent true cs ++ finalBreak cs =
      textOf ((before ++ [l]).map fun l => (indented indent l.1, l.2)) := by
  have hl := hls l (List.mem_append_right _ List.mem_cons_self)
  cases h with
  | closed =>
    have hbody := literalBody_lines indent hls (t := []) (List.forall_mem_nil _)
    have htext : textOf (before ++ [l]) ++ [] = textOf before ++ l.1 ++ [l.2] := by simp [textOf]
    rw [htext] at hbody
    rw [finalBreak, getLast?_isBreak_closed hl, if_pos rfl, hbody]
    simp [indented]
  | unclosed hne =>
    have hbody := literalBody_lines indent (fun l' hl' => hls l' (List.mem_append_left _ hl'))
      hl.unbroken
    rw [finalBreak, getLast?_isBreak_unclosed hne hl.unbroken, if_neg Bool.false_ne_true, hbody]
    simp [textOf]

/-- A text that begins in its first line makes this line begin. -/
lemma exists_cons (h : IsMadeOf cs before l) (hls : ∀ l' ∈ before ++ [l], IsLine l') {c : Char}
    (hc : cs.head? = some c) (hbreak : isBreak c = false) :
    ∃ text brk more, before ++ [l] = (c :: text, brk) :: more := by
  have hl := hls l (List.mem_append_right _ List.mem_cons_self)
  have hhead : (textOf (before ++ [l])).head? = some c := by
    rw [← h.textOf_eq hl, List.head?_append, hc]
    rfl
  cases hlines : before ++ [l] with
  | nil => simp at hlines
  | cons first more =>
    rw [hlines] at hhead hls
    obtain ⟨text, brk⟩ := first
    cases text with
    | nil =>
      cases hhead
      rw [(hls _ List.mem_cons_self).broken] at hbreak
      cases hbreak
    | cons d text =>
      cases hhead
      exact ⟨text, brk, more, rfl⟩

/-- With the breaks that the header asks for, the block is the text. -/
lemma chomped_eq (h : IsMadeOf cs before l) (hls : ∀ l' ∈ before ++ [l], IsLine l') {b : Block}
    (hb : b.full = []) :
    ((before ++ [l]).foldl Block.add b).tail (literalChomping cs) ++
      ((before ++ [l]).foldl Block.add b).text = cs.reverse := by
  have hl := hls l (List.mem_append_right _ List.mem_cons_self)
  have hfull := Block.full_foldl_add (before ++ [l]) b
  rw [← h.textOf_eq hl, hb, List.append_nil, List.reverse_append, List.foldl_append, List.foldl_cons,
    List.foldl_nil] at hfull
  rw [List.foldl_append, List.foldl_cons, List.foldl_nil]
  have hlast := fun hne => Block.add_of_ne_nil (before.foldl Block.add b) (l := l) hne
  generalize (before.foldl Block.add b).add l = b' at hfull hlast ⊢
  cases h with
  | closed =>
    have hreverse : (textOf before ++ l.1 ++ [l.2]).reverse =
        l.2 :: (l.1.reverse ++ (textOf before).reverse) := by simp
    rw [finalBreak, getLast?_isBreak_closed hl, if_pos rfl, List.reverse_nil, List.nil_append] at hfull
    rw [← hfull, literalChomping, hreverse]
    dsimp only
    rw [hl.broken, Bool.not_true, if_neg Bool.false_ne_true]
    by_cases hempty : l.1 = []
    · -- What comes before an empty line ends in a break, or there is nothing before it.
      have hkeep : (match l.1.reverse ++ (textOf before).reverse with
          | [] => Chomping.keep
          | c :: _ => if isBreak c then .keep else .clip) = .keep := by
        rw [hempty, List.reverse_nil, List.nil_append]
        rcases List.eq_nil_or_concat before with rfl | ⟨more, l', rfl⟩
        · rfl
        · have hl' := hls l' (by simp)
          simp [textOf, hl'.broken]
      rw [hkeep]
      rfl
    · obtain ⟨hempties, -⟩ := hlast hempty
      obtain ⟨d, rest, hd⟩ := List.exists_cons_of_ne_nil (List.reverse_ne_nil_iff.mpr hempty)
      have hmem : d ∈ l.1 := by
        rw [← List.mem_reverse, hd]
        exact List.mem_cons_self
      rw [hd, List.cons_append]
      simp [hl.unbroken d hmem, Block.tail, Block.full, hempties]
  | unclosed hne =>
    rename_i text
    obtain ⟨hempties, hfinal⟩ := hlast hne
    obtain ⟨d, rest, hd⟩ := List.exists_cons_of_ne_nil (List.reverse_ne_nil_iff.mpr hne)
    have hmem : d ∈ text := by
      rw [← List.mem_reverse, hd]
      exact List.mem_cons_self
    have hstrip : literalChomping (textOf before ++ text) = .strip := by
      rw [literalChomping, List.reverse_append, hd]
      simp [hl.unbroken d hmem]
    rw [hstrip]
    rw [finalBreak, getLast?_isBreak_unclosed hne hl.unbroken, if_neg Bool.false_ne_true] at hfull
    simpa [Block.tail, Block.full, hempties, hfinal] using hfull

end IsMadeOf

/-! ### Blocks -/

lemma findIndent?_spaces (least n : Nat) {c : Char} (hspace : c ≠ ' ') (htab : c ≠ '\t')
    (text : List Char) (brk : Option Char) (more : List Line) (h : least ≤ n) :
    findIndent? least 0 ((spaces n ++ c :: text, brk) :: more) = some n := by
  have hspaces : ((spaces n ++ c :: text).takeWhile (· = ' ')).length = n := by
    rw [takeWhile_spaces, List.takeWhile_cons_of_neg (by simp [hspace]), List.append_nil, spaces,
      List.length_replicate]
  simp only [findIndent?, hspaces, drop_spaces, htab, if_false]
  simp [h]

lemma dropLineEnd?_newline (rest : List Char) : dropLineEnd? ('\n' :: rest) = some rest := by
  simp [dropLineEnd?, isBlank, isBreak]

lemma IsLine.indented {l : FullLine} (h : IsLine l) (indent : Nat) :
    IsLine (Yaml.indented indent l.1, l.2) := by
  refine ⟨?_, h.broken⟩
  intro c hc
  rw [Yaml.indented] at hc
  split at hc
  · cases hc
  · rcases List.mem_append.mp hc with hc | hc
    · rw [List.eq_of_mem_replicate hc]
      rfl
    · exact h.unbroken c hc

/-- The lines of a block, and behind them those of the rest. -/
lemma IsMadeOf.linesOf_eq {cs : List Char} {before : List FullLine} {l : FullLine}
    (h : IsMadeOf cs before l) (hls : ∀ l' ∈ before ++ [l], IsLine l') (indent : Nat)
    (rest : List Char) : linesOf (literalBody indent true cs ++ (finalBreak cs ++ rest)) =
      (before ++ [l]).map (fun l => (Yaml.indented indent l.1, some l.2)) ++ linesOf rest := by
  rw [← List.append_assoc, h.literalBody_eq hls, linesOf_textOf, List.map_map]
  · rfl
  · intro l' hl'
    obtain ⟨l₀, hl₀, rfl⟩ := List.mem_map.mp hl'
    exact (hls l₀ hl₀).indented indent

/-- The indentation of a block: what the header says, or else what the first line shows. -/
def blockIndent? (parent : Nat) (lines : List Line) : Option Nat → Option Nat
  | some step => some (parent + step)
  | none => findIndent? (parent + 1) 0 lines

/-- A block is made of its header, its indentation and its lines. -/
lemma block?_eq {folded : Bool} {parent indent : Nat} {cs header lines : List Char}
    {chomping : Chomping} {step : Option Nat} {b : Block} {more : List Line}
    (hheader : blockHeader? cs = some (chomping, step, header))
    (hline : dropLineEnd? header = some lines)
    (hindent : blockIndent? parent (linesOf lines) step = some indent)
    (hlines : blockLines? folded indent ⟨[], [], [], false⟩ (linesOf lines) = some (b, more)) :
    block? folded (some parent) cs = some ⟨(b.tail chomping ++ b.text).reverse, ofLines more, true⟩ := by
  rw [block?, hheader]
  dsimp only [Option.bind_eq_bind, Option.bind_some]
  rw [hline]
  cases step with
  | some n =>
    obtain rfl := Option.some.inj hindent
    dsimp only [Option.bind_some, Option.getD_some]
    rw [hlines]
    cases chomping <;> rfl
  | none =>
    rw [blockIndent?] at hindent
    dsimp only [Option.bind_some]
    rw [hindent]
    dsimp only [Option.bind_some]
    rw [hlines]
    cases chomping <;> rfl

/-- A text that is written as a block is read back, and nothing behind it is touched. -/
lemma block?_text {cs rest : List Char} {parent n : Nat} (h : canBeLiteral cs = true)
    (hn : n < parent + 2) (hrest : Starts rest) (hend : rest = [] → n = 0) :
    block? false (some parent) (literalHints cs ++ '\n' :: (literalBody (parent + 2) true cs ++
        (finalBreak cs ++ (spaces n ++ rest)))) = some ⟨cs, spaces n ++ rest, true⟩ := by
  simp only [canBeLiteral, needsEscapes, Bool.and_eq_true, Bool.not_eq_true', Bool.or_eq_false_iff,
    List.any_eq_false, Bool.not_eq_false] at h
  obtain ⟨⟨⟨hprintable, -⟩, -⟩, hne⟩ := h
  cases cs with
  | nil => cases hne
  | cons c text =>
    obtain ⟨before, l, hmade, hls⟩ := exists_isMadeOf (List.cons_ne_nil c text)
    have hlines := hmade.linesOf_eq hls (parent + 2) (spaces n ++ rest)
    -- The header gives the indentation exactly where the first line does not show it.
    have hindent : blockIndent? parent (linesOf (literalBody (parent + 2) true (c :: text) ++
        (finalBreak (c :: text) ++ (spaces n ++ rest)))) (if isSpaceOrBreak c then some 2 else none) =
          some (parent + 2) := by
      cases hfirst : isSpaceOrBreak c with
      | true => rfl
      | false =>
        simp only [isSpaceOrBreak, Bool.or_eq_false_iff, decide_eq_false_iff_not] at hfirst
        obtain ⟨line, brk, more, hbegin⟩ := hmade.exists_cons hls rfl hfirst.2
        have htab : c ≠ '\t' := by
          rintro rfl
          exact absurd (hprintable '\t' List.mem_cons_self) (by decide)
        rw [if_neg Bool.false_ne_true, hlines, hbegin, List.map_cons, List.cons_append]
        exact findIndent?_spaces _ _ hfirst.1 htab _ _ _ (by omega)
    obtain ⟨more, hmore, hover⟩ := blockLines?_end
      ((before ++ [l]).foldl Block.add ⟨[], [], [], false⟩) hrest hn hend
    have hchomped := hmade.chomped_eq hls (b := ⟨[], [], [], false⟩) rfl
    have hread : blockLines? false (parent + 2) ⟨[], [], [], false⟩ (linesOf (literalBody (parent + 2)
        true (c :: text) ++ (finalBreak (c :: text) ++ (spaces n ++ rest)))) =
        some ((before ++ [l]).foldl Block.add ⟨[], [], [], false⟩, more) := by
      rw [hlines, blockLines?_lines, hmore]
    have hheader := blockHeader?_hints (c :: text) (literalBody (parent + 2) true (c :: text) ++
      (finalBreak (c :: text) ++ (spaces n ++ rest)))
    rw [List.head?_cons, Option.any_some] at hheader
    rw [block?_eq hheader (dropLineEnd?_newline _) hindent hread, hchomped, hover, List.reverse_reverse]

/-- The body of a block is made of whole lines. -/
lemma exists_literalBody_eq (indent : Nat) {cs : List Char} (hne : cs ≠ []) : ∃ front c,
    isBreak c = true ∧ literalBody indent true cs ++ finalBreak cs = front ++ [c] := by
  obtain ⟨before, l, hmade, hls⟩ := exists_isMadeOf hne
  have hl := hls l (List.mem_append_right _ List.mem_cons_self)
  refine ⟨textOf (before.map fun l => (indented indent l.1, l.2)) ++ indented indent l.1, l.2,
    hl.broken, ?_⟩
  rw [hmade.literalBody_eq hls]
  simp [textOf]

end Reindex.Yaml
