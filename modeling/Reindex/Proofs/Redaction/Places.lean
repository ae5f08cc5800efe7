import Mathlib.Data.List.Infix
import Mathlib.Data.List.TakeWhile
import Reindex.Proofs.Redaction.Shapes

/-!
# Places in a text where passages are replaced

The passages of a kind are replaced from left to right. `Scan` relates what has been read, what is left, and
what has been put out by then. Every place in the result is behind such a step, where nothing is found, or
inside of what takes the place of a passage. So what stands at a place in the result is traced back to what
stood in the text.
-/

namespace Reindex.Redaction

open Text

variable {m : Matcher} {inner cs front rest done : List Char} {before : Option Char} {hit : Hit}

/-! ### Passages and what takes their place -/

/-- A passage is some of the characters that are there, and behind it stands no letter and no digit unless a
word begins there. -/
structure Covers (cs : List Char) (n : Nat) (passage rest : List Char) : Prop where
  text : cs = passage ++ rest
  length : passage.length = n
  ne_nil : passage ≠ []
  ends : isWordStart passage.getLast? = true ∨ ∀ c ∈ rest.head?, c.isAlphanum = false

/-- Every passage of the kind takes up some characters, and what takes its place ends in brackets around
`inner`. -/
structure Marks (m : Matcher) (inner : List Char) : Prop where
  exists_passage : ∀ {before cs hit}, m before cs = some hit →
    ∃ passage rest, Covers cs hit.length passage rest
  exists_kept : ∀ {before cs hit}, m before cs = some hit →
    ∃ kept, hit.replacement = kept ++ '[' :: (inner ++ [']'])

/-- The text that is put in front of the brackets is a part of the passage. -/
def Keeps (m : Matcher) (inner : List Char) : Prop :=
  ∀ before cs hit kept, m before cs = some hit →
    hit.replacement = kept ++ '[' :: (inner ++ [']']) → kept <+: cs

lemma not_isAlphanum_of_dropWhile {p : Char → Bool} (hp : ∀ c, c.isAlphanum = true → p c = true)
    (cs : List Char) : ∀ c ∈ (cs.dropWhile p).head?, c.isAlphanum = false := by
  intro c hc
  have hhead := List.head?_dropWhile_not p cs
  rw [Option.mem_def.mp hc] at hhead
  by_contra halnum
  exact absurd ((hp c (by simpa using halnum)).symm.trans hhead) nofun

/-- Behind a run of characters and signs there is a word start, or the run breaks off. -/
lemma ends_of_signs {p : Char → Bool} (hp : ∀ c, c.isAlphanum = true → p c = true)
    {cs signs rest : List Char} (hcs : cs.dropWhile p = signs ++ rest) (hsigns : ∀ c ∈ signs, c = '=')
    (front : List Char) :
    isWordStart (front ++ signs).getLast? = true ∨ ∀ c ∈ rest.head?, c.isAlphanum = false := by
  rcases List.eq_nil_or_concat' signs with rfl | ⟨signs, c, rfl⟩
  · rw [List.nil_append] at hcs
    rw [← hcs]
    exact .inr (not_isAlphanum_of_dropWhile hp cs)
  · rw [← List.append_assoc, List.getLast?_concat, hsigns c (by simp)]
    exact .inl rfl

lemma Covers.unique {n : Nat} {passage passage' rest' : List Char} (h : Covers cs n passage rest)
    (h' : Covers cs n passage' rest') : passage' = passage ∧ rest' = rest :=
  List.append_inj (h'.text.symm.trans h.text) (h'.length.trans h.length.symm)

/-- A passage is replaced as a whole. -/
lemma Covers.replaceFrom_eq {passage : List Char} (h : Covers (passage ++ rest) hit.length passage rest)
    (hhit : m front.getLast? (passage ++ rest) = some hit) :
    replaceFrom m 0 front.getLast? (passage ++ rest) =
      hit.replacement ++ replaceFrom m 0 (front ++ passage).getLast? rest := by
  have hlength : hit.length = passage.length + 0 := h.length.symm
  rw [replaceFrom_hit hhit h.ne_nil hlength, List.getLast?_append]
  rfl

/-- Where every replacement is brackets alone, all that is put in front of the brackets is a part of the
passage. -/
lemma keeps_of_brackets
    (h : ∀ before cs hit, m before cs = some hit → hit.replacement = '[' :: (inner ++ [']'])) :
    Keeps m inner := by
  intro before cs hit kept hhit hkept
  rw [h before cs hit hhit] at hkept
  have hnil : kept = [] := List.append_left_eq_self.mp hkept.symm
  rw [hnil]
  exact List.nil_prefix

lemma marks_webToken : Marks webToken "REDACTED_JWT".toList where
  exists_passage := by
    intro before cs hit h
    unfold webToken at h
    split at h
    · rename_i rest
      dsimp only at h
      split at h
      · rename_i rest' hhead
        split at h
        · rename_i rest'' hbody
          split at h
          · cases h
          · cases h
            refine ⟨'e' :: 'y' :: 'J' :: (rest.takeWhile isTokenChar ++ '.' ::
              (rest'.takeWhile isTokenChar ++ '.' :: rest''.takeWhile isTokenChar)),
              rest''.dropWhile isTokenChar, ⟨?_, ?_, List.cons_ne_nil _ _, .inr ?_⟩⟩
            · simp only [List.cons_append, List.append_assoc, List.takeWhile_append_dropWhile]
              rw [← hbody, List.takeWhile_append_dropWhile, ← hhead, List.takeWhile_append_dropWhile]
            · simp only [List.length_cons, List.length_append]
              omega
            · exact not_isAlphanum_of_dropWhile (fun c hc => by simp [isTokenChar, hc]) rest''
        · cases h
      · cases h
    · cases h
  exists_kept h := ⟨[], replacement_of_webToken h⟩

lemma marks_bearer : Marks bearer "REDACTED".toList where
  exists_passage := by
    intro before cs hit h
    unfold bearer at h
    split at h
    · cases h
    · split at h
      · cases h
      · rename_i rest hword
        dsimp only at h
        split at h
        · cases h
        · rename_i hempty
          cases h
          obtain ⟨letters, rfl, hletters⟩ := exists_of_behindWord? hword
          rw [Bool.or_eq_true, not_or] at hempty
          have hgap := List.takeWhile_append_dropWhile (p := isBlankChar) (l := rest)
          generalize rest.takeWhile isBlankChar = gap at *
          generalize rest.dropWhile isBlankChar = rest' at *
          subst hgap
          refine ⟨letters ++ (gap ++ (rest'.takeWhile isBearerChar ++
            (rest'.dropWhile isBearerChar).takeWhile (· = '='))),
            (rest'.dropWhile isBearerChar).dropWhile (· = '='), ⟨?_, ?_, ?_, ?_⟩⟩
          · simp only [List.append_assoc, List.takeWhile_append_dropWhile]
          · have hletters : letters.length = 6 := hletters
            simp only [List.length_append, hletters]
            omega
          · intro hnil
            rw [List.append_eq_nil_iff] at hnil
            rw [hnil.1] at hletters
            cases hletters
          · rw [← List.append_assoc, ← List.append_assoc]
            refine ends_of_signs (fun c hc => by simp [isBearerChar, hc])
              (List.takeWhile_append_dropWhile (p := (· = '='))).symm (fun c hc => ?_) _
            simpa using List.mem_takeWhile_imp hc
  exists_kept h := ⟨"Bearer ".toList, (exists_of_bearer h).2.2.1⟩

/-- A long run is made of the characters of Base64 and of the signs behind them. -/
lemma exists_of_longBase64 (h : longBase64 before cs = some hit) :
    ∃ passage rest, Covers cs hit.length passage rest ∧ ∀ c ∈ passage, isBase64Char c = true ∨ c = '=' := by
  unfold longBase64 at h
  dsimp only at h
  split at h
  · cases h
  · rename_i hlong
    cases h
    obtain ⟨rest, hrest⟩ := (List.take_prefix 2 _).trans
      (List.takeWhile_prefix (l := cs.dropWhile isBase64Char) (fun c => decide (c = '=')))
    have hsigns : ∀ c ∈ ((cs.dropWhile isBase64Char).takeWhile fun c => decide (c = '=')).take 2,
        c = '=' :=
      fun c hc => by simpa using List.mem_takeWhile_imp (List.mem_of_mem_take hc)
    refine ⟨_, rest, ⟨?_, List.length_append, ?_, ends_of_signs (fun c hc => ?_) hrest.symm hsigns _⟩, ?_⟩
    · rw [List.append_assoc, hrest, List.takeWhile_append_dropWhile]
    · intro hnil
      rw [(List.append_eq_nil_iff.mp hnil).1] at hlong
      exact hlong (by decide)
    · simp [isBase64Char, hc]
    · intro c hc
      rcases List.mem_append.mp hc with hc | hc
      · exact .inl (List.mem_takeWhile_imp hc)
      · exact .inr (hsigns c hc)

lemma marks_longBase64 : Marks longBase64 "REDACTED_BASE64".toList where
  exists_passage h := by
    obtain ⟨passage, rest, hpassage, -⟩ := exists_of_longBase64 h
    exact ⟨passage, rest, hpassage⟩
  exists_kept h := ⟨[], replacement_of_longBase64 h⟩

/-! ### Steps through a text -/

/-- Passages are replaced from left to right: what has been read, what is left, and what has been put out. -/
inductive Scan (m : Matcher) (cs : List Char) : (front rest done : List Char) → Prop
  | start : Scan m cs [] cs []
  | kept {front : List Char} {c : Char} {rest done : List Char} (h : Scan m cs front (c :: rest) done)
      (hnone : m front.getLast? (c :: rest) = none) : Scan m cs (front ++ [c]) rest (done ++ [c])
  | replaced {front passage rest done : List Char} {hit : Hit}
      (h : Scan m cs front (passage ++ rest) done)
      (hhit : m front.getLast? (passage ++ rest) = some hit)
      (hpassage : Covers (passage ++ rest) hit.length passage rest) :
      Scan m cs (front ++ passage) rest (done ++ hit.replacement)

namespace Scan

lemma text_eq (h : Scan m cs front rest done) : cs = front ++ rest := by
  induction h with
  | start => rfl
  | kept h hnone ih => rw [ih, List.append_assoc, List.singleton_append]
  | replaced h hhit hpassage ih => rw [ih, List.append_assoc]

lemma replaceAll_eq (h : Scan m cs front rest done) :
    replaceAll m cs = done ++ replaceFrom m 0 front.getLast? rest := by
  induction h with
  | start => rfl
  | kept h hnone ih =>
    rw [ih, replaceFrom_of_none hnone, List.getLast?_concat, List.append_assoc, List.singleton_append]
  | replaced h hhit hpassage ih =>
    rw [ih, hpassage.replaceFrom_eq hhit, List.append_assoc]

/-- In a scan, the text that has been put out ends like the one that has been read, or else a passage has
just been replaced. -/
lemma getLast?_eq_or (h : Scan m cs front rest done) : done.getLast? = front.getLast? ∨
    ∃ front' passage done' hit, front = front' ++ passage ∧ done = done' ++ hit.replacement ∧
      m front'.getLast? (passage ++ rest) = some hit ∧
      Covers (passage ++ rest) hit.length passage rest := by
  cases h with
  | start => exact .inl rfl
  | kept h hnone => exact .inl (by rw [List.getLast?_concat, List.getLast?_concat])
  | replaced h hhit hpassage => exact .inr ⟨_, _, _, _, rfl, rfl, hhit, hpassage⟩

/-- Behind a passage that has just been replaced a word begins, or there is no letter and no digit. -/
lemma getLast?_cases (h : Scan m cs front rest done) : done.getLast? = front.getLast? ∨
    isWordStart front.getLast? = true ∨ ∀ c ∈ rest.head?, c.isAlphanum = false := by
  rcases h.getLast?_eq_or with heq | ⟨front', passage, _, _, rfl, -, -, hpassage⟩
  · exact .inl heq
  · rw [List.getLast?_append_of_ne_nil front' hpassage.ne_nil]
    exact .inr hpassage.ends

end Scan

/-! ### Places in what is put out -/

/-- A place in what is put out: behind a step, where no passage begins, or where a passage has been
replaced, in front of its replacement or inside of it. -/
inductive Place (m : Matcher) (cs : List Char) : (front' back' : List Char) → Prop
  | kept {front rest done : List Char} (h : Scan m cs front rest done)
      (hnone : m front.getLast? rest = none) :
      Place m cs done (replaceFrom m 0 front.getLast? rest)
  | inside {front passage rest done : List Char} {hit : Hit} {w y : List Char}
      (h : Scan m cs front (passage ++ rest) done)
      (hhit : m front.getLast? (passage ++ rest) = some hit)
      (hpassage : Covers (passage ++ rest) hit.length passage rest)
      (hsplit : hit.replacement = w ++ y) (hy : y ≠ []) :
      Place m cs (done ++ w) (y ++ replaceFrom m 0 (front ++ passage).getLast? rest)

lemma Scan.place (hm : Marks m inner) (h : Scan m cs front rest done) :
    Place m cs done (replaceFrom m 0 front.getLast? rest) := by
  cases hhit : m front.getLast? rest with
  | none => exact .kept h hhit
  | some hit =>
    obtain ⟨passage, rest, hpassage⟩ := hm.exists_passage hhit
    obtain rfl := hpassage.text
    obtain ⟨kept, hkept⟩ := hm.exists_kept hhit
    have hne : hit.replacement ≠ [] := by
      rw [hkept]
      exact List.append_ne_nil_of_right_ne_nil _ (List.cons_ne_nil _ _)
    have hplace := Place.inside h hhit hpassage (List.nil_append hit.replacement).symm hne
    rwa [List.append_nil, ← hpassage.replaceFrom_eq hhit] at hplace

/-- Every way to take apart what is put out is a `Place`. The induction is on its front, character by
character. -/
lemma place_of_replaceAll (hm : Marks m inner) {front' back' : List Char}
    (h : replaceAll m cs = front' ++ back') : Place m cs front' back' := by
  induction front' using List.reverseRecOn generalizing back' with
  | nil =>
    rw [List.nil_append] at h
    rw [← h]
    exact Scan.start.place hm
  | append_singleton front' c ih =>
    rw [List.append_assoc, List.singleton_append] at h
    have hplace := ih h
    generalize hback : c :: back' = back at hplace
    cases hplace with
    | @kept front rest _ hscan hnone =>
      cases rest with
      | nil => cases hback
      | cons d rest =>
        rw [replaceFrom_of_none hnone] at hback
        obtain ⟨rfl, rfl⟩ := List.cons.inj hback
        have hnext := (hscan.kept hnone).place hm
        rwa [List.getLast?_concat] at hnext
    | @inside front passage rest done hit w y hscan hhit hpassage hsplit hy =>
      cases y with
      | nil => exact absurd rfl hy
      | cons d y =>
        obtain ⟨rfl, rfl⟩ := List.cons.inj hback
        rw [List.append_assoc]
        cases y with
        | nil =>
          rw [← hsplit]
          exact (hscan.replaced hhit hpassage).place hm
        | cons e y =>
          exact .inside hscan hhit hpassage (by rw [hsplit, List.append_assoc]; rfl)
            (List.cons_ne_nil e y)

/-! ### Places in the text -/

/-- A place in the text: a step comes to it, or it is inside of a passage. -/
inductive Reach (m : Matcher) (cs : List Char) : (front back : List Char) → Prop
  | step {front back done : List Char} (h : Scan m cs front back done) : Reach m cs front back
  | within {front w y rest done : List Char} {hit : Hit} (h : Scan m cs front (w ++ y ++ rest) done)
      (hhit : m front.getLast? (w ++ y ++ rest) = some hit)
      (hpassage : Covers (w ++ y ++ rest) hit.length (w ++ y) rest) (hw : w ≠ []) (hy : y ≠ []) :
      Reach m cs (front ++ w) (y ++ rest)

/-- Every way to take the text apart is a `Reach`. The induction is on its front. -/
lemma reach (hm : Marks m inner) {front back : List Char} (h : cs = front ++ back) :
    Reach m cs front back := by
  induction front using List.reverseRecOn generalizing back with
  | nil =>
    rw [List.nil_append] at h
    rw [← h]
    exact .step .start
  | append_singleton front c ih =>
    rw [List.append_assoc, List.singleton_append] at h
    have hreach := ih h
    generalize hback : c :: back = back' at hreach
    cases hreach with
    | @step _ _ done hscan =>
      subst hback
      cases hhit : m front.getLast? (c :: back) with
      | none => exact .step (hscan.kept hhit)
      | some hit =>
        obtain ⟨passage, rest, hpassage⟩ := hm.exists_passage hhit
        obtain ⟨d, y, rfl⟩ := List.exists_cons_of_ne_nil hpassage.ne_nil
        obtain ⟨rfl, rfl⟩ := List.cons.inj hpassage.text
        cases y with
        | nil =>
          have hnext : Scan m cs (front ++ [c]) rest (done ++ hit.replacement) :=
            .replaced hscan hhit hpassage
          exact .step hnext
        | cons e y => exact .within (w := [c]) hscan hhit hpassage (List.cons_ne_nil c []) (List.cons_ne_nil e y)
    | @within front w y rest done hit hscan hhit hpassage hw hy =>
      obtain ⟨d, y, rfl⟩ := List.exists_cons_of_ne_nil hy
      obtain ⟨rfl, rfl⟩ := List.cons.inj hback
      rw [List.append_assoc]
      cases y with
      | nil => exact .step (hscan.replaced hhit hpassage)
      | cons e y =>
        rw [List.append_cons w c (e :: y)] at hscan hhit hpassage
        exact .within hscan hhit hpassage (List.append_ne_nil_of_left_ne_nil hw [c]) (List.cons_ne_nil e y)

end Reindex.Redaction
