import Mathlib.Tactic.Common
import Reindex.Proofs.Text.Alphanumeric
import Reindex.Proofs.Url.Percent
import Reindex.Proofs.Url.Path

/-!
# A text as one segment

A text becomes a segment of a path when it is appended, and the segment is read as that text. Texts that
are made of dots stand for places and not for segments, tabs and line breaks do not count, and a lone
empty segment gives way to the next one. Under the scheme of files the first segment may be changed, if
it is empty or names a drive.
-/

namespace Reindex.Url

open Text

/-! ### Dots -/

/-- A character whose small form is in ASCII is in ASCII itself. -/
lemma toNat_lt_of_toLower {c : Char} (h : c.toLower.toNat < 0x80) : c.toNat < 0x80 := by
  rcases toLower_cases c with hsame | ⟨hc, -⟩
  · rwa [hsame] at h
  · exact toNat_lt_of_isAlphanum hc

lemma hexDigit?_two : hexDigit? '2' = some 2 := by decide

/-- Every spelling of a dot is read as one. -/
lemma decode_of_isDot {s : List Char} (h : isDot s = true) :
    Percent.decode s = Utf8.encodeList ['.'] := by
  simp only [isDot, Bool.or_eq_true, decide_eq_true_eq] at h
  rcases h with rfl | h
  · rfl
  · have hpercent : ∀ c : Char, c.toNat < 0x80 → c.toLower = '%' → c = '%' := forall_ascii (by decide)
    have htwo : ∀ c : Char, c.toNat < 0x80 → c.toLower = '2' → c = '2' := forall_ascii (by decide)
    have he : ∀ c : Char, c.toNat < 0x80 → c.toLower = 'e' → hexDigit? c = some 14 :=
      forall_ascii (by decide)
    have hsmall : ∀ c ∈ s, c.toNat < 0x80 := by
      intro c hc
      have hmem := List.mem_map_of_mem (f := Char.toLower) hc
      have hall : ['%', '2', 'e'].all (fun d => d.toNat < 0x80) = true := by decide
      rw [h] at hmem
      exact toNat_lt_of_toLower (of_decide_eq_true (List.all_eq_true.mp hall _ hmem))
    obtain ⟨a, s, rfl, ha, h⟩ := List.map_eq_cons_iff.mp h
    obtain ⟨b, s, rfl, hb, h⟩ := List.map_eq_cons_iff.mp h
    obtain ⟨c, s, rfl, hc, h⟩ := List.map_eq_cons_iff.mp h
    obtain rfl := List.map_eq_nil_iff.mp h
    obtain rfl := hpercent a (hsmall a (by simp)) ha
    obtain rfl := htwo b (hsmall b (by simp)) hb
    rw [Percent.decode, hexDigit?_two, he c (hsmall c (by simp)) hc]
    rfl

lemma decode_of_isDotDot {s : List Char} (h : isDotDot s = true) :
    Percent.decode s = Utf8.encodeList ['.', '.'] := by
  unfold isDotDot at h
  split at h
  · rw [Percent.decode_cons (by decide), decode_of_isDot h]
    rfl
  · rename_i e rest
    simp only [Bool.and_eq_true, Bool.or_eq_true, decide_eq_true_eq] at h
    obtain ⟨he, hrest⟩ := h
    have hfourteen : hexDigit? e = some 14 := by
      rcases he with rfl | rfl <;> decide
    rw [Percent.decode, hexDigit?_two, hfourteen, decode_of_isDot hrest]
    rfl
  · cases h

/-! ### One segment -/

/-- The characters that are encoded in a segment. -/
def segmentSet (scheme : String) : Char → Bool :=
  if isSpecial scheme then Percent.specialSegment else Percent.segment

lemma segmentSet_percent (scheme : String) : segmentSet scheme '%' = true := by
  unfold segmentSet
  split <;> decide

/-- The text is not made of dots, and all its characters count. -/
structure IsSegment (raw : List Char) : Prop where
  dot : raw ≠ ['.']
  dotDot : raw ≠ ['.', '.']
  counted : ∀ c ∈ raw, isSkipped c = false

instance (raw : List Char) : Decidable (IsSegment raw) :=
  decidable_of_iff (raw ≠ ['.'] ∧ raw ≠ ['.', '.'] ∧ raw.all (!isSkipped ·) = true) <| by
    constructor
    · rintro ⟨hdot, hdotDot, hall⟩
      exact ⟨hdot, hdotDot, fun c hc => (Bool.not_eq_true' _).mp (List.all_eq_true.mp hall c hc)⟩
    · rintro ⟨hdot, hdotDot, hcounted⟩
      exact ⟨hdot, hdotDot, List.all_eq_true.mpr fun c hc => by simp [hcounted c hc]⟩

/-- A segment is no dot when it is encoded. -/
lemma IsSegment.isDot_encode {raw : List Char} (h : IsSegment raw) (scheme : String) :
    isDot (Percent.encode (segmentSet scheme) raw) = false := by
  by_contra hdot
  rw [Bool.not_eq_false] at hdot
  have hoctets := decode_of_isDot hdot
  rw [Percent.decode_encode (segmentSet_percent scheme)] at hoctets
  exact h.dot (Utf8.encodeList_injective hoctets)

lemma IsSegment.isDotDot_encode {raw : List Char} (h : IsSegment raw) (scheme : String) :
    isDotDot (Percent.encode (segmentSet scheme) raw) = false := by
  by_contra hdots
  rw [Bool.not_eq_false] at hdots
  have hoctets := decode_of_isDotDot hdots
  rw [Percent.decode_encode (segmentSet_percent scheme)] at hoctets
  exact h.dotDot (Utf8.encodeList_injective hoctets)

/-- The text as it stands in a path. -/
def encodeSegment (scheme raw : String) : String :=
  String.ofList (Percent.encode (segmentSet scheme) raw.toList)

lemma decode_encodeSegment (scheme raw : String) :
    Utf8.decode? (Percent.decode (encodeSegment scheme raw).toList) = some raw := by
  rw [encodeSegment, String.toList_ofList, Percent.decode_encode (segmentSet_percent scheme)]
  exact Utf8.decode?_encode raw

lemma encodeSegment_injective (scheme : String) : Function.Injective (encodeSegment scheme) := by
  intro raw raw' h
  have hread := decode_encodeSegment scheme raw
  rw [h, decode_encodeSegment] at hread
  exact (Option.some.inj hread).symm

/-- The path of a file is not changed: its first segment is not empty, and no drive with a bar. -/
structure IsTidy (segments : List (List Char)) : Prop where
  nonempty : ∃ first, segments.head? = some first ∧ first ≠ []
  drive : ∀ c : Char, c.isAlpha = true → segments.head? ≠ some [c, '|']

/-- Only the first segment matters. -/
lemma IsTidy.of_head? {segments more : List (List Char)} (h : IsTidy segments)
    (hhead : more.head? = segments.head?) : IsTidy more where
  nonempty := by
    rw [hhead]
    exact h.nonempty
  drive := by
    rw [hhead]
    exact h.drive

/-- Encoding makes no first segment empty, and no drive of it. -/
lemma IsTidy.encode {scheme : String} {segments : List (List Char)} {raw : List Char}
    (h : IsTidy (segments ++ [raw])) :
    IsTidy (segments ++ [Percent.encode (segmentSet scheme) raw]) := by
  have hpercent := segmentSet_percent scheme
  cases segments with
  | cons first more => exact h.of_head? rfl
  | nil =>
    constructor
    · refine ⟨_, rfl, fun hempty => ?_⟩
      obtain ⟨first, hfirst, hne⟩ := h.nonempty
      cases hfirst
      exact hne (Percent.encode_injective hpercent hempty)
    · intro c hc hdrive
      have hne : c ≠ '%' := ne_of_isAlphanum (by simp [Char.isAlphanum, hc]) (by decide)
      have hoctets := congrArg Percent.decode (Option.some.inj hdrive)
      rw [Percent.decode_encode hpercent, Percent.decode_cons hne,
        Percent.decode_cons (by decide)] at hoctets
      have hraw : raw = [c, '|'] := Utf8.encodeList_injective hoctets
      exact h.drive c hc (congrArg some hraw)

lemma tidyFile_of_isTidy {segments : List (List Char)} (h : IsTidy segments) :
    tidyFile segments = segments := by
  obtain ⟨first, hfirst, hempty⟩ := h.nonempty
  obtain ⟨rest, rfl⟩ := List.head?_eq_some_iff.mp hfirst
  have hkept : (first :: rest).dropWhile (·.isEmpty) = first :: rest := by
    rw [List.dropWhile_cons_of_neg]
    rw [List.isEmpty_iff]
    exact hempty
  unfold tidyFile
  split
  · rename_i c more heq
    obtain ⟨rfl, rfl⟩ := List.cons.inj heq
    have hdrive : ¬ c.isAlpha = true := fun hc => h.drive c hc rfl
    rw [if_neg hdrive]
    dsimp only
    rw [hkept]
  · dsimp only
    rw [hkept]

/-- The segments that there are when another one comes. -/
def withoutLone (segments : List (List Char)) : List (List Char) :=
  if segments = [[]] then [] else segments

lemma withoutLone_of_ne {segments : List (List Char)} (h : segments ≠ [[]]) :
    withoutLone segments = segments := if_neg h

/-- A text that can be a segment goes behind those there are. -/
lemma pushSegment_of_isSegment (scheme : String) (segments : List (List Char)) {raw : List Char}
    (h : IsSegment raw)
    (hfile : scheme = "file" →
      IsTidy (withoutLone segments ++ [Percent.encode (segmentSet scheme) raw])) :
    pushSegment scheme segments raw =
      withoutLone segments ++ [Percent.encode (segmentSet scheme) raw] := by
  have hdots : ¬ (raw = ['.'] || raw = ['.', '.']) = true := by
    rw [Bool.or_eq_true, decide_eq_true_eq, decide_eq_true_eq]
    rintro (hdot | hdotDot)
    · exact h.dot hdot
    · exact h.dotDot hdotDot
  have hcounted : raw.filter (!isSkipped ·) = raw := by
    refine List.filter_eq_self.mpr fun c hc => ?_
    rw [h.counted c hc]
    rfl
  have hplaced : place (withoutLone segments) [Percent.encode (segmentSet scheme) raw] =
      withoutLone segments ++ [Percent.encode (segmentSet scheme) raw] :=
    place_singleton _ (h.isDot_encode scheme) (h.isDotDot_encode scheme)
  unfold withoutLone segmentSet at hplaced hfile ⊢
  unfold pushSegment
  rw [if_neg hdots, hcounted]
  dsimp only
  rw [hplaced]
  split
  · rename_i hscheme
    exact tidyFile_of_isTidy (hfile hscheme)
  · rfl

/-! ### Several segments -/

/-- The segments of the path that others go behind: an empty one at the end is none of them. -/
def segmentsToExtend (u : Url) : List String :=
  if u.pathSegments.getLast? = some "" then u.pathSegments.dropLast else u.pathSegments

lemma withoutLone_dropEmptyLast (list : List String)
    (h : (if list.getLast? = some "" then list.dropLast else list) ≠ [""]) :
    withoutLone (dropEmptyLast (list.map String.toList)) =
      (if list.getLast? = some "" then list.dropLast else list).map String.toList := by
  have hlone : ∀ more : List String, more.map String.toList = [[]] → more = [""] := by
    intro more hmore
    obtain ⟨s, rest, rfl, hs, hrest⟩ := List.map_eq_cons_iff.mp hmore
    rw [String.toList_eq_nil_iff.mp hs, List.map_eq_nil_iff.mp hrest]
  unfold dropEmptyLast
  rw [List.length_map]
  by_cases hempty : list.getLast? = some ""
  · rw [if_pos hempty] at h ⊢
    by_cases hlength : 2 ≤ list.length
    · rw [if_pos (by simp [hlength, hempty]), ← List.map_dropLast]
      exact withoutLone_of_ne fun heq => h (hlone _ heq)
    · rw [if_neg (by simp [hlength])]
      have hroot : list = [""] := by
        match list, hempty with
        | [s], hempty => simpa using hempty
        | s :: s' :: rest, _ => simp at hlength
      rw [hroot]
      rfl
  · rw [if_neg hempty] at h ⊢
    rw [if_neg (by simp [hempty])]
    exact withoutLone_of_ne fun heq => h (hlone _ heq)

/-- Texts that can be segments go one behind the other. -/
lemma foldl_pushSegment (scheme : String) (raws : List (List Char)) :
    ∀ segments : List (List Char), segments ≠ [[]] → (segments = [] → raws.head? ≠ some []) →
      (∀ raw ∈ raws, IsSegment raw) →
      (scheme = "file" →
        IsTidy (segments ++ raws.map (Percent.encode (segmentSet scheme)))) →
      raws.foldl (pushSegment scheme) segments =
        segments ++ raws.map (Percent.encode (segmentSet scheme)) := by
  induction raws with
  | nil => simp
  | cons raw rest ih =>
    intro segments hlone hfirst hsegment hfile
    have hpush := pushSegment_of_isSegment scheme segments (hsegment raw List.mem_cons_self)
    rw [withoutLone_of_ne hlone] at hpush
    have hfile' : scheme = "file" →
        IsTidy (segments ++ [Percent.encode (segmentSet scheme) raw]) := by
      intro hscheme
      refine (hfile hscheme).of_head? ?_
      cases segments <;> rfl
    rw [List.foldl_cons, hpush hfile', ih, List.append_assoc]
    · rfl
    · intro heq
      obtain ⟨rfl, hempty⟩ := List.append_eq_singleton_iff.mp heq |>.resolve_right (by simp)
      have hraw : raw = [] := Percent.encode_injective (segmentSet_percent scheme)
        (List.cons.inj hempty).1
      exact hfirst rfl (by rw [hraw]; rfl)
    · simp
    · exact fun r hr => hsegment r (List.mem_cons_of_mem _ hr)
    · intro hscheme
      rw [List.append_assoc]
      exact hfile hscheme

/-- The texts become segments behind those of the URL, and nothing else is changed. -/
lemma append?_of_isSegment {u : Url} {raw : String} {rest : List String} (hpath : u.isFlat = false)
    (hsegment : ∀ r ∈ raw :: rest, IsSegment r.toList) (hlone : u.segmentsToExtend ≠ [""])
    (hfirst : u.segmentsToExtend = [] → raw ≠ "")
    (hfile : u.scheme = "file" → IsTidy ((u.segmentsToExtend ++ [raw]).map String.toList)) :
    u.append? (raw :: rest) = some { u with
      path := .segments (u.segmentsToExtend ++ (raw :: rest).map (encodeSegment u.scheme)) } := by
  obtain ⟨list, hlist⟩ : ∃ list, u.path = .segments list := by
    unfold isFlat at hpath
    cases hlist : u.path with
    | flat text =>
      rw [hlist] at hpath
      cases hpath
    | segments list => exact ⟨list, rfl⟩
  have hextend : u.segmentsToExtend = if list.getLast? = some "" then list.dropLast else list := by
    rw [segmentsToExtend, pathSegments, hlist]
  have hstart := withoutLone_dropEmptyLast list (by rwa [← hextend])
  rw [← hextend] at hstart
  have hne : u.segmentsToExtend.map String.toList ≠ [[]] := by
    intro heq
    obtain ⟨s, rest, hown, hs, hrest⟩ := List.map_eq_cons_iff.mp heq
    rw [String.toList_eq_nil_iff.mp hs, List.map_eq_nil_iff.mp hrest] at hown
    exact hlone hown
  have hfile' : u.scheme = "file" → IsTidy (u.segmentsToExtend.map String.toList ++
      [Percent.encode (segmentSet u.scheme) raw.toList]) := by
    intro hscheme
    have htidy := hfile hscheme
    rw [List.map_append] at htidy
    exact htidy.encode
  -- The lone empty segment of the root counts for nothing from the first text on.
  have hpush : pushSegment u.scheme (dropEmptyLast (list.map String.toList)) raw.toList =
      pushSegment u.scheme (u.segmentsToExtend.map String.toList) raw.toList := by
    have hraw := hsegment raw List.mem_cons_self
    rw [pushSegment_of_isSegment _ _ hraw (by rwa [hstart]), hstart,
      pushSegment_of_isSegment _ _ hraw (by rwa [withoutLone_of_ne hne]), withoutLone_of_ne hne]
  have hfold := foldl_pushSegment u.scheme ((raw :: rest).map String.toList)
    (u.segmentsToExtend.map String.toList) hne ?first ?segment ?file
  case first =>
    intro hnone hempty
    refine hfirst (List.map_eq_nil_iff.mp hnone) (String.toList_eq_nil_iff.mp ?_)
    exact Option.some.inj hempty
  case segment =>
    intro r hr
    obtain ⟨r', hr', rfl⟩ := List.mem_map.mp hr
    exact hsegment r' hr'
  case file =>
    intro hscheme
    refine (hfile' hscheme).of_head? ?_
    cases u.segmentsToExtend <;> rfl
  unfold append?
  rw [hlist]
  dsimp only
  rw [← List.foldl_map, List.map_cons, List.foldl_cons, hpush, ← List.foldl_cons, ← List.map_cons,
    hfold, List.map_append, List.map_map, List.map_map, List.map_map]
  have hown : String.ofList ∘ String.toList = id := funext fun s => String.ofList_toList
  rw [hown, List.map_id]
  rfl

/-! ### A segment in a text -/

/-- The text of a URL tells a segment of it, if the others are known: what is around it does not depend
on it. -/
lemma text_segment_injective {u : Url} {own behind : List String} {segment segment' : String}
    (hfirst : own = [] → segment ≠ "" ∧ segment' ≠ "")
    (h : ({ u with path := .segments (own ++ segment :: behind) } : Url).text =
      ({ u with path := .segments (own ++ segment' :: behind) } : Url).text) : segment = segment' := by
  have hguard : ({ u with path := .segments (own ++ segment :: behind) } : Url).pathGuard =
      ({ u with path := .segments (own ++ segment' :: behind) } : Url).pathGuard := by
    unfold pathGuard
    dsimp only
    cases own with
    | nil =>
      obtain ⟨hne, hne'⟩ := hfirst rfl
      cases u.authority <;> simp [hne, hne']
    | cons first more =>
      by_cases hempty : first = ""
      · subst hempty
        cases u.authority <;> cases more <;> rfl
      · cases u.authority <;> simp [hempty]
  have hpath : ∀ s, (Path.segments (own ++ s :: behind)).text =
      String.join (own.map ("/" ++ ·)) ++ ("/" ++ s ++ String.join (behind.map ("/" ++ ·))) := by
    intro s
    rw [Path.text, List.map_append, String.join_append, List.map_cons, String.join_cons]
  simp only [Url.text, requestText, base, queryText] at h
  rw [hguard, hpath, hpath] at h
  simpa using h

end Reindex.Url
