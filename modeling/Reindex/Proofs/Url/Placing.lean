import Reindex.Proofs.Outcome
import Reindex.Proofs.Text.Alphanumeric
import Reindex.Proofs.Url.Cutting
import Reindex.Proofs.Url.Percent
import Reindex.Url.Parser

/-!
# Pieces that are placed

A piece that is made of dots leads to another place; every other piece is a segment of the path. So the
segments of a path are settled: placed once more they stay where they are, and what is placed behind them
does not change them, unless it leads out of its own part of the path.
-/

namespace Reindex.Url

open Text

variable {done own extra pieces segments : List (List Char)} {piece cs : List Char}

/-! ### Segments -/

/-- The piece stands for a place and not for a segment. -/
def leads (piece : List Char) : Bool := isDotDot piece || isDot piece

/-- The piece has no slashes in it, and nothing that is encoded in a path. -/
structure IsWritten (piece : List Char) : Prop where
  plain : ∀ c ∈ piece, c.toNat < 0x80 ∧ Percent.path c = false
  whole : ∀ c ∈ piece, isSlash c = false

/-- A segment as it is in a path. -/
structure IsSettled (segment : List Char) : Prop extends IsWritten segment where
  stays : leads segment = false

lemma isSettled_nil : IsSettled [] :=
  ⟨⟨fun _ hc => absurd hc List.not_mem_nil, fun _ hc => absurd hc List.not_mem_nil⟩, rfl⟩

/-- Letters and digits are written as they are. -/
lemma path_of_isAlphanum {c : Char} (h : c.isAlphanum = true) :
    Percent.path c = false ∧ isSlash c = false := by
  have hall : ∀ c : Char, c.toNat < 0x80 → c.isAlphanum = true →
      Percent.path c = false ∧ isSlash c = false := forall_ascii (by decide +kernel)
  exact hall c (toNat_lt_of_isAlphanum h) h

lemma isWritten_encode (h : ∀ c ∈ cs, isSlash c = false) :
    IsWritten (Percent.encode Percent.path cs) := by
  have hall : ∀ c ∈ Percent.encode Percent.path cs,
      (c.toNat < 0x80 ∧ Percent.path c = false) ∧ isSlash c = false := by
    intro c hc
    rcases Percent.mem_encode hc with (rfl | hc) | ⟨hmem, hplain⟩
    · decide
    · exact ⟨⟨toNat_lt_of_isAlphanum hc, (path_of_isAlphanum hc).1⟩, (path_of_isAlphanum hc).2⟩
    · exact ⟨hplain, h c hmem⟩
  exact ⟨fun c hc => (hall c hc).1, fun c hc => (hall c hc).2⟩

lemma IsWritten.encode (h : IsWritten piece) : Percent.encode Percent.path piece = piece := by
  have hchar : ∀ c ∈ piece, Percent.encodeChar Percent.path c = [c] := by
    intro c hc
    obtain ⟨hsmall, hplain⟩ := h.plain c hc
    simp [Percent.encodeChar, hplain, Nat.not_le.mpr hsmall]
  rw [Percent.encode, List.flatMap_congr hchar, List.flatMap_singleton']

/-- A written piece has no characters that do not count in a URL, since they would be encoded. -/
lemma IsWritten.counted (h : IsWritten piece) : ∀ c ∈ piece, isSkipped c = false := by
  intro c hc
  by_contra hskipped
  rw [Bool.not_eq_false] at hskipped
  have hplain := (h.plain c hc).2
  simp only [isSkipped, Bool.or_eq_true, decide_eq_true_eq] at hskipped
  rcases hskipped with (rfl | rfl) | rfl <;> cases hplain

/-! ### The text of a path -/

/-- The text of a path with these segments. -/
def spread (segments : List (List Char)) : List Char := segments.flatMap ('/' :: ·)

@[simp] lemma spread_nil : spread [] = [] := rfl

@[simp] lemma spread_cons (segment : List Char) (more : List (List Char)) :
    spread (segment :: more) = '/' :: (segment ++ spread more) := rfl

@[simp] lemma spread_append (segments more : List (List Char)) :
    spread (segments ++ more) = spread segments ++ spread more := List.flatMap_append

lemma text_segments (segments : List (List Char)) :
    (Path.segments (segments.map String.ofList)).text = String.ofList (spread segments) := by
  induction segments with
  | nil => rfl
  | cons segment more ih =>
    rw [Path.text] at ih ⊢
    rw [List.map_cons, List.map_cons, String.join_cons, ih, spread_cons, String.ofList_cons,
      String.ofList_append, String.append_assoc]
    rfl

/-- A text that is cut and encoded piece by piece is encoded. -/
lemma spread_encode_cutAt (cs : List Char) :
    spread ((cutAt (· = '/') cs).map (Percent.encode Percent.path)) =
      '/' :: Percent.encode Percent.path cs := by
  have hslash : ∀ piece, '/' :: Percent.encode Percent.path piece =
      Percent.encode Percent.path ('/' :: piece) := fun piece => rfl
  rw [spread, List.flatMap_map, hslash cs, ← flatMap_cutAt, Percent.encode, List.flatMap_assoc]
  rfl

lemma exists_spread_append (own : List (List Char)) (cs : List Char) :
    ∃ rest, spread own ++ '/' :: cs = '/' :: rest := by
  cases own with
  | nil => exact ⟨cs, rfl⟩
  | cons segment more => exact ⟨_, rfl⟩

/-- Behind the text of a path a slash begins a piece. -/
lemma cutAt_spread (h : ∀ segment ∈ own, ∀ c ∈ segment, isSlash c = false) (cs : List Char) :
    cutAt isSlash (spread own ++ '/' :: cs) = [] :: (own ++ cutAt isSlash cs) := by
  induction own with
  | nil => exact cutAt_cons_of_pos rfl cs
  | cons segment own ih =>
    have ih := ih fun s hs => h s (List.mem_cons_of_mem segment hs)
    obtain ⟨rest, hrest⟩ := exists_spread_append own cs
    rw [hrest, cutAt_cons_of_pos rfl] at ih
    have hspread : spread (segment :: own) ++ '/' :: cs = '/' :: (segment ++ '/' :: rest) := by
      rw [← hrest]
      simp [spread]
    rw [hspread, cutAt_cons_of_pos rfl, cutAt_append_cons (h segment List.mem_cons_self) rfl,
      (List.cons.inj ih).2]
    rfl

/-! ### Placing -/

lemma mem_of_mem_leave (h : piece ∈ leave done) : piece ∈ done := by
  unfold leave at h
  split at h
  · split at h
    · exact h
    · exact List.dropLast_subset done h
  · cases h

/-- A segment goes behind those there are. -/
lemma place_cons_of_stays (h : leads piece = false) (done pieces : List (List Char)) :
    place done (piece :: pieces) = place (done ++ [piece]) pieces := by
  rw [leads, Bool.or_eq_false_iff] at h
  cases pieces <;> simp [place, h]

lemma place_append (h : ∀ piece ∈ own, leads piece = false) (done pieces : List (List Char)) :
    place done (own ++ pieces) = place (done ++ own) pieces := by
  induction own generalizing done with
  | nil => rw [List.nil_append, List.append_nil]
  | cons piece own ih =>
    rw [List.cons_append, place_cons_of_stays (h piece List.mem_cons_self),
      ih (fun p hp => h p (List.mem_cons_of_mem piece hp)), List.append_assoc]
    rfl

/-- Where nothing leads to another place all pieces become segments. -/
lemma place_of_stays (h : ∀ piece ∈ pieces, leads piece = false) (done : List (List Char)) :
    place done pieces = done ++ pieces := by
  have hplace := place_append h done []
  rwa [List.append_nil] at hplace

/-- Segments and pieces that are written become segments that are settled. -/
lemma isSettled_of_mem_place (hdone : ∀ segment ∈ done, IsSettled segment)
    (hpieces : ∀ piece ∈ pieces, IsWritten piece) :
    ∀ segment ∈ place done pieces, IsSettled segment := by
  have hleave : ∀ {front : List (List Char)}, (∀ segment ∈ front, IsSettled segment) →
      ∀ segment ∈ leave front, IsSettled segment :=
    fun hfront segment hs => hfront segment (mem_of_mem_leave hs)
  have hconcat : ∀ {front : List (List Char)} {last : List Char},
      (∀ segment ∈ front, IsSettled segment) → IsSettled last →
      ∀ segment ∈ front ++ [last], IsSettled segment := by
    intro front last hfront hlast segment hs
    rcases List.mem_append.mp hs with hs | hs
    · exact hfront segment hs
    · rwa [List.mem_singleton.mp hs]
  fun_induction place done pieces with
  | case1 done => exact hdone
  | case2 done last hdots => exact hconcat (hleave hdone) isSettled_nil
  | case3 done last hdots hdot => exact hconcat hdone isSettled_nil
  | case4 done last hdots hdot =>
    exact hconcat hdone ⟨hpieces last List.mem_cons_self, by simp [leads, hdots, hdot]⟩
  | case5 done piece more hmore hdots ih =>
    exact ih (hleave hdone) fun p hp => hpieces p (List.mem_cons_of_mem piece hp)
  | case6 done piece more hmore hdots hdot ih =>
    exact ih hdone fun p hp => hpieces p (List.mem_cons_of_mem piece hp)
  | case7 done piece more hmore hdots hdot ih =>
    have hpiece : IsSettled piece :=
      ⟨hpieces piece List.mem_cons_self, by simp [leads, hdots, hdot]⟩
    exact ih (hconcat hdone hpiece) fun p hp => hpieces p (List.mem_cons_of_mem piece hp)

lemma length_pos_of_leads (h : leads piece = true) : 0 < piece.length := by
  cases piece with
  | nil => cases h
  | cons c rest => exact Nat.succ_pos rest.length

lemma length_spread_leave_le (done : List (List Char)) :
    (spread (leave done)).length ≤ (spread done).length := by
  unfold leave
  split
  · rename_i last hlast
    split
    · exact Nat.le_refl _
    · have hdone := List.dropLast_append_getLast? last hlast
      calc (spread done.dropLast).length
        _ ≤ (spread done.dropLast).length + (spread [last]).length := Nat.le_add_right _ _
        _ = (spread done).length := by rw [← List.length_append, ← spread_append, hdone]
  · exact Nat.zero_le _

/-- With every piece that leads to another place the path gets shorter. -/
lemma length_spread_place_le (done pieces : List (List Char)) :
    (spread (place done pieces)).length + pieces.countP leads ≤ (spread (done ++ pieces)).length := by
  have hleave := length_spread_leave_le
  fun_induction place done pieces with
  | case1 done => simp
  | case2 done last hdots =>
    have hleads : leads last = true := by simp [leads, hdots]
    have hlast := length_pos_of_leads hleads
    have hdone := hleave done
    simp [hleads] at *
    omega
  | case3 done last hdots hdot =>
    have hleads : leads last = true := by simp [leads, hdot]
    have hlast := length_pos_of_leads hleads
    simp [hleads] at *
    omega
  | case4 done last hdots hdot =>
    have hstays : leads last = false := by simp [leads, hdots, hdot]
    simp [hstays]
  | case5 done piece more hmore hdots ih =>
    have hleads : leads piece = true := by simp [leads, hdots]
    have hpiece := length_pos_of_leads hleads
    have hdone := hleave done
    simp [hleads] at *
    omega
  | case6 done piece more hmore hdots hdot ih =>
    have hleads : leads piece = true := by simp [leads, hdot]
    have hpiece := length_pos_of_leads hleads
    simp [hleads] at *
    omega
  | case7 done piece more hmore hdots hdot ih =>
    have hstays : leads piece = false := by simp [leads, hdots, hdot]
    simp [hstays] at *
    omega

/-! ### Staying inside -/

/-- No two dots take back more than the pieces in front of them gave, if those of before gave `depth`
segments. -/
def staysInside (depth : Nat) : List (List Char) → Bool
  | [] => true
  | piece :: more =>
    if isDotDot piece then 0 < depth && staysInside (depth - 1) more
    else staysInside (if isDot piece then depth else depth + 1) more

/-- One step back takes at most one segment. -/
lemma exists_leave_append (own : List (List Char)) (h : 0 < extra.length) :
    ∃ left, leave (own ++ extra) = own ++ left ∧ extra.length ≤ left.length + 1 := by
  have hne : extra ≠ [] := List.ne_nil_of_length_pos h
  unfold leave
  rw [List.getLast?_append_of_ne_nil _ hne]
  cases hlast : extra.getLast? with
  | none => exact absurd (List.getLast?_eq_none_iff.mp hlast) hne
  | some last =>
    by_cases hdrive : isDrive last = true
    · exact ⟨extra, by simp [hdrive]⟩
    · exact ⟨extra.dropLast, by simp [hdrive, List.dropLast_append_of_ne_nil hne], by simp; omega⟩

/-- Pieces that stay inside leave the segments in front of them alone. -/
lemma exists_place_append (own : List (List Char)) {depth : Nat} (hdepth : depth ≤ extra.length)
    (h : staysInside depth pieces = true) :
    ∃ more, place (own ++ extra) pieces = own ++ more ∧ (pieces ≠ [] → more ≠ []) := by
  induction pieces generalizing extra depth with
  | nil => exact ⟨extra, rfl, fun hne => absurd rfl hne⟩
  | cons piece pieces ih =>
    rw [staysInside] at h
    split at h
    · rename_i hdots
      rw [Bool.and_eq_true, decide_eq_true_eq] at h
      obtain ⟨left, hleave, hleft⟩ := exists_leave_append own (Nat.lt_of_lt_of_le h.1 hdepth)
      cases pieces with
      | nil =>
        refine ⟨left ++ [[]], ?_, fun _ => by simp⟩
        rw [place, if_pos hdots, hleave, List.append_assoc]
      | cons next pieces =>
        have hdepth : depth - 1 ≤ left.length := by omega
        obtain ⟨more, hplace, hmore⟩ := ih hdepth h.2
        refine ⟨more, ?_, fun _ => hmore (List.cons_ne_nil next pieces)⟩
        rw [place, if_pos hdots, hleave, hplace]
        exact nofun
    · rename_i hdots
      split at h
      · rename_i hdot
        cases pieces with
        | nil =>
          refine ⟨extra ++ [[]], ?_, fun _ => by simp⟩
          rw [place, if_neg hdots, if_pos hdot, List.append_assoc]
        | cons next pieces =>
          obtain ⟨more, hplace, hmore⟩ := ih hdepth h
          refine ⟨more, ?_, fun _ => hmore (List.cons_ne_nil next pieces)⟩
          rw [place, if_neg hdots, if_pos hdot, hplace]
          exact nofun
      · rename_i hdot
        have hstays : leads piece = false := by simp [leads, hdots, hdot]
        rw [place_cons_of_stays hstays, List.append_assoc]
        cases pieces with
        | nil => exact ⟨extra ++ [piece], rfl, fun _ => by simp⟩
        | cons next pieces =>
          have hdepth : depth + 1 ≤ (extra ++ [piece]).length := by simpa using hdepth
          obtain ⟨more, hplace, hmore⟩ := ih hdepth h
          exact ⟨more, hplace, fun _ => hmore (List.cons_ne_nil next pieces)⟩

/-! ### Paths of URLs -/

/-- Under `http` and `https` a path is cut at all slashes, and the pieces are encoded and placed. -/
lemma pathOf_eq {scheme : String} (hscheme : scheme = "http" ∨ scheme = "https") (raw : List Char) :
    pathOf scheme raw = match raw.filter (!isSkipped ·) with
      | [] => [[]]
      | c :: rest => place [] ((cutAt isSlash (if isSlash c then rest else c :: rest)).map
          (Percent.encode Percent.path)) := by
  have hspecial : isSpecial scheme = true ∧ scheme ≠ "file" := by
    rcases hscheme with rfl | rfl <;> decide
  unfold pathOf
  rw [hspecial.1, if_neg hspecial.2]
  cases raw.filter (!isSkipped ·) <;> rfl

lemma isSettled_of_mem_pathOf {scheme : String} (hscheme : scheme = "http" ∨ scheme = "https")
    (raw : List Char) : ∀ segment ∈ pathOf scheme raw, IsSettled segment := by
  rw [pathOf_eq hscheme]
  split
  · intro segment hs
    rw [List.mem_singleton.mp hs]
    exact isSettled_nil
  · apply isSettled_of_mem_place (fun segment hs => absurd hs List.not_mem_nil)
    intro piece hpiece
    obtain ⟨cut, hcut, rfl⟩ := List.mem_map.mp hpiece
    exact isWritten_encode fun c hc => (mem_of_mem_cutAt hcut hc).1

/-- A raw text behind the text of settled segments: these stay, and its pieces are placed behind them. -/
lemma pathOf_spread {scheme : String} (hscheme : scheme = "http" ∨ scheme = "https")
    (h : ∀ segment ∈ own, IsSettled segment) (raw : List Char) :
    pathOf scheme (spread own ++ '/' :: raw) =
      place own ((cutAt isSlash (raw.filter (!isSkipped ·))).map (Percent.encode Percent.path)) := by
  have hcounted : (spread own).filter (!isSkipped ·) = spread own := by
    rw [List.filter_eq_self]
    intro c hc
    obtain ⟨segment, hs, hc⟩ := List.mem_flatMap.mp hc
    rcases List.mem_cons.mp hc with rfl | hc
    · rfl
    · rw [(h segment hs).counted c hc]
      rfl
  have hfilter : (spread own ++ '/' :: raw).filter (!isSkipped ·) =
      spread own ++ '/' :: raw.filter (!isSkipped ·) := by
    rw [List.filter_append, hcounted]
    rfl
  have hencode : own.map (Percent.encode Percent.path) = own := by
    conv_rhs => rw [← List.map_id own]
    exact List.map_congr_left fun segment hs => (h segment hs).encode
  have hcut := cutAt_spread (fun segment hs => (h segment hs).whole) (raw.filter (!isSkipped ·))
  obtain ⟨rest, hrest⟩ := exists_spread_append own (raw.filter (!isSkipped ·))
  have hslash : isSlash '/' = true := rfl
  rw [hrest, cutAt_cons_of_pos hslash] at hcut
  rw [pathOf_eq hscheme, hfilter, hrest]
  dsimp only
  rw [if_pos hslash, (List.cons.inj hcut).2, List.map_append, hencode,
    place_append fun segment hs => (h segment hs).stays]
  rfl

lemma exists_segmentsOf_of_parts? {scheme : String} (hscheme : scheme = "http" ∨ scheme = "https")
    {more : Bool} {authority : Option Authority} {path : Path}
    (h : parts? scheme more cs = .ok (authority, path)) : ∃ raw, path = segmentsOf scheme raw := by
  have hspecial : isSpecial scheme = true ∧ scheme ≠ "file" := by
    rcases hscheme with rfl | rfl <;> decide
  unfold parts? at h
  rw [if_neg hspecial.2, if_pos hspecial.1] at h
  obtain ⟨a, -, h⟩ := bind_eq_ok.mp h
  cases h
  exact ⟨_, rfl⟩

/-- Under `http` and `https` a path is a list of segments. -/
lemma exists_segmentsOf_of_parse {s : String} {u : Url} (h : parse s = .ok u)
    (hscheme : u.scheme = "http" ∨ u.scheme = "https") : ∃ raw, u.path = segmentsOf u.scheme raw := by
  unfold parse at h
  dsimp only at h
  split at h
  · obtain ⟨_, hcut, h⟩ := bind_eq_ok.mp h
    cases hcut
    obtain ⟨⟨authority, path⟩, hparts, h⟩ := bind_eq_ok.mp h
    cases h
    exact exists_segmentsOf_of_parts? hscheme hparts
  · cases h

/-- The segments of a URL that was read are settled. -/
lemma exists_isSettled_of_parse {s : String} {u : Url} (h : parse s = .ok u)
    (hscheme : u.scheme = "http" ∨ u.scheme = "https") :
    ∃ segments : List (List Char), u.path = .segments (segments.map String.ofList) ∧
      ∀ segment ∈ segments, IsSettled segment := by
  obtain ⟨raw, hpath⟩ := exists_segmentsOf_of_parse h hscheme
  exact ⟨_, hpath, isSettled_of_mem_pathOf hscheme raw⟩

end Reindex.Url
