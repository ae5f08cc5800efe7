import Mathlib.Data.List.Induction
import Reindex.Proofs.Text.Blank
import Reindex.Proofs.Url.Placing
import Reindex.Target.Spec

/-!
# Joining a path

A path is joined to a URL behind the path that the URL has. Nothing else of the URL changes, and the path
that it had stays in front, if no two dots lead out of what is joined.
-/

namespace Reindex.Url

open Text

variable {segments : List (List Char)} {cs : List Char}

/-! ### Slashes at the joint -/

lemma head?_withoutFirstSlashes (cs : List Char) : (withoutFirstSlashes cs).head? ≠ some '/' := by
  intro h
  have hkept := List.head?_dropWhile_not (fun c => decide (c = '/')) cs
  rw [withoutFirstSlashes] at h
  rw [h] at hkept
  exact absurd hkept (by decide)

lemma getLast?_withoutLastSlashes (cs : List Char) : (withoutLastSlashes cs).getLast? ≠ some '/' := by
  rw [withoutLastSlashes, dropRightWhile, List.getLast?_reverse]
  exact head?_withoutFirstSlashes cs.reverse

lemma withoutLastSlashes_concat_slash (cs : List Char) :
    withoutLastSlashes (cs ++ ['/']) = withoutLastSlashes cs := by
  simp [withoutLastSlashes, dropRightWhile]

lemma withoutLastSlashes_concat {c : Char} (h : c ≠ '/') (cs : List Char) :
    withoutLastSlashes (cs ++ [c]) = cs ++ [c] := by
  simp [withoutLastSlashes, dropRightWhile, h]

/-- Without slashes at its end a path has the same segments, but for empty ones at the end. -/
lemma exists_withoutLastSlashes_spread (h : ∀ segment ∈ segments, '/' ∉ segment) :
    ∃ own, withoutLastSlashes (spread segments) = spread own ∧ ∀ segment ∈ own, segment ∈ segments := by
  induction segments using List.reverseRecOn with
  | nil => exact ⟨[], rfl, nofun⟩
  | append_singleton segments last ih =>
    by_cases hlast : last = []
    · subst hlast
      obtain ⟨own, hown, hmem⟩ := ih fun segment hs => h segment (List.mem_append_left _ hs)
      refine ⟨own, ?_, fun segment hs => List.mem_append_left _ (hmem segment hs)⟩
      have hspread : spread (segments ++ [[]]) = spread segments ++ ['/'] := by simp
      rw [hspread, withoutLastSlashes_concat_slash, hown]
    · refine ⟨segments ++ [last], ?_, fun segment hs => hs⟩
      obtain ⟨front, c, rfl⟩ := List.eq_nil_or_concat' last |>.resolve_left hlast
      have hc : c ≠ '/' := by
        rintro rfl
        exact h (front ++ ['/']) (by simp) (by simp)
      have hspread : spread (segments ++ [front ++ [c]]) = spread segments ++ '/' :: front ++ [c] := by
        simp
      rw [hspread, withoutLastSlashes_concat hc]

/-! ### The path that is joined -/

/-- A path as it counts in a URL: without tabs and line breaks, and with its backslashes as slashes. -/
def seen (cs : List Char) : List Char :=
  (cs.filter (!isSkipped ·)).map fun c => if c = '\\' then '/' else c

/-- The path that is joined, without the slashes at its front. -/
def relativePath (path : String) : List Char := seen (withoutFirstSlashes path.toList)

/-- The pieces of the path that is joined. -/
def relativePieces (path : String) : List (List Char) :=
  (cutAt (· = '/') (relativePath path)).map (Percent.encode Percent.path)

/-- A path in which all characters count, and none for another one, is joined as it is. -/
lemma relativePath_of_plain {path : String} (h : ∀ c ∈ path.toList, isSkipped c = false ∧ c ≠ '\\') :
    relativePath path = withoutFirstSlashes path.toList := by
  have hall : ∀ c ∈ withoutFirstSlashes path.toList, isSkipped c = false ∧ c ≠ '\\' :=
    fun c hc => h c ((List.dropWhile_sublist _).subset hc)
  generalize hcs : withoutFirstSlashes path.toList = cs at hall
  have hfilter : cs.filter (!isSkipped ·) = cs := by
    rw [List.filter_eq_self]
    intro c hc
    rw [(hall c hc).1]
    rfl
  rw [relativePath, hcs, seen, hfilter]
  conv_rhs => rw [← List.map_id cs]
  exact List.map_congr_left fun c hc => if_neg (hall c hc).2

lemma cutAt_seen (cs : List Char) :
    cutAt (· = '/') (seen cs) = cutAt isSlash (cs.filter (!isSkipped ·)) := by
  apply cutAt_map
  · intro c hc
    rw [isSlash, Bool.or_eq_false_iff, decide_eq_false_iff_not, decide_eq_false_iff_not] at hc
    exact if_neg hc.2
  · intro c
    by_cases hc : c = '\\'
    · subst hc
      rfl
    · simp [isSlash, hc]

/-- A slash at the front is one that was there before the encoding. -/
lemma head?_encode_eq_slash_iff (cs : List Char) :
    (Percent.encode Percent.path cs).head? = some '/' ↔ cs.head? = some '/' := by
  cases cs with
  | nil => exact Iff.rfl
  | cons c rest =>
    constructor
    · intro hhead
      obtain ⟨first, more, hfirst⟩ :=
        List.exists_cons_of_ne_nil (Percent.encodeChar_ne_nil Percent.path c)
      rw [Percent.encode_cons, hfirst] at hhead
      have hmem : '/' ∈ Percent.encode Percent.path [c] := by
        rw [Percent.encode_cons, hfirst, ← Option.some.inj hhead]
        simp
      rcases Percent.mem_encode hmem with hescape | ⟨hmem, -⟩
      · exact absurd hescape (by decide)
      · exact congrArg some (List.mem_singleton.mp hmem).symm
    · intro hhead
      obtain rfl : c = '/' := Option.some.inj hhead
      rfl

/-- The segments of the URL come first, and the pieces of the path are placed behind them. -/
lemma joinPath_eq {base : Url} (hscheme : base.scheme = "http" ∨ base.scheme = "https")
    (hpath : base.path = .segments (segments.map String.ofList))
    (h : ∀ segment ∈ segments, IsSettled segment) (path : String) :
    ∃ own, withoutLastSlashes base.path.text.toList = spread own ∧
      (∀ segment ∈ own, leads segment = false) ∧
      base.joinPath path = { base with
        path := .segments ((place own (relativePieces path)).map String.ofList) } := by
  have htext : base.path.text.toList = spread segments := by
    rw [hpath, text_segments, String.toList_ofList]
  obtain ⟨own, hown, hmem⟩ := exists_withoutLastSlashes_spread fun segment hs hslash =>
    Bool.noConfusion ((h segment hs).whole '/' hslash)
  have hsettled : ∀ segment ∈ own, IsSettled segment := fun segment hs => h segment (hmem segment hs)
  refine ⟨own, by rw [htext, hown], fun segment hs => (hsettled segment hs).stays, ?_⟩
  unfold joinPath withPath
  rw [htext, hown, String.toList_ofList, pathOf_spread hscheme hsettled, hpath, relativePieces,
    relativePath, cutAt_seen]

/-- Nothing but the path of a URL changes when a path is joined to it. Where no slash begins the joined path
as it counts in a URL, the path of the result is the path of the URL, one slash and the joined path, exactly
if no piece of the joined path is made of dots; and the result is below the path of the URL, if no two dots
lead out of the joined path. -/
theorem joinPath_of_parse {text path : String} {base : Url} (hbase : parse text = .ok base)
    (hscheme : base.scheme = "http" ∨ base.scheme = "https") :
    ∃ joined : Path, base.joinPath path = { base with path := joined } ∧
      ((relativePath path).head? ≠ some '/' →
        (withoutLastSlashes base.path.text.toList).getLast? ≠ some '/' ∧
        (Percent.encode Percent.path (relativePath path)).head? ≠ some '/' ∧
        (joined.text.toList = withoutLastSlashes base.path.text.toList ++
            '/' :: Percent.encode Percent.path (relativePath path) ↔
          ∀ piece ∈ relativePieces path, isDot piece = false ∧ isDotDot piece = false) ∧
        (staysInside 0 (relativePieces path) = true →
          ∃ more, joined.text.toList = withoutLastSlashes base.path.text.toList ++ '/' :: more)) ∧
      ((∀ c ∈ path.toList, isSkipped c = false ∧ c ≠ '\\') →
        relativePath path = withoutFirstSlashes path.toList ∧ (relativePath path).head? ≠ some '/') := by
  obtain ⟨segments, hsegments, hsettled⟩ := exists_isSettled_of_parse hbase hscheme
  obtain ⟨own, hown, hstays, hjoin⟩ := joinPath_eq hscheme hsegments hsettled path
  refine ⟨_, hjoin, fun hfront => ⟨getLast?_withoutLastSlashes _,
    fun hhead => hfront ((head?_encode_eq_slash_iff _).mp hhead), ?verbatim, ?below⟩, ?plain⟩
  case verbatim =>
    have hspread : spread own ++ '/' :: Percent.encode Percent.path (relativePath path) =
        spread (own ++ relativePieces path) := by
      rw [spread_append, relativePieces, spread_encode_cutAt]
    rw [text_segments, String.toList_ofList, hown, hspread]
    constructor
    · intro heq piece hpiece
      -- A piece that leads to another place makes the path shorter.
      have hlength := length_spread_place_le own (relativePieces path)
      rw [heq] at hlength
      have hnone : (relativePieces path).countP leads = 0 := by omega
      have hpiece := List.countP_eq_zero.mp hnone piece hpiece
      rw [Bool.not_eq_true, leads, Bool.or_eq_false_iff] at hpiece
      exact ⟨hpiece.2, hpiece.1⟩
    · intro hdots
      rw [place_of_stays]
      intro piece hpiece
      simp [leads, hdots piece hpiece]
  case below =>
    intro hinside
    have hdepth : 0 ≤ ([] : List (List Char)).length := Nat.le_refl 0
    obtain ⟨more, hplace, hmore⟩ := exists_place_append own hdepth hinside
    rw [List.append_nil] at hplace
    obtain ⟨first, rest, rfl⟩ := List.exists_cons_of_ne_nil (hmore (by simp [relativePieces, cutAt_ne_nil]))
    exact ⟨_, by rw [text_segments, String.toList_ofList, hplace, hown, spread_append, spread_cons]⟩
  case plain =>
    intro hplain
    have hsame := relativePath_of_plain hplain
    rw [hsame]
    exact ⟨rfl, head?_withoutFirstSlashes path.toList⟩

/-- Slashes on both sides, and signs that mean something elsewhere in a URL. -/
theorem joinPath_of_parse_slashes :
    let base : Url := ⟨"https", some ⟨"u", some "p", .domain "h", some 8443⟩,
      .segments ["a", "", ""], some "q", some "f"⟩
    parse "https://u:p@h:8443/a//?q#f" = .ok base ∧ (base.scheme = "http" ∨ base.scheme = "https") ∧
      ∃ joined : Path, base.joinPath "//b/../c?d#é" = { base with path := joined } ∧
        (relativePath "//b/../c?d#é").head? ≠ some '/' ∧
        (withoutLastSlashes base.path.text.toList).getLast? ≠ some '/' ∧
        (Percent.encode Percent.path (relativePath "//b/../c?d#é")).head? ≠ some '/' ∧
        (joined.text.toList = withoutLastSlashes base.path.text.toList ++
            '/' :: Percent.encode Percent.path (relativePath "//b/../c?d#é") ↔
          ∀ piece ∈ relativePieces "//b/../c?d#é", isDot piece = false ∧ isDotDot piece = false) ∧
        (∃ more, joined.text.toList = withoutLastSlashes base.path.text.toList ++ '/' :: more) ∧
        relativePath "//b/../c?d#é" = withoutFirstSlashes "//b/../c?d#é".toList := by
  intro base
  have hbase : parse "https://u:p@h:8443/a//?q#f" = .ok base := by decide +kernel
  have hall : "//b/../c?d#é".toList.all (fun c => !isSkipped c && c != '\\') = true := by
    decide +kernel
  obtain ⟨joined, hjoin, hjoint, hplain⟩ := @joinPath_of_parse _ "//b/../c?d#é" _ hbase (.inr rfl)
  obtain ⟨hsame, hfront⟩ := hplain (by simpa using hall)
  obtain ⟨hlast, hhead, hverbatim, hbelow⟩ := hjoint hfront
  exact ⟨hbase, .inr rfl, joined, hjoin, hfront, hlast, hhead, hverbatim, hbelow (by decide +kernel),
    hsame⟩

/-- Two dots lead out of the path that there was. -/
theorem joinPath_leads_out :
    let base : Url := ⟨"https", some ⟨"", none, .domain "h", none⟩, .segments ["a"], none, none⟩
    parse "https://h/a" = .ok base ∧ base.joinPath "../x" = { base with path := .segments ["x"] } ∧
      (base.joinPath "../x").path.text.toList ≠ withoutLastSlashes base.path.text.toList ++
        '/' :: Percent.encode Percent.path (withoutFirstSlashes "../x".toList) := by
  decide +kernel

end Reindex.Url
