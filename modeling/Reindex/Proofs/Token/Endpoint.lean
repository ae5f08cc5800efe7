import Reindex.Proofs.Http.Exchange
import Reindex.Proofs.Url.Path
import Reindex.Token.Endpoint

/-!
# Where tokens are asked for

The tenant is a part of the address of its endpoint, so the address is longer than the tenant.
-/

namespace Reindex

open Http.Request Url

/-- A URL is no shorter than the first segment of its path. -/
lemma Url.utf8ByteSize_le_of_path {u : Url} {segment : String} {rest : List String}
    (h : u.path = .segments (segment :: rest)) : segment.utf8ByteSize ≤ u.text.utf8ByteSize := by
  have htext : u.path.text = "/" ++ segment ++ String.join (rest.map ("/" ++ ·)) := by
    rw [h, Path.text, List.map_cons, String.join_cons]
  simp only [Url.text, Url.requestText, Url.base]
  rw [htext]
  simp only [String.utf8ByteSize_append]
  omega

/-- A URL that is too long cannot be asked for, unless it has credentials that are left out. -/
lemma Http.Request.hasValidUrl_eq_false {r : Request} (h : credentials? r.url = none)
    (hlong : maxUrlLength < r.url.text.utf8ByteSize) : r.hasValidUrl = false := by
  have hsame : r.withoutUserinfo = r := by
    simp only [withoutUserinfo]
    split
    · rename_i heq
      rw [h] at heq
      cases heq
    · rfl
  have hlength : ¬ r.withoutUserinfo.url.text.utf8ByteSize ≤ maxUrlLength := by
    rw [hsame]
    exact Nat.not_le.mpr hlong
  rw [hasValidUrl, decide_eq_false hlength, Bool.and_false]

namespace TokenEndpoint

/-- A tenant of plain characters stands in the path as it is. -/
lemma url_of_isPlainInPath {authority : Url} (hscheme : authority.scheme = "http")
    (hpath : authority.path = .segments [""]) {c : Char} {rest : List Char}
    (h : ∀ x ∈ c :: rest, IsPlainInPath x) :
    url authority (String.ofList (c :: rest)) =
      .ok { authority with path := .segments [String.ofList (c :: rest), "oauth2", "v2.0", "token"] } := by
  have hc := h c List.mem_cons_self
  have hroot : dropEmptyLast ([""].map String.toList) = [[]] := by decide
  have hne : ∀ more, (c :: rest) :: more ≠ [[]] := by simp
  have hpush : ∀ (raw : String) (more : List (List Char)),
      Percent.encode Percent.specialSegment (raw.toList.filter (!isSkipped ·)) = raw.toList →
      isDot raw.toList = false → isDotDot raw.toList = false →
      pushSegment "http" ((c :: rest) :: more) raw.toList = (c :: rest) :: (more ++ [raw.toList]) := by
    intro raw more hencode hdot hdots
    rw [pushSegment_of_encode hencode hdot hdots, if_neg (hne more)]
    rfl
  simp only [url, append?]
  rw [hpath]
  dsimp only
  rw [hroot, hscheme]
  simp only [List.foldl_cons, List.foldl_nil, String.toList_ofList]
  rw [pushSegment_of_encode (encode_of_isPlainInPath h) (isDot_cons hc rest) (isDotDot_cons hc rest),
    if_pos rfl, List.nil_append,
    hpush "oauth2" [] (by decide) (by decide) (by decide),
    hpush "v2.0" _ (by decide) (by decide) (by decide),
    hpush "token" _ (by decide) (by decide) (by decide)]
  simp only [List.nil_append, List.cons_append, List.map_cons, List.map_nil, String.ofList_toList]

/-- No client of a tenant that is too long can ask for a token. -/
lemma hasValidUrl_eq_false_of_lengthy {authority endpoint : Url} (hscheme : authority.scheme = "http")
    (hpath : authority.path = .segments [""]) (hcredentials : credentials? authority = none)
    {c : Char} {rest : List Char} (h : ∀ x ∈ c :: rest, IsPlainInPath x)
    (hlong : maxUrlLength < (String.ofList (c :: rest)).utf8ByteSize)
    (hendpoint : url authority (String.ofList (c :: rest)) = .ok endpoint)
    (pairs : List (String × String)) : (postForm endpoint pairs).hasValidUrl = false := by
  cases (url_of_isPlainInPath hscheme hpath h).symm.trans hendpoint
  refine hasValidUrl_eq_false hcredentials (Nat.lt_of_lt_of_le hlong ?_)
  exact utf8ByteSize_le_of_path rfl

end TokenEndpoint

end Reindex
