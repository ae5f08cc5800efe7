import Reindex.Proofs.Url.Segment
import Reindex.Token.Endpoint

/-!
# The tenant in an address

The endpoint of a tenant is the authority with four more segments in its path, the first of which is read
as the tenant. What can be no segment is no part of the address, or takes a part of it away.
-/

namespace Reindex.TokenEndpoint

open Url Text

/-- The tenant can be a segment, and there is a place for it behind the authority's own path. -/
structure TakesTenant (authority : Url) (tenant : String) : Prop where
  structured : authority.isFlat = false
  segment : IsSegment tenant.toList
  /-- The path is not two slashes alone. -/
  extendable : authority.segmentsToExtend ≠ [""]
  first : authority.segmentsToExtend = [] → tenant ≠ ""
  tidy : authority.scheme = "file" →
    IsTidy ((authority.segmentsToExtend ++ [tenant]).map String.toList)

/-- The authority with four more segments. -/
def placed (authority : Url) (segment : String) : Url :=
  { authority with
    path := .segments (authority.segmentsToExtend ++ [segment, "oauth2", "v2.0", "token"]) }

/-- The segments that every endpoint has stay as they are under every scheme. -/
lemma map_encodeSegment (scheme : String) :
    ["oauth2", "v2.0", "token"].map (encodeSegment scheme) = ["oauth2", "v2.0", "token"] := by
  unfold encodeSegment segmentSet
  split <;> decide

lemma isSegment_of_mem {raw : String} (h : raw ∈ ["oauth2", "v2.0", "token"]) :
    IsSegment raw.toList := by
  have hall : ∀ r ∈ ["oauth2", "v2.0", "token"], IsSegment r.toList := by decide
  exact hall raw h

/-- The tenant's segment is the tenant encoded. -/
lemma url_eq_placed {authority : Url} {tenant : String} (h : TakesTenant authority tenant) :
    url authority tenant = .ok (placed authority (encodeSegment authority.scheme tenant)) := by
  have hsegment : ∀ r ∈ [tenant, "oauth2", "v2.0", "token"], IsSegment r.toList := by
    intro r hr
    rcases List.mem_cons.mp hr with rfl | hr
    · exact h.segment
    · exact isSegment_of_mem hr
  unfold url
  rw [append?_of_isSegment h.structured hsegment h.extendable h.first h.tidy, List.map_cons,
    map_encodeSegment]
  rfl

/-- Where the tenant is the first segment, it is not an empty one. -/
lemma TakesTenant.ne_empty {authority : Url} {tenant : String} (h : TakesTenant authority tenant)
    (hnone : authority.segmentsToExtend = []) : encodeSegment authority.scheme tenant ≠ "" := by
  intro hempty
  have hnothing : encodeSegment authority.scheme "" = "" := by
    rw [encodeSegment, String.toList_empty]
    rfl
  exact h.first hnone (encodeSegment_injective authority.scheme (hempty.trans hnothing.symm))

/-- The endpoint is the authority, all but its path, with the tenant behind the authority's own segments;
and it is the endpoint of no other tenant. -/
theorem url_of_takesTenant {authority : Url} {tenant : String} (h : TakesTenant authority tenant) :
    (∃ segment, Utf8.decode? (Percent.decode segment.toList) = some tenant ∧
      url authority tenant = .ok { authority with
        path := .segments (authority.segmentsToExtend ++ [segment, "oauth2", "v2.0", "token"]) }) ∧
    ∀ {tenant' endpoint endpoint'}, TakesTenant authority tenant' →
      url authority tenant = .ok endpoint → url authority tenant' = .ok endpoint' →
      endpoint.text = endpoint'.text → tenant = tenant' := by
  have hurl := url_eq_placed h
  refine ⟨⟨_, decode_encodeSegment _ _, hurl⟩, ?_⟩
  intro tenant' endpoint endpoint' h' hendpoint hendpoint' htext
  obtain rfl := Except.ok.inj (hurl.symm.trans hendpoint)
  obtain rfl := Except.ok.inj ((url_eq_placed h').symm.trans hendpoint')
  exact encodeSegment_injective authority.scheme
    (text_segment_injective (fun hnone => ⟨h.ne_empty hnone, h'.ne_empty hnone⟩) htext)

/-- Nothing in front of the path, behind it or in it is lost, and all that means something in a URL is
only the tenant's own text. -/
theorem url_of_takesTenant_prefix :
    let authority : Url := ⟨"https", some ⟨"u", some "p", .domain "login.test", some 8443⟩,
      .segments ["prefix", ""], some "q=1", some "f"⟩
    TakesTenant authority "../a%2Fb?c#é" ∧
      ((∃ segment, Utf8.decode? (Percent.decode segment.toList) = some "../a%2Fb?c#é" ∧
        url authority "../a%2Fb?c#é" = .ok { authority with
          path := .segments (authority.segmentsToExtend ++ [segment, "oauth2", "v2.0", "token"]) }) ∧
      ∀ {tenant' endpoint endpoint'}, TakesTenant authority tenant' →
        url authority "../a%2Fb?c#é" = .ok endpoint → url authority tenant' = .ok endpoint' →
        endpoint.text = endpoint'.text → "../a%2Fb?c#é" = tenant') := by
  intro authority
  have h : TakesTenant authority "../a%2Fb?c#é" :=
    ⟨rfl, by decide, by decide, by decide, fun hfile => absurd hfile (by decide)⟩
  exact ⟨h, url_of_takesTenant h⟩

/-- Tabs do not count, so two tenants share an endpoint; dots alone are no segment; and with a tab
between them they take a segment of the authority away. -/
theorem tenant_lost :
    let authority : Url := ⟨"https", some ⟨"", none, .domain "login.test", none⟩,
      .segments ["prefix"], none, none⟩
    url authority "a\tb" = url authority "ab" ∧
      (url authority "..").map Url.text = .ok "https://login.test/prefix/oauth2/v2.0/token" ∧
      (url authority ".\t.").map Url.text = .ok "https://login.test/oauth2/v2.0/token" := by
  decide +kernel

end Reindex.TokenEndpoint
