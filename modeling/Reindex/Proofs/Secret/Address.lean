import Reindex.Config.Check
import Reindex.Proofs.Identity.Authority
import Reindex.Proofs.Secret.Name
import Reindex.Proofs.Url.Segment
import Reindex.Secret.Vault

/-!
# The address of a secret

A secret has its name in its address, behind the vault's own path and as it is. So no name leads out of
the vault, and no two names lead to the same place.
-/

namespace Reindex

/-! ### Names in paths -/

namespace Url

/-- The characters of names mean nothing but themselves in a path. -/
lemma isPlainInPath_of_isSecretNameChar {c : Char} (h : isSecretNameChar c = true) : IsPlainInPath c := by
  rcases (isSecretNameChar_iff c).mp h with h | rfl
  · exact isPlainInPath_of_isAlphanum h
  · constructor <;> decide

lemma isSegment_of_isPlainInPath {raw : List Char} (h : ∀ c ∈ raw, IsPlainInPath c) : IsSegment raw where
  dot := by
    rintro rfl
    exact (h '.' (by simp)).dot rfl
  dotDot := by
    rintro rfl
    exact (h '.' (by simp)).dot rfl
  counted := fun c hc => (h c hc).skipped

lemma encodeSegment_of_isPlainInPath {scheme raw : String} (hspecial : isSpecial scheme = true)
    (h : ∀ c ∈ raw.toList, IsPlainInPath c) : encodeSegment scheme raw = raw := by
  have hencode := encode_of_isPlainInPath h
  rw [List.filter_eq_self.mpr fun c hc => by rw [(h c hc).skipped]; rfl] at hencode
  rw [encodeSegment, segmentSet, if_pos hspecial, hencode, String.ofList_toList]

/-- The segments that others go behind are a lone empty one exactly for a path of two slashes. -/
lemma segmentsToExtend_eq_lone_iff (u : Url) :
    u.segmentsToExtend = [""] ↔ u.path = .segments ["", ""] := by
  constructor
  · intro h
    unfold segmentsToExtend at h
    have hsegments : u.pathSegments = ["", ""] := by
      split at h
      · rename_i hlast
        rw [← List.dropLast_append_getLast? "" hlast, h]
        rfl
      · rename_i hlast
        rw [h] at hlast
        exact absurd rfl hlast
    cases hpath : u.path with
    | flat text => simp [pathSegments, hpath] at hsegments
    | segments list => simpa [pathSegments, hpath] using hsegments
  · intro h
    simp [segmentsToExtend, pathSegments, h]

/-- The segments that the first text goes behind: a lone empty one gives way. -/
def segmentsKept (u : Url) : List String :=
  if u.segmentsToExtend = [""] then [] else u.segmentsToExtend

/-- Appending texts that can be segments puts them behind the segments that are kept. -/
lemma append?_segmentsKept {u : Url} {raw : String} {rest : List String} (hpath : u.isFlat = false)
    (hsegment : ∀ r ∈ raw :: rest, IsSegment r.toList) (hfirst : raw ≠ "") (hfile : u.scheme ≠ "file") :
    u.append? (raw :: rest) = some { u with
      path := .segments (u.segmentsKept ++ (raw :: rest).map (encodeSegment u.scheme)) } := by
  by_cases hlone : u.segmentsToExtend = [""]
  · -- Two slashes are extended as the root is.
    have hroot := append?_of_isSegment (u := { u with path := .segments [""] }) rfl hsegment nofun
      (fun _ => hfirst) (fun h => absurd h hfile)
    rw [segmentsKept, if_pos hlone]
    unfold append? at hroot ⊢
    rw [(segmentsToExtend_eq_lone_iff u).mp hlone]
    exact hroot
  · rw [segmentsKept, if_neg hlone]
    exact append?_of_isSegment hpath hsegment hlone (fun _ => hfirst) (fun h => absurd h hfile)

end Url

/-! ### Vaults -/

/-- The URL of a setting has a path and one of the schemes that requests are made by. -/
lemma isFlat_of_requiredUrl {setting var : String} {value : Option String} {u : Url}
    (h : requiredUrl setting var value = .ok u) :
    u.isFlat = false ∧ (u.scheme = "http" ∨ u.scheme = "https") := by
  unfold requiredUrl at h
  split at h
  · cases h
  · split at h
    · cases h
    · rename_i hparse
      split at h
      · rename_i hscheme
        cases h
        have hscheme : u.scheme = "http" ∨ u.scheme = "https" := by simpa [or_comm] using hscheme
        exact ⟨Url.isFlat_of_parse hparse hscheme, hscheme⟩
      · cases h

lemma SecretName.eq_of_create {s : String} {name : SecretName} (h : create s = .ok name) :
    name.text = s := by
  unfold create check at h
  split at h
  · cases h
    rfl
  · cases h

namespace SecretReference

lemma url_eq {vault : Url} (hpath : vault.isFlat = false)
    (hscheme : vault.scheme = "http" ∨ vault.scheme = "https") (name : SecretName) :
    (SecretReference.mk vault name).url = .ok { vault with
      path := .segments (vault.segmentsKept ++ ["secrets", name.text]), query := none } := by
  have hspecial : Url.isSpecial vault.scheme = true ∧ vault.scheme ≠ "file" := by
    rcases hscheme with h | h <;> rw [h] <;> decide
  have hchars : ∀ c ∈ name.text.toList, isSecretNameChar c = true := by
    intro c hc
    exact (isSecretNameChar_iff c).mpr
      (((secretNameFault?_eq_none_iff name.text).mp name.valid).2.2 c hc)
  have hplain : ∀ raw ∈ ["secrets", name.text], ∀ c ∈ raw.toList, Url.IsPlainInPath c := by
    intro raw hraw c hc
    rcases List.mem_pair.mp hraw with rfl | rfl
    · have hall : "secrets".toList.all isSecretNameChar = true := by decide
      exact Url.isPlainInPath_of_isSecretNameChar (List.all_eq_true.mp hall c hc)
    · exact Url.isPlainInPath_of_isSecretNameChar (hchars c hc)
  have hsame : ["secrets", name.text].map (Url.encodeSegment vault.scheme) = ["secrets", name.text] := by
    rw [List.map_congr_left fun raw hraw =>
      Url.encodeSegment_of_isPlainInPath hspecial.1 (hplain raw hraw), List.map_id']
  have hsegments : ∀ raw ∈ ["secrets", name.text], Url.IsSegment raw.toList :=
    fun raw hraw => Url.isSegment_of_isPlainInPath (hplain raw hraw)
  have hwithout : vault.withoutQuery.isFlat = false := hpath
  have happend := Url.append?_segmentsKept hwithout hsegments (by decide) hspecial.2
  unfold url
  rw [happend]
  dsimp only [Url.withoutQuery]
  rw [hsame]
  rfl

/-- A secret has an address in every vault of a configuration: the vault's own segments, `secrets` and the
name as it is, and no query but the version that the request adds. The address tells the name of the secret. -/
theorem url_of_keyVaultUrl {c : JobConfig} {vault : Url} (h : c.keyVaultUrl = .ok vault) :
    (∀ s, (SecretName.create s).isOk = true ↔ IsSecretName s) ∧
      (∃ own, (vault.path ≠ .segments ["", ""] → own = vault.segmentsToExtend) ∧
        ∀ {s name}, SecretName.create s = .ok name →
          (SecretReference.mk vault name).url = .ok { vault with
            path := .segments (own ++ ["secrets", s]), query := none }) ∧
      (∀ {s name}, SecretName.create s = .ok name →
        ∃ url, (SecretReference.mk vault name).url = .ok url ∧
          ∀ token, (Vault.request url token).url = { url with query := some "api-version=7.4" }) ∧
      ∀ {s s' name name' url url'}, SecretName.create s = .ok name → SecretName.create s' = .ok name' →
        (SecretReference.mk vault name).url = .ok url →
        (SecretReference.mk vault name').url = .ok url' → url.text = url'.text → s = s' := by
  obtain ⟨hpath, hscheme⟩ := isFlat_of_requiredUrl h
  have hurl : ∀ {s name}, SecretName.create s = .ok name →
      (SecretReference.mk vault name).url = .ok { vault with
        path := .segments (vault.segmentsKept ++ ["secrets", s]), query := none } := by
    intro s name hname
    rw [url_eq hpath hscheme, SecretName.eq_of_create hname]
  refine ⟨SecretName.isOk_create_iff, ⟨vault.segmentsKept, ?kept, hurl⟩, ?query, ?injective⟩
  case kept =>
    intro hslashes
    exact if_neg fun hlone => hslashes ((Url.segmentsToExtend_eq_lone_iff vault).mp hlone)
  case query =>
    intro s name hname
    exact ⟨_, hurl hname, fun token => rfl⟩
  case injective =>
    intro s s' name name' url url' hname hname' h₁ h₂ htext
    cases (hurl hname).symm.trans h₁
    cases (hurl hname').symm.trans h₂
    have hlast : ∀ last, vault.segmentsKept ++ ["secrets", last] =
        vault.segmentsKept ++ ["secrets"] ++ [last] := fun last => List.append_cons _ "secrets" [last]
    rw [hlast, hlast] at htext
    exact Url.text_segment_injective (u := { vault with query := none })
      (fun hnone => absurd hnone (List.concat_ne_nil "secrets" vault.segmentsKept)) htext

/-- A vault with credentials, a port, a path and a query of its own. -/
def crowded : JobConfig := { keyVaultUri := some " https://u:p@v.test:8443/a//?q=1 " }

theorem url_of_crowded :
    let vault : Url := ⟨"https", some ⟨"u", some "p", .domain "v.test", some 8443⟩,
      .segments ["a", "", ""], some "q=1", none⟩
    let name : SecretName := ⟨"a-B9", by decide⟩
    let url : Url := { vault with path := .segments ["a", "", "secrets", "a-B9"], query := none }
    crowded.keyVaultUrl = .ok vault ∧ vault.path ≠ .segments ["", ""] ∧
      SecretName.create "a-B9" = .ok name ∧ IsSecretName "a-B9" ∧
      (SecretReference.mk vault name).url = .ok url ∧
      (∃ url', (SecretReference.mk vault name).url = .ok url' ∧
        ∀ token, (Vault.request url' token).url = { url' with query := some "api-version=7.4" }) ∧
      ∀ {s' name' url'}, SecretName.create s' = .ok name' →
        (SecretReference.mk vault name').url = .ok url' → url.text = url'.text → "a-B9" = s' := by
  intro vault name url
  have h : crowded.keyVaultUrl = .ok vault := by decide +kernel
  have hslashes : vault.path ≠ .segments ["", ""] := by decide
  have hname : SecretName.create "a-B9" = .ok name := by decide +kernel
  obtain ⟨hnames, ⟨own, hown, hurl⟩, hquery, hinjective⟩ := url_of_keyVaultUrl h
  have hurl := hurl hname
  rw [hown hslashes] at hurl
  exact ⟨h, hslashes, hname, (hnames "a-B9").mp (by rw [hname]; rfl), hurl, hquery hname,
    fun hname' hurl' => hinjective hname hname' hurl hurl'⟩

/-- Of two slashes alone none is left in front, although one is left of three. -/
theorem lone_segment_lost :
    let vault : Url := ⟨"https", some ⟨"", none, .domain "v.test", none⟩, .segments ["", ""], none, none⟩
    (JobConfig.keyVaultUrl { keyVaultUri := some "https://v.test//" } = .ok vault ∧
      vault.segmentsToExtend = [""] ∧
      (SecretReference.mk vault ⟨"a", by decide⟩).url =
        .ok { vault with path := .segments ["secrets", "a"] }) ∧
      (SecretReference.mk { vault with path := .segments ["", "", ""] } ⟨"a", by decide⟩).url =
        .ok { vault with path := .segments ["", "", "secrets", "a"] } := by
  decide +kernel

end SecretReference

end Reindex
