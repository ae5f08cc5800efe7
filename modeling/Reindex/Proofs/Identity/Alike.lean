import Reindex.Proofs.Identity.Acquisition
import Reindex.Proofs.Secret.Alike
import Reindex.Secret.Assembly

/-!
# Identities that differ in their secrets

Secrets that are blank in the same places make up an identity, or they lack the same field. Two
identities that ask the same authority for a token are treated alike, provided that the places where
they ask can both be asked for.
-/

namespace Reindex

open Work (Alike)

variable {σ : Type}

/-! ### Identities -/

lemma firstBlank?_congr {p p' : PerField String}
    (h : ∀ field, Text.isBlank (p.get field) = Text.isBlank (p'.get field)) :
    firstBlank? p = firstBlank? p' := by
  simp only [firstBlank?]
  congr 1
  funext field
  exact h field

namespace ClientIdentity

lemma create_agree {given given' : PerField String} (h : firstBlank? given = firstBlank? given') :
    Agree (fun _ _ => True) (create given) (create given') := by
  simp only [create]
  split
  · rename_i hgiven
    split
    · exact .ok trivial
    · rename_i field hgiven'
      rw [← h, hgiven] at hgiven'
      cases hgiven'
  · rename_i field hgiven
    split
    · rename_i hgiven'
      rw [← h, hgiven] at hgiven'
      cases hgiven'
    · rename_i field' hgiven'
      rw [← h, hgiven] at hgiven'
      cases hgiven'
      exact .error field

/-- Two batches of secrets that are alike both make up an identity, or both lack the same field. -/
lemma ofSecrets_agree (names : IdentitySecretNames) {secrets secrets' : ResolvedSecrets}
    (h : secrets.Alike secrets') :
    Agree (fun _ _ => True) (ofSecrets names secrets) (ofSecrets names secrets') := by
  have htext : ∀ name : SecretName,
      Text.isBlank (((secrets.get? name.text).map SecretValue.reveal).getD "") =
        Text.isBlank (((secrets'.get? name.text).map SecretValue.reveal).getD "") := by
    intro name
    have hget := h.get? name.text
    revert hget
    generalize secrets.get? name.text = value, secrets'.get? name.text = value'
    intro hget
    cases hget with
    | none => rfl
    | some hvalue => exact hvalue
  refine (create_agree (firstBlank?_congr fun field => ?_)).mapError SecretError.incomplete
  cases field with
  | tenantId => exact htext names.tenantId
  | clientId => exact htext names.clientId
  | clientSecret => exact htext names.clientSecret
  | audience => exact htext names.audience

end ClientIdentity

/-! ### Their tokens -/

/-- The tenant of an endpoint has a say in the path of its URL only. -/
lemma TokenEndpoint.url_agree (authority : Url) (tenant tenant' : String) :
    Agree (fun url url' => url.scheme = url'.scheme ∧ url.authority = url'.authority)
      (TokenEndpoint.url authority tenant) (TokenEndpoint.url authority tenant') := by
  simp only [TokenEndpoint.url, Url.append?]
  cases authority.path with
  | flat text => exact .error _
  | segments list => exact .ok ⟨rfl, rfl⟩

namespace TokenProvider

lemma postForm_alike {url url' : Url} {pairs pairs' : List (String × String)}
    (hurl : url.scheme = url'.scheme ∧ url.authority = url'.authority)
    (h : (Http.Request.postForm url pairs).hasValidUrl = (Http.Request.postForm url' pairs').hasValidUrl) :
    (Http.Request.postForm url pairs).Alike (Http.Request.postForm url' pairs') where
  method := rfl
  scheme := hurl.1
  authority := hurl.2
  url := fun hne => absurd rfl hne
  hasValidHeaders := rfl
  hasValidUrl := h

/-- Two identities both get a token, or both are refused in the same way, if both URLs can be asked for or
neither can. -/
lemma request_alike (authority : Url) (i i' : ClientIdentity) (scopes : List String)
    (h : ∀ r r', question? authority i scopes = some r → question? authority i' scopes = some r' →
      r.hasValidUrl = r'.hasValidUrl) :
    Alike (Agree fun _ _ => True)
      ((TokenProvider.authority authority : TokenProvider σ).request i (scopesFor i scopes))
      ((TokenProvider.authority authority).request i' (scopesFor i' scopes)) := by
  have hurl := TokenEndpoint.url_agree authority i.tenantId i'.tenantId
  simp only [question?] at h
  unfold TokenProvider.authority
  dsimp only
  revert h hurl
  generalize TokenEndpoint.url authority i.tenantId = endpoint,
    TokenEndpoint.url authority i'.tenantId = endpoint'
  intro h hurl
  cases hurl with
  | error fault => exact .pure (.error _)
  | ok hurl =>
    refine (TokenEndpoint.ask_alike (postForm_alike hurl (h _ _ rfl rfl))).bind
      fun result result' hresult => ?_
    exact .pure (hresult.mapError _)

lemma length_scopesFor (i : ClientIdentity) (scopes : List String) :
    (scopesFor i scopes).length = max scopes.length 1 := by
  cases scopes with
  | nil => exact List.length_singleton
  | cons scope rest => simp [scopesFor]

lemma acquire_alike (authority : Url) (i i' : ClientIdentity) (scopes : List String)
    (h : ∀ r r', question? authority i scopes = some r → question? authority i' scopes = some r' →
      r.hasValidUrl = r'.hasValidUrl) :
    Alike (Agree fun _ _ => True)
      ((TokenProvider.authority authority : TokenProvider σ).acquire i scopes)
      ((TokenProvider.authority authority).acquire i' scopes) := by
  unfold acquire
  dsimp only
  rw [length_scopesFor, length_scopesFor]
  refine (Alike.log rfl).seq ((Alike.log rfl).seq ?_)
  refine (request_alike authority i i' scopes h).bind fun result result' hresult => ?_
  cases hresult with
  | error e => exact .pure (.error e)
  | ok _ =>
    refine Work.Related.seq (Alike.log ?_) (.pure (.ok trivial))
    simp [LogEvent.withoutTimes, LogEvent.timeFields]

end TokenProvider

end Reindex
