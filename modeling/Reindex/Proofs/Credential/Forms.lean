import Mathlib.Data.List.DropRight
import Reindex.Credential.Secret
import Reindex.Credential.Workload
import Reindex.Proofs.Credential.Variables
import Reindex.Proofs.Identity.Authority
import Reindex.Proofs.Url.Form

/-!
# What an authority reads in a request for a token

Whoever asks for a token posts one form. The authority reads in it the pairs of the client, with every
character of the secret or of the assertion as the client has it.
-/

namespace Reindex

open Http (Network Request)

variable {σ α : Type}

namespace TokenEndpoint

variable {authority endpoint : Url} {tenant : String} {pairs : List (String × String)}
  {w : Work σ α} {s : Session σ}

/-- The work posts one form, read as these pairs, to the endpoint of the tenant, if there is anyone to
answer and the endpoint can be asked; nothing else goes out. -/
def PostsForm (authority : Url) (tenant : String) (pairs : List (String × String)) (w : Work σ α)
    (s : Session σ) : Prop :=
  ∃ endpoint sent, url authority tenant = .ok endpoint ∧ (w s).2.messages = s.messages ++ sent ∧
    if s.network.isScripted && (authority.isAskable && !endpoint.isTooLong) then
      ∃ m, sent = [m] ∧ m.method = .post ∧ Url.Form.decode m.body = pairs
    else sent = []

/-- The message for a form under `http` has the form in its body. -/
lemma recorded_postForm (h : endpoint.scheme = "http") (pairs : List (String × String)) :
    (Request.postForm endpoint pairs).recorded.method = .post ∧
      Url.Form.decode (Request.postForm endpoint pairs).recorded.body = pairs := by
  have hrecorded : (Request.postForm endpoint pairs).recorded =
      (Request.postForm endpoint pairs).message := if_pos h
  rw [hrecorded]
  constructor
  · exact Request.withoutUserinfo_method _
  · simp only [Request.message, Request.withoutUserinfo_body]
    exact Url.Form.decode_encode pairs

/-- Work posts a form if the request for the form is all that it makes. -/
lemma PostsForm.of_exchange (hscheme : authority.scheme = "http")
    (hurl : url authority tenant = .ok endpoint)
    (h : (w s).2.messages =
      s.messages ++ (s.network.exchange (.postForm endpoint pairs)).sent.toList) :
    PostsForm authority tenant pairs w s := by
  refine ⟨endpoint, _, hurl, h, ?_⟩
  have hendpoint : endpoint.scheme = "http" := by
    unfold url at hurl
    split at hurl
    · rename_i happend
      cases hurl
      obtain ⟨list, rfl⟩ := Url.exists_segments_of_append? happend
      exact hscheme
    · cases hurl
  have hcarries : s.network.carries (.postForm endpoint pairs) =
      (s.network.isScripted && (authority.isAskable && !endpoint.isTooLong)) := by
    rw [Network.carries, Request.isSendable_postForm, isAskable_of_url hurl]
  rw [Network.exchange_sent, hcarries]
  split_ifs
  · exact ⟨_, rfl, recorded_postForm hendpoint pairs⟩
  · rfl

/-- Work that asks an endpoint with a form posts this form, whatever becomes of the answer. -/
lemma postsForm_askWithForm (hscheme : authority.scheme = "http")
    (hurl : url authority tenant = .ok endpoint) (pairs : List (String × String)) (s : Session σ)
    (f : Except TokenFailure AccessToken → α) :
    PostsForm authority tenant pairs
      (do return f (← askWithForm endpoint pairs) : Work σ α) s := by
  apply PostsForm.of_exchange hscheme hurl
  simp only [askWithForm, Work.bind_apply, TokenProvider.ask_apply, Work.pure_apply]
  exact s.exchanged_messages _

end TokenEndpoint

open TokenEndpoint

lemma TokenProvider.postsForm_acquire {authority endpoint : Url} (hscheme : authority.scheme = "http")
    {i : ClientIdentity} (hurl : url authority i.tenantId = .ok endpoint) (scopes : List String)
    (s : Session σ) :
    PostsForm authority i.tenantId (form i (scopesFor i scopes))
      ((TokenProvider.authority authority).acquire i scopes) s := by
  apply PostsForm.of_exchange hscheme hurl
  obtain ⟨s', happly, hreaches⟩ := acquire_apply authority i scopes s
  rw [happly, hreaches.messages]
  simp only [acquisition, question?, hurl]
  rfl

lemma SecretCredential.postsForm_token {c : SecretCredential} {endpoint : Url}
    (hscheme : c.authority.scheme = "http") (hurl : url c.authority c.tenantId = .ok endpoint)
    (scopes : List String) (s : Session σ) :
    PostsForm c.authority c.tenantId
      (secretForm c.clientId c.clientSecret.reveal (" ".intercalate scopes)) (c.token scopes) s := by
  rw [token, hurl]
  exact postsForm_askWithForm hscheme hurl _ s _

lemma WorkloadCredential.postsForm_token {c : WorkloadCredential} {endpoint : Url}
    (hscheme : c.authority.scheme = "http") (hurl : url c.authority c.tenantId = .ok endpoint)
    {s : Session σ} {assertion : String} (h : c.assertion (s.files.read c.tokenFile) = .ok assertion)
    (scopes : List String) :
    PostsForm c.authority c.tenantId
      (assertionForm c.clientId assertion (" ".intercalate scopes)) (c.token scopes) s := by
  have hform := postsForm_askWithForm hscheme hurl
    (assertionForm c.clientId assertion (" ".intercalate scopes)) s
    (Except.mapError (CredentialError.ofFailure name))
  unfold PostsForm token at *
  simp only [Work.bind_apply, Work.readFile_apply, h, hurl] at hform ⊢
  exact hform

/-- The assertion of a client is the text in its file without the blanks around it, if the text is not
blank. -/
lemma WorkloadCredential.assertion_of_text (c : WorkloadCredential) {octets : List UInt8} {text : String}
    (htext : Text.Utf8.decode? octets = some text) (hblank : Text.isBlank text = false) :
    c.assertion (.ok octets) = .ok (Text.trim text) := by
  have hsome : (Text.trim text).isEmpty = false := by rw [Text.isEmpty_trim, hblank]
  unfold assertion
  simp only [bind, Except.bind, pure, Except.pure, htext, hsome]
  rfl

namespace TokenEndpoint

/-- Every request for a token has the form of its client in it: of an identity, of a client with a secret,
or of a client that its host vouches for. -/
theorem postsForm_of_parse {text : String} {authority : Url} (hparse : Url.parse text = .ok authority)
    (hscheme : authority.scheme = "http") (scopes : List String) (s : Session σ) :
    (∀ i : ClientIdentity,
      PostsForm authority (Text.trim i.given.tenantId)
        [("grant_type", "client_credentials"),
          ("client_id", Text.trim i.given.clientId),
          ("client_secret", i.given.clientSecret),
          ("scope",
            if scopes = [] then
              String.ofList ((Text.trim i.given.audience).toList.rdropWhile (· = '/')) ++ "/.default"
            else " ".intercalate scopes)]
        ((TokenProvider.authority authority).acquire i scopes) s) ∧
    (∀ tenant client secret : String,
      PostsForm authority tenant
        [("grant_type", "client_credentials"),
          ("client_id", client),
          ("client_secret", secret),
          ("scope", " ".intercalate scopes)]
        (SecretCredential.token ⟨tenant, client, ⟨secret⟩, authority⟩ scopes) s) ∧
    (∀ (tenant client file contents : String) (octets : List UInt8),
      s.files.read file = .ok octets → Text.Utf8.decode? octets = some contents →
      Text.isBlank contents = false →
      PostsForm authority tenant
        [("grant_type", "client_credentials"),
          ("client_id", client),
          ("client_assertion_type", "urn:ietf:params:oauth:client-assertion-type:jwt-bearer"),
          ("client_assertion", Text.trim contents),
          ("scope", " ".intercalate scopes)]
        (WorkloadCredential.token ⟨tenant, client, file, authority⟩ scopes) s) := by
  have hendpoint : ∀ tenant, ∃ endpoint, url authority tenant = .ok endpoint := by
    intro tenant
    have hok := (isOk_url_iff authority tenant).mpr (Url.isFlat_of_parse hparse (.inl hscheme))
    cases hurl : url authority tenant with
    | ok endpoint => exact ⟨endpoint, rfl⟩
    | error fault =>
      rw [hurl] at hok
      cases hok
  refine ⟨fun i => ?_, fun tenant client secret => ?_, fun tenant client file contents octets => ?_⟩
  · obtain ⟨endpoint, hurl⟩ := hendpoint i.tenantId
    have hform := TokenProvider.postsForm_acquire hscheme hurl scopes s
    have hscope : " ".intercalate (TokenProvider.scopesFor i scopes) =
        if scopes = [] then
          String.ofList ((Text.trim i.given.audience).toList.rdropWhile (· = '/')) ++ "/.default"
        else " ".intercalate scopes := by
      unfold TokenProvider.scopesFor
      cases scopes with
      | nil => rfl
      | cons scope rest => rfl
    rw [TokenProvider.form, hscope] at hform
    exact hform
  · obtain ⟨endpoint, hurl⟩ := hendpoint tenant
    exact SecretCredential.postsForm_token (c := ⟨tenant, client, ⟨secret⟩, authority⟩) hscheme hurl
      scopes s
  · intro hread htext hblank
    obtain ⟨endpoint, hurl⟩ := hendpoint tenant
    have hassertion := WorkloadCredential.assertion_of_text ⟨tenant, client, file, authority⟩ htext hblank
    rw [← hread] at hassertion
    exact WorkloadCredential.postsForm_token (c := ⟨tenant, client, file, authority⟩) hscheme hurl
      hassertion scopes

/-- The root of a host. -/
def rootOf (host : String) : Url :=
  ⟨"http", some ⟨"", none, .domain host, none⟩, .segments [""], none, none⟩

/-- A client whose texts have blanks around them and signs of forms in them. -/
def awkwardClient : ClientIdentity := ⟨⟨" t ", "c\n", " a&b=c d+%20\n", "api://rafs//\t"⟩, by decide⟩

/-- There is one file, and a network that is out of answers. -/
def holding (contents : String) : Session Unit :=
  ⟨.scripted [], ⟨[("f", .file (Text.Utf8.encode contents))]⟩, ⟨0⟩, [], ()⟩

theorem postsForm_of_awkwardClient :
    let s := holding " j&=+ k\n"
    Url.parse "http://w" = .ok (rootOf "w") ∧ (rootOf "w").scheme = "http" ∧
      s.files.read "f" = .ok (Text.Utf8.encode " j&=+ k\n") ∧
      Text.Utf8.decode? (Text.Utf8.encode " j&=+ k\n") = some " j&=+ k\n" ∧
      Text.isBlank " j&=+ k\n" = false ∧
      PostsForm (rootOf "w") "t"
        [("grant_type", "client_credentials"), ("client_id", "c"),
          ("client_secret", " a&b=c d+%20\n"), ("scope", "api://rafs/.default")]
        ((TokenProvider.authority (rootOf "w")).acquire awkwardClient []) s ∧
      PostsForm (rootOf "w") "t"
        [("grant_type", "client_credentials"), ("client_id", "c"), ("client_secret", "="),
          ("scope", "")]
        (SecretCredential.token ⟨"t", "c", ⟨"="⟩, rootOf "w"⟩ []) s ∧
      PostsForm (rootOf "w") "t"
        [("grant_type", "client_credentials"), ("client_id", "c"),
          ("client_assertion_type", "urn:ietf:params:oauth:client-assertion-type:jwt-bearer"),
          ("client_assertion", "j&=+ k"), ("scope", "")]
        (WorkloadCredential.token ⟨"t", "c", "f", rootOf "w"⟩ []) s := by
  intro s
  have hparse : Url.parse "http://w" = .ok (rootOf "w") := by decide +kernel
  have hread : s.files.read "f" = .ok (Text.Utf8.encode " j&=+ k\n") := by decide +kernel
  have htext : Text.Utf8.decode? (Text.Utf8.encode " j&=+ k\n") = some " j&=+ k\n" := by decide +kernel
  have hblank : Text.isBlank " j&=+ k\n" = false := by decide +kernel
  have htenant : Text.trim awkwardClient.given.tenantId = "t" := by decide +kernel
  have hclient : Text.trim awkwardClient.given.clientId = "c" := by decide +kernel
  have hscope : String.ofList ((Text.trim awkwardClient.given.audience).toList.rdropWhile (· = '/')) ++
      "/.default" = "api://rafs/.default" := by decide +kernel
  have hassertion : Text.trim " j&=+ k\n" = "j&=+ k" := by decide +kernel
  obtain ⟨hidentity, hsecret, hworkload⟩ := postsForm_of_parse hparse rfl [] s
  have hidentity := hidentity awkwardClient
  have hworkload := hworkload "t" "c" "f" _ _ hread htext hblank
  rw [if_pos rfl, htenant, hclient, hscope] at hidentity
  rw [hassertion] at hworkload
  exact ⟨hparse, rfl, hread, htext, hblank, hidentity, hsecret "t" "c" "=", hworkload⟩

/-- There are authorities under `http` that no identity sends a request to, although all the rest of the
network is there to answer. -/
theorem identity_asks_nothing :
    Url.parse "http://a\x7bb" = .ok (rootOf "a\x7bb") ∧ (rootOf "a\x7bb").scheme = "http" ∧
      (((TokenProvider.authority (rootOf "a\x7bb")).acquire awkwardClient []) (holding "")).2.messages =
        [] := by
  decide +kernel

end TokenEndpoint

end Reindex
