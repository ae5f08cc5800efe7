import Reindex.Proofs.Credential.Chain
import Reindex.Proofs.Identity.Acquisition
import Reindex.Proofs.Token.Answer

/-!
# What becomes of an answer of a token endpoint

An identity and three kinds of sources ask token endpoints. To an identity every failure is the same. To
a source with a secret, and to one that its host vouches for, it matters whose fault it was, since a refusal
ends the chain; a host that knows its client never refuses.
-/

namespace Reindex

open Http (Request)

variable {σ : Type} {s s' : Session σ} {r : Request} {scopes : List String} {member : Credential σ}
  {result : Except TokenFailure AccessToken}

/-! ### Asking an endpoint -/

namespace TokenEndpoint

/-- The result of asking an endpoint by a request: the exchange fails, or an answer means something. -/
inductive Yields (s : Session σ) (r : Request) : Except TokenFailure AccessToken → Prop
  | unanswered {fault : Http.TransportFault} (h : (s.network.exchange r).outcome = .error fault) :
      Yields s r (.error (.transport (.transport fault)))
  | answered {answer : Http.Response} {result : Except TokenFailure AccessToken}
      (h : (s.network.exchange r).outcome = .ok answer) (hmeans : TokenAnswer.Means s.now answer result) :
      Yields s r result

/-- Every request for a token yields a result. -/
lemma exists_yields (s : Session σ) (r : Request) : ∃ result, Yields s r result := by
  cases houtcome : (s.network.exchange r).outcome with
  | error fault => exact ⟨_, .unanswered houtcome⟩
  | ok answer => exact ⟨_, .answered houtcome (TokenAnswer.means_read s.now answer)⟩

lemma Yields.ask_apply (h : Yields s r result) : (ask r : Work σ _) s = (result, s.exchanged r) := by
  rw [TokenProvider.ask_apply]
  cases h with
  | unanswered houtcome =>
    rw [houtcome]
    rfl
  | answered houtcome hmeans =>
    rw [houtcome, TokenProvider.meaning, hmeans.eq]

end TokenEndpoint

open TokenEndpoint (Yields)

/-! ### Sources and their chains -/

namespace CredentialChain

/-- The first member of every chain gives what came of its request, and the chain goes by that. What left
of the session `s` is `s'`. -/
inductive Heeds (member : Credential σ) (scopes : List String) (s s' : Session σ) :
    Except TokenFailure AccessToken → Prop
  /-- A member with a token ends the chain with the token. -/
  | token {t : AccessToken} (h : member.token scopes s = (.ok t, s'))
      (hchain : ∀ attempted rest, tryAll scopes attempted (member :: rest) s =
        (.ok t, s'.record (.logged (selectedEvent member.name)))) :
      Heeds member scopes s s' (.ok t)
  /-- A member that is unavailable leaves the question to the other members. -/
  | transport {fault : TokenFault} {e : CredentialError} (he : e = .unavailable member.name (.token fault))
      (h : member.token scopes s = (.error e, s'))
      (hchain : ∀ attempted rest, tryAll scopes attempted (member :: rest) s =
        tryAll scopes (attempted ++ [e.message]) rest
          (s'.record (.logged (unavailableEvent member.name e)))) :
      Heeds member scopes s s' (.error (.transport fault))
  /-- A member that is refused ends the chain with the refusal. -/
  | rejected {fault : TokenFault} {e : CredentialError} (he : e = .rejected member.name (.token fault))
      (h : member.token scopes s = (.error e, s'))
      (hchain : ∀ attempted rest, tryAll scopes attempted (member :: rest) s = (.error e, s')) :
      Heeds member scopes s s' (.error (.rejected fault))

/-- A member heeds a result if it answers with that result, and with a failure under its own name. -/
lemma heeds_of_token
    (h : member.token scopes s = (result.mapError (CredentialError.ofFailure member.name), s')) :
    Heeds member scopes s s' result := by
  match result, h with
  | .ok t, h =>
    refine .token h fun attempted rest => ?_
    rw [tryAll_cons_of_ok (congrArg Prod.fst h), h]
  | .error (.transport fault), h =>
    refine .transport rfl h fun attempted rest => ?_
    rw [tryAll_cons_of_error (congrArg Prod.fst h), h]
    rfl
  | .error (.rejected fault), h =>
    refine .rejected rfl h fun attempted rest => ?_
    rw [tryAll_cons_of_error (congrArg Prod.fst h), h]
    rfl

end CredentialChain

open CredentialChain (Heeds heeds_of_token)

lemma SecretCredential.heeds {c : SecretCredential} {endpoint : Url}
    (hurl : TokenEndpoint.url c.authority c.tenantId = .ok endpoint)
    (hr : r = .postForm endpoint
      (TokenEndpoint.secretForm c.clientId c.clientSecret.reveal (" ".intercalate scopes)))
    (h : Yields s r result) : Heeds c.credential scopes s (s.exchanged r) result := by
  apply heeds_of_token
  subst hr
  simp only [credential, token, hurl, TokenEndpoint.askWithForm, Work.bind_apply, h.ask_apply,
    Work.pure_apply]

lemma WorkloadCredential.heeds {c : WorkloadCredential} {assertion : String} {endpoint : Url}
    (hassertion : c.assertion (s.files.read c.tokenFile) = .ok assertion)
    (hurl : TokenEndpoint.url c.authority c.tenantId = .ok endpoint)
    (hr : r = .postForm endpoint
      (TokenEndpoint.assertionForm c.clientId assertion (" ".intercalate scopes)))
    (h : Yields s r result) : Heeds c.credential scopes s (s.exchanged r) result := by
  apply heeds_of_token
  subst hr
  simp only [credential, token, Work.bind_apply, Work.readFile_apply, hassertion, hurl,
    TokenEndpoint.askWithForm, h.ask_apply, Work.pure_apply]

/-- A client that its host knows heeds what came of its request as if every failure were one to reach the
endpoint. -/
lemma ManagedCredential.heeds {c : ManagedCredential} {scope : String}
    (h : Yields s (c.request (resourceOf scope)) result) :
    Heeds c.credential [scope] s (s.exchanged (c.request (resourceOf scope)))
      (result.mapError fun failure => .transport failure.fault) := by
  apply heeds_of_token
  simp only [credential, token, Work.bind_apply, h.ask_apply, Work.pure_apply]
  -- On both sides a failure ends up as one to reach the endpoint.
  cases result with
  | ok t => rfl
  | error failure => rfl

lemma ManagedCredential.token_ne_rejected (c : ManagedCredential) (scope : String) (s : Session σ)
    (who : String) (fault : CredentialFault) : (c.token [scope] s).1 ≠ .error (.rejected who fault) := by
  obtain ⟨result, hyields⟩ := TokenEndpoint.exists_yields s (c.request (resourceOf scope))
  simp only [token, Work.bind_apply, hyields.ask_apply, Work.pure_apply]
  cases result with
  | ok t => exact nofun
  | error failure => exact nofun

/-- What an answer of a token endpoint means is told by its body and its status. An identity takes every
failure for the same, with its cause; sources and their chains go by whose fault a failure is, but for a
client that its host knows: nothing that comes of its request ends a chain but a token. -/
theorem TokenEndpoint.answer_heeded :
    (∀ (now : Instant) (answer : Http.Response) (result : Except TokenFailure AccessToken),
      TokenAnswer.read now answer = result ↔ TokenAnswer.Means now answer result) ∧
    (∀ (status : Nat) (body cause : String) (fault : TokenFault),
      TokenAnswer.IsCause status body fault cause → fault.message = cause) ∧
    (∀ (authority endpoint : Url) (i : ClientIdentity) (scopes : List String) (s : Session σ)
      (result : Except TokenFailure AccessToken), url authority i.tenantId = .ok endpoint →
      Yields s (.postForm endpoint (TokenProvider.form i scopes)) result →
      ((TokenProvider.authority authority).request i scopes s).1 =
        result.mapError fun failure => .authenticationFailed failure.fault) ∧
    (∀ (c : SecretCredential) (endpoint : Url) (scopes : List String) (s : Session σ) (r : Request)
      (result : Except TokenFailure AccessToken), url c.authority c.tenantId = .ok endpoint →
      r = .postForm endpoint (secretForm c.clientId c.clientSecret.reveal (" ".intercalate scopes)) →
      Yields s r result → Heeds c.credential scopes s (s.exchanged r) result) ∧
    (∀ (c : WorkloadCredential) (assertion : String) (endpoint : Url) (scopes : List String)
      (s : Session σ) (r : Request) (result : Except TokenFailure AccessToken),
      c.assertion (s.files.read c.tokenFile) = .ok assertion → url c.authority c.tenantId = .ok endpoint →
      r = .postForm endpoint (assertionForm c.clientId assertion (" ".intercalate scopes)) →
      Yields s r result → Heeds c.credential scopes s (s.exchanged r) result) ∧
    ∀ (c : ManagedCredential) (scope : String) (s : Session σ),
      (∀ result, Yields s (c.request (ManagedCredential.resourceOf scope)) result →
        Heeds c.credential [scope] s (s.exchanged (c.request (ManagedCredential.resourceOf scope)))
          (result.mapError fun failure => .transport failure.fault)) ∧
      ∀ who fault, (c.token [scope] s).1 ≠ .error (.rejected who fault) := by
  refine ⟨fun now answer result => TokenAnswer.read_eq_iff, fun status body cause fault h => ?_,
    fun authority endpoint i scopes s result hurl h => ?_,
    fun c endpoint scopes s r result hurl hr h => c.heeds hurl hr h,
    fun c assertion endpoint scopes s r result hassertion hurl hr h => c.heeds hassertion hurl hr h,
    fun c scope s => ⟨fun result h => c.heeds h, c.token_ne_rejected scope s⟩⟩
  · exact h.eq.2
  · simp only [TokenProvider.authority, hurl, askWithForm, Work.bind_apply, h.ask_apply, Work.pure_apply]

namespace TokenEndpoint

/-- An authority without any segments. -/
def plainAuthority : Url := ⟨"http", some ⟨"", none, .domain "a", none⟩, .segments [""], none, none⟩

/-- The endpoint of `plainAuthority` for one tenant. -/
def plainEndpoint : Url := { plainAuthority with path := .segments ["t", "oauth2", "v2.0", "token"] }

/-- A refusal that names its error. -/
def refusal : Http.Response :=
  ⟨401, .ofText ("\x7b\"error\":\"invalid_client\"," ++
    "\"error_description\":\"AADSTS7000215: The secret is wrong.\"\x7d")⟩

/-- A network that answers one question by a refusal, and a host with a token in a file. -/
def refusing : Session Unit where
  network := .scripted [.response refusal]
  files := ⟨[("/token", .file (Text.Utf8.encode "proof\n"))]⟩
  now := ⟨0⟩
  parts := ()

lemma refusing_yields (h : (refusing.network.exchange r).outcome = .ok refusal) :
    Yields refusing r (.error (.rejected (.refused "invalid_client" (some "AADSTS7000215")))) :=
  .answered h (TokenAnswer.read_eq_iff.mp (by decide +kernel))

/-- A refusal ends the chain of a client with a secret and of one that its host vouches for; a client that
its host knows leaves the question to others. -/
theorem answer_heeded_refusal :
    let identity : ClientIdentity := ⟨⟨"t", "c", "s", "x"⟩, by decide⟩
    let secret : SecretCredential := ⟨"t", "c", ⟨"s"⟩, plainAuthority⟩
    let workload : WorkloadCredential := ⟨"t", "c", "/token", plainAuthority⟩
    let managed : ManagedCredential := ⟨.metadata plainAuthority, none⟩
    let fault : TokenFault := .refused "invalid_client" (some "AADSTS7000215")
    fault.message = "invalid_client: AADSTS7000215" ∧
      ((TokenProvider.authority plainAuthority).request identity ["y"] refusing).1 =
        .error (.authenticationFailed fault) ∧
      (∃ s', Heeds secret.credential ["y"] refusing s' (.error (.rejected fault))) ∧
      (∃ s', Heeds workload.credential ["y"] refusing s' (.error (.rejected fault))) ∧
      ∃ s', Heeds managed.credential ["y"] refusing s' (.error (.transport fault)) := by
  intro identity secret workload managed fault
  obtain ⟨-, hcause, hidentity, hsecret, hworkload, hmanaged⟩ := answer_heeded (σ := Unit)
  refine ⟨hcause 401 refusal.body.lossyText _ fault ?_,
    hidentity plainAuthority plainEndpoint identity ["y"] refusing _ (by decide)
      (refusing_yields (by decide +kernel)),
    ⟨_, hsecret secret plainEndpoint ["y"] refusing _ _ (by decide) rfl
      (refusing_yields (by decide +kernel))⟩,
    ⟨_, hworkload workload "proof" plainEndpoint ["y"] refusing _ _ (by decide +kernel) (by decide) rfl
      (refusing_yields (by decide +kernel))⟩,
    ⟨_, (hmanaged managed "y" refusing).1 _ (refusing_yields (by decide +kernel))⟩⟩
  have hfault : TokenAnswer.faultOf 401 refusal.body.lossyText = fault := by decide +kernel
  have hmessage : (TokenAnswer.faultOf 401 refusal.body.lossyText).message =
      "invalid_client: AADSTS7000215" := by rw [hfault]; rfl
  have hiscause := TokenAnswer.isCause_faultOf 401 refusal.body.lossyText
  rwa [hmessage, hfault] at hiscause

end TokenEndpoint

end Reindex
