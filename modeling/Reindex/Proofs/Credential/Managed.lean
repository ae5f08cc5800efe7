import Reindex.Credential.Managed
import Reindex.Proofs.Credential.Forms
import Reindex.Proofs.Http.Fields

/-!
# What a host is asked

A client that its host knows asks one question, for one resource. The question is put into the query of the
host's address behind what is there already, in such a way that all of it can be read again, and it shows
the header field that this kind of host wants to see.
-/

namespace Reindex

open Http (Message Request)

variable {σ : Type}

namespace ManagedCredential

/-! ### Resources and scopes -/

/-- The resource that a scope is for: what is in front of `/.default` at the end of the scope, or else the
scope itself. -/
inductive IsResourceOf : String → String → Prop
  | cut (resource : String) : IsResourceOf resource (resource ++ "/.default")
  | whole {scope : String} (h : ∀ resource, scope ≠ resource ++ "/.default") : IsResourceOf scope scope

/-- A scope is for one resource. -/
lemma IsResourceOf.unique {resource resource' scope : String} (h : IsResourceOf resource scope)
    (h' : IsResourceOf resource' scope) : resource = resource' := by
  generalize hscope : scope = scope' at h'
  cases h with
  | cut =>
    cases h' with
    | cut => exact (String.append_left_inj _).mp hscope
    | whole h => exact absurd hscope.symm (h _)
  | whole h =>
    cases h' with
    | cut => exact absurd hscope (h _)
    | whole => exact hscope

lemma isResourceOf_resourceOf (scope : String) : IsResourceOf (resourceOf scope) scope := by
  unfold resourceOf
  dsimp only
  split
  · rename_i hsuffix
    obtain ⟨front, hfront⟩ := List.isSuffixOf_iff_suffix.mp hsuffix
    have hscope : scope = String.ofList front ++ "/.default" := by
      rw [← String.toList_inj, String.toList_append, String.toList_ofList, ← hfront]
      rfl
    have htake : scope.toList.take (scope.toList.length - scopeSuffix.length) = front := by
      rw [← hfront, List.length_append, Nat.add_sub_cancel, List.take_left]
    have hcut := IsResourceOf.cut (String.ofList front)
    rw [← hscope] at hcut
    rwa [htake]
  · rename_i hsuffix
    refine .whole ?_
    rintro resource rfl
    refine hsuffix (List.isSuffixOf_iff_suffix.mpr ⟨resource.toList, ?_⟩)
    rw [String.toList_append]
    rfl

/-! ### Questions -/

/-- The pairs of a question, which are put behind the query of the host's address. -/
def questionPairs (version resource : String) (clientId : Option String) : List (String × String) :=
  [("api-version", version), ("resource", resource)] ++ (clientId.map (("client_id", ·))).toList

/-- The message that puts a query to a host: what is shown of the address, with this query in place of its
own, and the header field that the host wants to see. -/
structure Puts (m : Message) (url : Url) (header : String × String) (query : String) : Prop where
  method : m.method = .get
  target : m.target = (Request.shownUrl url).base ++ "?" ++ query
  headers : m.headers.Perm (("accept", "*/*") :: (Request.userinfoFields url ++ [header]))
  body : m.body = ""

/-- Getting a token with these scopes is one question to a host, which has its address, its version of the
questions and its header field. Where the request can be made and there is anyone to answer, one message
goes out, and nothing otherwise; with no scope or with several there is no question. -/
structure AsksHost (url : Url) (version : String) (header : String × String) (clientId : Option String)
    (scopes : List String) (w : Work σ (Except CredentialError AccessToken)) (s : Session σ) : Prop where
  rejected : scopes.length ≠ 1 →
    w s = (.error (.rejected "managed-identity" (.scopeCount scopes.length)), s)
  not_rejected : scopes.length = 1 → ∀ credential fault, (w s).1 ≠ .error (.rejected credential fault)
  asked : ∀ scope, scopes = [scope] → ∃ resource query sent, IsResourceOf resource scope ∧
    url.appendPairs (questionPairs version resource clientId) = { url with query := some query } ∧
    Url.Form.decode query = url.queryPairs ++ questionPairs version resource clientId ∧
    (w s).2.messages = s.messages ++ sent ∧
    if s.network.isScripted && (url.isAskable && !{ url with query := some query }.isTooLong) then
      ∃ m, sent = [m] ∧ Puts m url header query
    else sent = []

variable {c : ManagedCredential}

/-- The message for the question, if the host is asked under `http`. -/
lemma puts_recorded {resource query : String} (hscheme : c.endpoint.url.scheme = "http")
    (hurl : (c.request resource).url = { c.endpoint.url with query := some query })
    (haccept : c.endpoint.header.1 ≠ "accept") :
    Puts (c.request resource).recorded c.endpoint.url c.endpoint.header query := by
  have hsame : (c.request resource).url.scheme = "http" := by rw [hurl, hscheme]
  have hrecorded : (c.request resource).recorded = (c.request resource).message := if_pos hsame
  rw [hrecorded]
  constructor
  case method => exact Request.withoutUserinfo_method _
  case target =>
    rw [Request.message_target, hurl, Request.shownUrl_query, String.append_assoc]
    rfl
  case headers =>
    have hsilent : ∀ f ∈ (c.request resource).headers, f.1 ≠ "accept" := by
      intro f hf
      obtain rfl := List.mem_singleton.mp hf
      exact haccept
    have hperm := Request.message_headers_perm hsilent
    rw [hurl] at hperm
    exact hperm
  case body => exact Request.withoutUserinfo_body _

lemma isSendable_request (resource query : String) (hheader : Http.isHeaderValue c.endpoint.header.2 = true)
    (hurl : (c.request resource).url = { c.endpoint.url with query := some query }) :
    (c.request resource).isSendable =
      (c.endpoint.url.isAskable && !{ c.endpoint.url with query := some query }.isTooLong) := by
  have hheaders : (c.request resource).hasValidHeaders = true := by
    simp only [Request.hasValidHeaders, request, Request.get, List.all_cons, List.all_nil, hheader,
      Bool.and_true]
  rw [Request.isSendable_eq, hheaders, hurl, Bool.true_and]
  rfl

/-- A client that its host knows asks the host by one exchange, and whatever comes of the exchange is no
rejection. -/
lemma asksHost_token (hscheme : c.endpoint.url.scheme = "http")
    (hheader : Http.isHeaderValue c.endpoint.header.2 = true) (haccept : c.endpoint.header.1 ≠ "accept")
    (scopes : List String) (s : Session σ) :
    AsksHost c.endpoint.url c.endpoint.version c.endpoint.header c.clientId scopes (c.token scopes) s := by
  constructor
  case rejected =>
    intro hlength
    match scopes with
    | [] => rfl
    | [scope] => exact absurd rfl hlength
    | _ :: _ :: _ => rfl
  case not_rejected =>
    intro hlength credential fault
    obtain ⟨scope, rfl⟩ := List.length_eq_one_iff.mp hlength
    simp only [token, Work.bind_apply, Work.pure_apply]
    cases (TokenEndpoint.ask (c.request (resourceOf scope)) s).1 with
    | ok token => exact nofun
    | error failure => exact nofun
  case asked =>
    rintro scope rfl
    have hpairs : questionPairs c.endpoint.version (resourceOf scope) c.clientId ≠ [] :=
      List.cons_ne_nil _ _
    obtain ⟨query, hurl, hquery⟩ := c.endpoint.url.exists_query_of_appendPairs hpairs
    refine ⟨resourceOf scope, query, (s.network.exchange (c.request (resourceOf scope))).sent.toList,
      isResourceOf_resourceOf scope, hurl, hquery, ?_, ?_⟩
    · simp only [token, Work.bind_apply, TokenProvider.ask_apply, Work.pure_apply]
      exact s.exchanged_messages _
    · rw [Http.Network.exchange_sent, Http.Network.carries, isSendable_request _ query hheader hurl]
      split_ifs
      · exact ⟨_, rfl, puts_recorded hscheme hurl haccept⟩
      · rfl

/-- Both kinds of hosts are asked, each with its version of the questions and its header field, whatever
their addresses have in their paths and queries. -/
theorem token_asksHost {url : Url} (hscheme : url.scheme = "http") (clientId : Option String)
    (scopes : List String) (s : Session σ) :
    AsksHost url "2018-02-01" ("metadata", "true") clientId scopes
      (token ⟨.metadata url, clientId⟩ scopes) s ∧
    ∀ header : String, Http.isHeaderValue header = true →
      AsksHost url "2019-08-01" ("x-identity-header", header) clientId scopes
        (token ⟨.platform url ⟨header⟩, clientId⟩ scopes) s := by
  have hmetadata : Http.isHeaderValue "true" = true := by decide
  refine ⟨?metadata, fun header hheader => ?platform⟩
  case metadata =>
    have hname : "metadata" ≠ "accept" := by decide
    exact asksHost_token (c := ⟨.metadata url, clientId⟩) hscheme hmetadata hname scopes s
  case platform =>
    have hname : "x-identity-header" ≠ "accept" := by decide
    exact asksHost_token (c := ⟨.platform url ⟨header⟩, clientId⟩) hscheme hheader hname scopes s

/-- An address with all parts that there can be. -/
def fullAddress : Url :=
  ⟨"http", some ⟨"u", some "p", .domain "h", some 81⟩, .segments ["y"], some "a=1&&b=%20c", some "f"⟩

/-- Of two suffixes of a scope one is left in the resource, and the pairs of the question are read behind
those of the address. -/
theorem token_asksHost_full :
    Url.parse "http://u:p@h:81/x/../y?a=1&&b=%20c#f" = .ok fullAddress ∧ fullAddress.scheme = "http" ∧
      Http.isHeaderValue " v\t" = true ∧
      ∃ m query, (token ⟨.platform fullAddress ⟨" v\t"⟩, some "é&="⟩ ["r/.default/.default"]
          (TokenEndpoint.holding "")).2.messages = [m] ∧
        m.method = .get ∧ m.target = "http://h:81/y" ++ "?" ++ query ∧
        m.headers.Perm [("accept", "*/*"), ("authorization", "Basic dTpw"), ("x-identity-header", " v\t")] ∧
        Url.Form.decode query = [("a", "1"), ("b", " c"), ("api-version", "2019-08-01"),
          ("resource", "r/.default"), ("client_id", "é&=")] := by
  have hparse : Url.parse "http://u:p@h:81/x/../y?a=1&&b=%20c#f" = .ok fullAddress := by decide +kernel
  have hheader : Http.isHeaderValue " v\t" = true := by decide
  have hown : fullAddress.queryPairs = [("a", "1"), ("b", " c")] := by decide +kernel
  have hbase : (Request.shownUrl fullAddress).base = "http://h:81/y" := by decide +kernel
  obtain ⟨-, hplatform⟩ := token_asksHost (rfl : fullAddress.scheme = "http") (some "é&=")
    ["r/.default/.default"] (TokenEndpoint.holding "")
  obtain ⟨resource, query, sent, hresource, hurl, hquery, hmessages, hsent⟩ :=
    (hplatform " v\t" hheader).asked _ rfl
  obtain rfl := hresource.unique (.cut "r/.default")
  have hlength : (fullAddress.appendPairs
    (questionPairs "2019-08-01" "r/.default" (some "é&="))).isTooLong = false := by decide +kernel
  have haskable : fullAddress.isAskable = true := by decide +kernel
  have hfields : Request.userinfoFields fullAddress = [("authorization", "Basic dTpw")] := by
    decide +kernel
  rw [hurl] at hlength
  rw [haskable, hlength] at hsent
  obtain ⟨m, rfl, hputs⟩ := hsent
  have htarget := hputs.target
  have hheaders := hputs.headers
  rw [hbase] at htarget
  rw [hfields] at hheaders
  rw [hown] at hquery
  exact ⟨hparse, rfl, hheader, m, query, hmessages, hputs.method, htarget, hheaders, hquery⟩

/-- There are addresses under `http` that no question goes out to, and of those that are asked a user name
and a password do not go out as a part of the address. -/
theorem address_not_sent :
    (Url.parse "http://a\x7bb" = .ok (TokenEndpoint.rootOf "a\x7bb") ∧
      (token ⟨.metadata (TokenEndpoint.rootOf "a\x7bb"), none⟩ ["r"]
        (TokenEndpoint.holding "")).2.messages = []) ∧
    Url.parse "http://u:p@h:81/x/../y?a=1&&b=%20c#f" = .ok fullAddress ∧
      (token ⟨.metadata fullAddress, none⟩ ["r"] (TokenEndpoint.holding "")).2.messages.map (·.target) =
        ["http://h:81/y?a=1&&b=%20c&api-version=2018-02-01&resource=r"] := by
  decide +kernel

end ManagedCredential

end Reindex
