import Reindex.Proofs.Http.Exchange
import Reindex.Proofs.Json.Secrets
import Reindex.Proofs.Outcome

/-!
# Networks that differ in their secrets

Two networks that give the same answers but for the secrets in them treat requests alike: for two
requests that differ in what they show or post, messages go out to the same places or not at all, and
what comes of them is the same but for secrets.
-/

namespace Reindex.Http

/-! ### Answers -/

/-- Two bodies are the same but for secrets, however they are read. -/
structure Body.SameButSecrets (b b' : Body) : Prop where
  complete : b.complete = b'.complete
  /-- The octets spell the same JSON but for secrets, or none. -/
  octets : Option.Rel Json.SameButSecrets (Json.read? b.octets) (Json.read? b'.octets)
  /-- The texts spell the same JSON but for secrets, or none. -/
  text : Option.Rel Json.SameButSecrets (Json.readText? b.lossyText) (Json.readText? b'.lossyText)

lemma Body.SameButSecrets.ofText {text text' : String}
    (h : Option.Rel Json.SameButSecrets (Json.readText? text) (Json.readText? text')) :
    (Body.ofText text).SameButSecrets (Body.ofText text') where
  complete := rfl
  octets := h
  text := by rwa [lossyText_ofText, lossyText_ofText]

/-- Two responses are the same, or both are good and differ in their secrets. -/
inductive Response.SameButSecrets : Response → Response → Prop
  | same (r : Response) : SameButSecrets r r
  | secret {status : Nat} {b b' : Body} (hstatus : isSuccess status = true)
      (h : b.SameButSecrets b') : SameButSecrets ⟨status, b⟩ ⟨status, b'⟩

/-- Two answers are the same but for secrets. -/
inductive Answer.SameButSecrets : Answer → Answer → Prop
  | same (a : Answer) : SameButSecrets a a
  | response {r r' : Response} (h : r.SameButSecrets r') : SameButSecrets (.response r) (.response r')

/-- Two networks are of one kind and give the same answers but for secrets. -/
inductive Network.SameButSecrets : Network → Network → Prop
  | unreachable : SameButSecrets .unreachable .unreachable
  | scripted {answers answers' : List Answer} (h : List.Forall₂ Answer.SameButSecrets answers answers') :
      SameButSecrets (.scripted answers) (.scripted answers')

lemma Response.SameButSecrets.arriving {r r' : Response} (h : r.SameButSecrets r') :
    r.arriving.SameButSecrets r'.arriving := by
  cases h with
  | same r => exact .same _
  | secret hstatus h =>
    simp only [Response.arriving]
    split
    · exact .same _
    · exact .secret hstatus h

lemma Answer.SameButSecrets.outcome {a a' : Answer} (h : a.SameButSecrets a') :
    Agree Response.SameButSecrets a.outcome a'.outcome := by
  cases h with
  | same a => exact .refl Response.SameButSecrets.same a.outcome
  | response h => exact .ok h.arriving

/-! ### Requests -/

/-- Two requests that a network treats alike, whatever they show or post. -/
structure Request.Alike (r r' : Request) : Prop where
  method : r.method = r'.method
  scheme : r.url.scheme = r'.url.scheme
  authority : r.url.authority = r'.url.authority
  /-- Requests that post nothing are for the same URL. -/
  url : r.method ≠ .post → r.url = r'.url
  hasValidHeaders : r.hasValidHeaders = r'.hasValidHeaders
  /-- The URLs of both can be asked for or that of neither. -/
  hasValidUrl : r.hasValidUrl = r'.hasValidUrl

/-- Two messages ask the same of the same server, at the same place unless something is posted. -/
def Message.Alike (m m' : Message) : Prop :=
  m.method = m'.method ∧ (m.method ≠ .post → m.target = m'.target)

namespace Request

lemma Alike.refl (r : Request) : r.Alike r := ⟨rfl, rfl, rfl, fun _ => rfl, rfl, rfl⟩

/-- Requests for the same thing are alike if the header fields of both can be sent or those of neither. -/
lemma Alike.get (url : Url) {headers headers' : List (String × String)}
    (h : (headers.all fun field => isHeaderValue field.2) =
      headers'.all fun field => isHeaderValue field.2) :
    (Request.get url headers).Alike (Request.get url headers') where
  method := rfl
  scheme := rfl
  authority := rfl
  url := fun _ => rfl
  hasValidHeaders := h
  hasValidUrl := by
    simp only [Request.hasValidUrl, withoutUserinfo_url]
    rfl

lemma Alike.recorded {r r' : Request} (h : r.Alike r') : r.recorded.Alike r'.recorded := by
  simp only [Request.recorded]
  rw [h.scheme]
  split
  · have hmethod : r.message.method = r.method := r.withoutUserinfo_method
    have hmethod' : r'.message.method = r'.method := r'.withoutUserinfo_method
    refine ⟨by rw [hmethod, hmethod', h.method], fun hne => ?_⟩
    rw [hmethod] at hne
    rw [message_target, message_target, h.url hne]
  · refine ⟨rfl, fun _ => ?_⟩
    simp only [connectMessage, Url.port?]
    rw [h.scheme, h.authority]

end Request

/-! ### Exchanges -/

/-- Two exchanges of requests that are alike, which are the same but for secrets. -/
structure Exchange.Alike (e e' : Exchange) : Prop where
  outcome : Agree Response.SameButSecrets e.outcome e'.outcome
  sent : Option.Rel Message.Alike e.sent e'.sent
  network : e.network.SameButSecrets e'.network

/-- Requests that are alike are treated alike. -/
lemma Network.SameButSecrets.exchange {n n' : Network} (hn : n.SameButSecrets n') {r r' : Request}
    (h : r.Alike r') : (n.exchange r).Alike (n'.exchange r') := by
  have hrecorded := h.recorded
  simp only [Request.recorded] at hrecorded
  simp only [Network.exchange]
  rw [h.hasValidHeaders, h.scheme, h.hasValidUrl] at *
  split_ifs with hheaders hscheme hurl hhttp
  · exact ⟨.error _, .none, hn⟩
  · exact ⟨.error _, .none, hn⟩
  · exact ⟨.error _, .none, hn⟩
  · rw [if_pos hhttp, if_pos hhttp] at hrecorded
    cases hn with
    | unreachable => exact ⟨.error _, .none, .unreachable⟩
    | scripted hanswers =>
      cases hanswers with
      | nil => exact ⟨.ok (.same _), .some hrecorded, .scripted .nil⟩
      | cons hanswer hrest => exact ⟨hanswer.outcome, .some hrecorded, .scripted hrest⟩
  · rw [if_neg hhttp, if_neg hhttp] at hrecorded
    cases hn with
    | unreachable => exact ⟨.error _, .none, .unreachable⟩
    | scripted hanswers => exact ⟨.error _, .some hrecorded, .scripted hanswers⟩

end Reindex.Http
