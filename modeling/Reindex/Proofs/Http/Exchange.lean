import Mathlib.Tactic.Common
import Reindex.Http.Network
import Reindex.Proofs.Text.Utf8

/-!
# What a network does with a request

Whether a message goes out for a request depends on the request and on the kind of network, but not
on the answers that are left. The message for an `https` URL asks for a way to the server; it stands
for the request.
-/

namespace Reindex

namespace Url

/-- Requests can be made to the URL, as far as its scheme and its host are concerned. -/
def isAskable (u : Url) : Bool :=
  (u.scheme = "http" || u.scheme = "https") &&
    u.authority.all fun a => a.host.text.toList.all Http.Request.isHostChar

/-- The URL has more octets than can be asked for. -/
def isTooLong (u : Url) : Bool :=
  !((Http.Request.get u []).withoutUserinfo.url.text.utf8ByteSize ≤ Http.Request.maxUrlLength)

end Url

namespace Http

/-- The body that a text is sent as. -/
def Body.ofText (text : String) : Body := ⟨Text.Utf8.encode text, true⟩

lemma Body.lossyText_ofText (text : String) : (ofText text).lossyText = text :=
  Text.Utf8.decodeLossy_of_decode? (Text.Utf8.decode?_encode text)

lemma isSuccess_iff {n : Nat} : isSuccess n = true ↔ 200 ≤ n ∧ n ≤ 299 := by
  simp [isSuccess]

lemma isServerError_iff {n : Nat} : isServerError n = true ↔ 500 ≤ n ∧ n ≤ 599 := by
  simp [isServerError]

structure Traffic (α : Type) where
  sent : List Message
  network : Network
  result : α

/-! ### Requests and their messages -/

namespace Request

/-- The field that shows the user name and the password in a URL, if they are there. -/
def userinfoFields (url : Url) : List (String × String) :=
  (credentials? url).toList.map fun c => ("authorization", basicValue c.1 c.2)

/-- The URL as it goes out: without the user name and the password that are shown in a header field. -/
def shownUrl (url : Url) : Url :=
  if (credentials? url).isSome then
    { url with authority := url.authority.map fun a => { a with username := "", password := none } }
  else url

/-- A query is shown as it is. -/
lemma shownUrl_query (url : Url) (query : Option String) :
    shownUrl { url with query := query } = { shownUrl url with query := query } := by
  have hcredentials : credentials? { url with query := query } = credentials? url := rfl
  rw [shownUrl, shownUrl, hcredentials]
  split <;> rfl

lemma withoutUserinfo_eq (r : Request) :
    r.withoutUserinfo = { r with url := shownUrl r.url, headers := userinfoFields r.url ++ r.headers } := by
  unfold withoutUserinfo shownUrl userinfoFields
  cases hauthority : r.url.authority with
  | none =>
    have hcredentials : credentials? r.url = none := by
      rw [credentials?, hauthority]
      rfl
    rw [hcredentials]
    rfl
  | some a => cases credentials? r.url <;> rfl

@[simp] lemma withoutUserinfo_method (r : Request) : r.withoutUserinfo.method = r.method := by
  rw [withoutUserinfo_eq]

@[simp] lemma withoutUserinfo_body (r : Request) : r.withoutUserinfo.body = r.body := by
  rw [withoutUserinfo_eq]

lemma withoutUserinfo_url (r : Request) : r.withoutUserinfo.url = shownUrl r.url := by
  rw [withoutUserinfo_eq]

lemma withoutUserinfo_headers (r : Request) :
    r.withoutUserinfo.headers = userinfoFields r.url ++ r.headers := by
  rw [withoutUserinfo_eq]

lemma message_target (r : Request) : r.message.target = (shownUrl r.url).requestText :=
  congrArg Url.requestText r.withoutUserinfo_url

end Request

/-- The message that goes out for a request, if one does. -/
def Request.recorded (r : Request) : Message :=
  if r.url.scheme = "http" then r.message else r.connectMessage

/-- The request is one that goes out where a network gives answers. -/
def Request.isSendable (r : Request) : Bool :=
  r.hasValidHeaders && (r.url.scheme = "http" || r.url.scheme = "https") && r.hasValidUrl

/-- A request can be sent if it has good header fields and a URL that can be asked and is not too long. -/
lemma Request.isSendable_eq (r : Request) :
    r.isSendable = (r.hasValidHeaders && (r.url.isAskable && !r.url.isTooLong)) := by
  have hurl : r.withoutUserinfo.url = (get r.url []).withoutUserinfo.url := by
    rw [withoutUserinfo_url, withoutUserinfo_url]
    rfl
  unfold isSendable hasValidUrl Url.isAskable Url.isTooLong
  rw [hurl, Bool.not_not, Bool.and_assoc, Bool.and_assoc]

namespace Network

def isScripted : Network → Bool
  | .unreachable => false
  | .scripted _ => true

/-- A message goes out for the request. -/
def carries (n : Network) (r : Request) : Bool := n.isScripted && r.isSendable

/-- The network after some requests. -/
def after (n : Network) (rs : List Request) : Network :=
  rs.foldl (fun n r => (n.exchange r).network) n

lemma exchange_sent (n : Network) (r : Request) :
    (n.exchange r).sent = if n.carries r then some r.recorded else none := by
  unfold exchange carries Request.isSendable Request.recorded
  cases n with
  | unreachable =>
    rw [isScripted, Bool.false_and, if_neg Bool.false_ne_true]
    split_ifs <;> rfl
  | scripted answers => cases answers <;> split_ifs <;> simp_all [isScripted]

@[simp] lemma isScripted_exchange (n : Network) (r : Request) :
    (n.exchange r).network.isScripted = n.isScripted := by
  simp only [exchange]
  cases n with
  | unreachable => simp only []; split_ifs <;> rfl
  | scripted answers => cases answers <;> simp only [] <;> split_ifs <;> rfl

@[simp] lemma carries_exchange (n : Network) (r r' : Request) :
    (n.exchange r).network.carries r' = n.carries r' := by
  rw [carries, isScripted_exchange, carries]

@[simp] lemma carries_after (n : Network) (rs : List Request) (r : Request) :
    (n.after rs).carries r = n.carries r := by
  induction rs generalizing n with
  | nil => rfl
  | cons r' rest ih =>
    rw [after, List.foldl_cons]
    exact (ih _).trans (n.carries_exchange r' r)

/-- An exchange with a response has sent a message. -/
lemma carries_of_outcome {n : Network} {r : Request} {answer : Response}
    (h : (n.exchange r).outcome = .ok answer) : n.carries r = true := by
  simp only [exchange] at h
  simp only [carries, Request.isSendable]
  cases n with
  | unreachable => split_ifs at h
  | scripted answers =>
    split_ifs at h
    simp_all [isScripted]

lemma exchange_sent_of_outcome {n : Network} {r : Request} {answer : Response}
    (h : (n.exchange r).outcome = .ok answer) : (n.exchange r).sent = some r.recorded := by
  rw [exchange_sent, carries_of_outcome h, if_pos rfl]

/-- The response to a request is the first of the answers that are left. -/
lemma outcome_of_scripted {a : Answer} {rest : List Answer} {r : Request} {answer : Response}
    (h : ((scripted (a :: rest)).exchange r).outcome = .ok answer) : a.outcome = .ok answer := by
  simp only [exchange] at h
  split_ifs at h
  exact h

end Network

end Http

end Reindex
