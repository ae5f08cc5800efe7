import Reindex.Http.Message

/-!
# The network

Who is there to answer. A network either lets no connection come about, or gives answers one after
the other, whoever is asked, and refuses to pass anything on.

An answer is a status and a body. It carries no header fields, so no answer says where to go instead, and a
response whose status is that of a redirect is final. An `https` request is made through a tunnel, which is
asked for by a `CONNECT` and always refused; the request itself does not go out.
-/

namespace Reindex.Http

/-- What happens to a request that goes out. -/
inductive Answer where
  | response (r : Response)
  | close
  | hang
  deriving DecidableEq, Repr

inductive Network where
  | unreachable
  /-- Requests are answered in turn; when no answer is left, by an empty response of status 500. -/
  | scripted (answers : List Answer)
  deriving DecidableEq, Repr

/-- Statuses whose responses have no body. -/
def hasNoBody (status : Nat) : Bool := status = 204 || status = 304

def Response.arriving (r : Response) : Response :=
  if hasNoBody r.status then { r with body := ⟨[], true⟩ } else r

/-- What an answer means for whoever asked. -/
def Answer.outcome : Answer → Except TransportFault Response
  | .response r => .ok r.arriving
  | .close => .error .closed
  | .hang => .error .timedOut

/-- What happens when a request is made: what comes of it, the message that went out if any did,
and the network afterwards. -/
structure Exchange where
  outcome : Except TransportFault Response
  sent : Option Message
  network : Network

def Network.exchange (n : Network) (r : Request) : Exchange :=
  if !r.hasValidHeaders then ⟨.error .invalidHeader, none, n⟩
  else if r.url.scheme ≠ "http" ∧ r.url.scheme ≠ "https" then ⟨.error .invalidScheme, none, n⟩
  else if !r.hasValidUrl then ⟨.error .invalidUrl, none, n⟩
  else if r.url.scheme = "http" then
    match n with
    | .unreachable => ⟨.error .unreachable, none, n⟩
    | .scripted [] => ⟨.ok ⟨500, ⟨[], true⟩⟩, some r.message, n⟩
    | .scripted (a :: rest) => ⟨a.outcome, some r.message, .scripted rest⟩
  else
    match n with
    | .unreachable => ⟨.error .tunnelUnreachable, none, n⟩
    | .scripted _ => ⟨.error .tunnelRefused, some r.connectMessage, n⟩

end Reindex.Http
