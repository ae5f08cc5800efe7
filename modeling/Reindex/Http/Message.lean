import Reindex.Http.Header
import Reindex.Text.Base64
import Reindex.Text.Utf8
import Reindex.Url.Form
import Reindex.Url.Percent
import Reindex.Url.Query

/-!
# Requests and responses

A request as the program states it, the message that goes out for it, and what can come back.
-/

namespace Reindex.Http

open Text

inductive Method where
  | get
  | post
  /-- To pass everything on to another server. -/
  | connect
  deriving DecidableEq, Repr

def Method.label : Method → String
  | .get => "GET"
  | .post => "POST"
  | .connect => "CONNECT"

structure Request where
  method : Method
  url : Url
  /-- Header fields, in the order in which they are given. -/
  headers : List (String × String)
  body : String := ""

structure Message where
  method : Method
  target : String
  /-- Header fields, sorted by their names. -/
  headers : List (String × String)
  body : String
  deriving DecidableEq, Repr

namespace Request

def get (url : Url) (headers : List (String × String)) : Request := ⟨.get, url, headers, ""⟩

/-- A request that brings pairs of texts. -/
def postForm (url : Url) (pairs : List (String × String)) : Request :=
  ⟨.post, url, [("content-type", "application/x-www-form-urlencoded")], Url.Form.encode pairs⟩

/-- The user name and the password in the URL, if they are texts. -/
def credentials? (url : Url) : Option (String × Option String) := do
  let a ← url.authority
  let decode (s : String) : Option String := Utf8.decode? (Url.Percent.decode s.toList)
  let username ← decode a.username
  let password := a.password.bind decode
  if username.isEmpty && password.isNone then none else some (username, password)

/-- The value of the header field that shows user name and password. -/
def basicValue (username : String) (password : Option String) : String :=
  "Basic " ++ String.ofList (Base64.encode (Utf8.encode (username ++ ":" ++ password.getD "")))

/-- User name and password go out in a header field and not in the URL. -/
def withoutUserinfo (r : Request) : Request :=
  match r.url.authority, credentials? r.url with
  | some a, some (username, password) =>
    { r with
      url := { r.url with authority := some { a with username := "", password := none } }
      headers := ("authorization", basicValue username password) :: r.headers }
  | _, _ => r

def hasValidHeaders (r : Request) : Bool := r.headers.all fun h => isHeaderValue h.2

/-- A character that can be in the host of a request. Some that no host should have are let through
by the rules of URLs but not by those of requests. -/
def isHostChar (c : Char) : Bool := !(['"', '\x60', '\x7b', '\x7d'].contains c)

/-- The greatest number of octets of a URL that can be asked for. -/
def maxUrlLength : Nat := 65534

def hasValidUrl (r : Request) : Bool :=
  (r.url.authority.all fun a => a.host.text.toList.all isHostChar) &&
    r.withoutUserinfo.url.text.utf8ByteSize ≤ maxUrlLength

/-- The header fields with one that accepts anything, if nothing is said about that. -/
def acceptAny (headers : List (String × String)) : List (String × String) :=
  if headers.any (·.1 = "accept") then headers else ("accept", "*/*") :: headers

/-- The message that goes out for a request. -/
def message (r : Request) : Message :=
  let r := r.withoutUserinfo
  ⟨r.method, r.url.requestText,
    (acceptAny r.headers).mergeSort (fun a b => decide (a.1 ≤ b.1)), r.body⟩

/-- The message that asks for a way to the server of a request. -/
def connectMessage (r : Request) : Message :=
  let host := (r.url.authority.map (·.host.text)).getD ""
  ⟨.connect, host ++ ":" ++ toString (r.url.port?.getD 443), [], ""⟩

end Request

/-! ### What comes back -/

structure Body where
  octets : List UInt8
  complete : Bool := true
  deriving DecidableEq, Repr

/-- The body as a text; octets that make no character are replaced. -/
def Body.lossyText (b : Body) : String := Utf8.decodeLossy b.octets

structure Response where
  status : Nat
  body : Body
  deriving DecidableEq, Repr

/-- The server did what it was asked. -/
def isSuccess (status : Nat) : Bool := 200 ≤ status && status ≤ 299

/-- The server could not do what it was asked. -/
def isServerError (status : Nat) : Bool := 500 ≤ status && status ≤ 599

/-- Why there is no response, or no complete one. -/
inductive TransportFault where
  /-- A header field of the request cannot be sent. -/
  | invalidHeader
  /-- The scheme is not one that requests are made by. -/
  | invalidScheme
  /-- The URL is not one that requests are made to. -/
  | invalidUrl
  | unreachable
  /-- There is no way to whoever would pass the request on to the server. -/
  | tunnelUnreachable
  /-- The request is not passed on to the server. -/
  | tunnelRefused
  /-- The server hangs up before it responds. -/
  | closed
  /-- The server does not respond in time. -/
  | timedOut
  | brokenBody
  deriving DecidableEq, Repr

namespace TransportFault

/-- What happened on the way, from the outermost cause to the innermost. -/
def causes : TransportFault → List String
  | .invalidHeader => ["failed to parse header value"]
  | .invalidScheme => ["URL scheme is not allowed"]
  | .invalidUrl => ["Parsed Url is not a valid Uri"]
  | .unreachable =>
    ["client error (Connect)", "tcp connect error", "Network is unreachable (os error 101)"]
  | .tunnelUnreachable =>
    ["client error (Connect)", "tunnel error: failed to create underlying connection",
      "tcp connect error", "Network is unreachable (os error 101)"]
  | .tunnelRefused => ["client error (Connect)", "tunnel error: unsuccessful"]
  | .closed => ["client error (SendRequest)", "connection closed before message completed"]
  | .timedOut => ["operation timed out"]
  | .brokenBody =>
    ["request or response body error", "error reading a body from connection",
      "end of file before message length reached"]

def activity : TransportFault → String
  | .invalidHeader | .invalidScheme | .invalidUrl => "builder error"
  | .brokenBody => "error decoding response body"
  | _ => "error sending request"

def message (f : TransportFault) : String := ": ".intercalate (f.activity :: f.causes)

def kind : TransportFault → String
  | .timedOut => "timed out"
  | .unreachable | .tunnelUnreachable | .tunnelRefused => "connection failed"
  | _ => "request failed"

/-- What happened, in words that begin with the kind of failure. -/
def messageByKind (f : TransportFault) : String := ": ".intercalate (f.kind :: f.causes)

end TransportFault

end Reindex.Http
