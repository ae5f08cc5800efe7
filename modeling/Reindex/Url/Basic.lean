import Reindex.Url.Address
import Reindex.Url.Error

/-!
# URLs

A URL in normal form: a scheme in small letters, an authority for the schemes and texts that have
one, a path that is either a list of segments or one text without structure, a query and a
fragment. The components hold percent-encoded text, so `toString` only puts the separators between
them.
-/

namespace Reindex

namespace Url

inductive Host where
  /-- A name; the empty name is a host that is not there. -/
  | domain (name : String)
  | ipv4 (bits : Nat)
  /-- An IPv6 address, by its eight pieces. -/
  | ipv6 (pieces : List Nat)
  deriving DecidableEq, Repr

/-- The host as it stands in a URL. -/
def Host.text : Host → String
  | .domain name => name
  | .ipv4 bits => String.ofList (ipv4Text bits)
  | .ipv6 pieces => String.ofList (['['] ++ ipv6Text pieces ++ [']'])

/-- Who is asked: credentials, host and port. -/
structure Authority where
  /-- The user name; empty if there is none. -/
  username : String
  password : Option String
  host : Host
  /-- The port, if it is not the usual one of the scheme. -/
  port : Option Nat
  deriving DecidableEq, Repr

/-- The credentials in front of the host. -/
def Authority.userinfo (a : Authority) : String :=
  match a.password with
  | some p => a.username ++ ":" ++ p ++ "@"
  | none => if a.username.isEmpty then "" else a.username ++ "@"

/-- The authority as it stands in a URL. -/
def Authority.text (a : Authority) : String :=
  a.userinfo ++ a.host.text ++ (match a.port with
    | some p => ":" ++ toString p
    | none => "")

inductive Path where
  /-- A text without structure, as in `mailto:` URLs. -/
  | flat (text : String)
  /-- Segments, a slash before each; no segment at all is the empty path. -/
  | segments (list : List String)
  deriving DecidableEq, Repr

/-- The path as it stands in a URL. -/
def Path.text : Path → String
  | .flat text => text
  | .segments list => String.join (list.map ("/" ++ ·))

end Url

structure Url where
  scheme : String
  /-- The authority, if the URL has one. -/
  authority : Option Url.Authority
  path : Url.Path
  /-- The query, without its question mark. -/
  query : Option String
  /-- The fragment, without its number sign. -/
  fragment : Option String
  deriving DecidableEq, Repr

namespace Url

/-! ### Schemes -/

/-- The schemes whose URLs always have a host and a path of segments, with their usual ports. -/
def specialPort? (scheme : String) : Option Nat :=
  if scheme = "http" || scheme = "ws" then some 80
  else if scheme = "https" || scheme = "wss" then some 443
  else if scheme = "ftp" then some 21
  else none

/-- The scheme has rules of its own. -/
def isSpecial (scheme : String) : Bool := (specialPort? scheme).isSome || scheme = "file"

/-! ### Views -/

/-- The path without structure cannot be extended by segments. -/
def isFlat (u : Url) : Bool :=
  match u.path with
  | .flat _ => true
  | .segments _ => false

/-- The segments of the path; none for a path without structure. -/
def pathSegments (u : Url) : List String :=
  match u.path with
  | .flat _ => []
  | .segments list => list

/-- The host as it stands in the URL, if there is one. -/
def hostText? (u : Url) : Option String :=
  (u.authority.map fun a => a.host.text).filter fun h => !h.isEmpty

/-- The port that a connection is made to. -/
def port? (u : Url) : Option Nat :=
  match u.authority.bind (·.port) with
  | some p => some p
  | none => specialPort? u.scheme

/-- A URL without authority whose path begins with two slashes has `/.` in front of the path, lest
the path be read as an authority. -/
def pathGuard (u : Url) : String :=
  match u.authority, u.path with
  | none, .segments ("" :: _ :: _) => "/."
  | _, _ => ""

/-- The URL up to and including its path. -/
def base (u : Url) : String :=
  u.scheme ++ ":" ++ (match u.authority with
    | some a => "//" ++ a.text
    | none => "") ++ u.pathGuard ++ u.path.text

/-- The query with its question mark. -/
def queryText (u : Url) : String :=
  match u.query with
  | some q => "?" ++ q
  | none => ""

/-- The URL as a server sees it: without the fragment. -/
def requestText (u : Url) : String := u.base ++ u.queryText

def text (u : Url) : String :=
  u.requestText ++ (match u.fragment with
    | some f => "#" ++ f
    | none => "")

instance : ToString Url := ⟨Url.text⟩

end Url

end Reindex
