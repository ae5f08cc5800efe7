import Reindex.Text.Blank
import Reindex.Url.Domain
import Reindex.Url.Path

/-!
# Reading URLs

`Url.parse` reads an absolute URL the way browsers do: blanks around the text and line breaks inside
it do not count, capitals in scheme and host become small, backslashes separate under special
schemes, and whatever a component may not hold is percent-encoded. The text is cut first at the
number sign, then at the question mark, then into scheme, authority and path.
-/

namespace Reindex.Url

open Reindex.Text

/-! ### Cutting -/

/-- The text before the first `sep`, and the text behind it if there is one. -/
def cutFirst (sep : Char) (cs : List Char) : List Char × Option (List Char) :=
  match cs.dropWhile (· ≠ sep) with
  | [] => (cs, none)
  | _ :: rest => (cs.takeWhile (· ≠ sep), some rest)

/-- The text before the last `sep` and the text behind it, if there is one. -/
def cutLast? (sep : Char) (cs : List Char) : Option (List Char × List Char) :=
  match cs.reverse.dropWhile (· ≠ sep) with
  | [] => none
  | _ :: front => some (front.reverse, (cs.reverse.takeWhile (· ≠ sep)).reverse)

/-- Controls and spaces, which do not count around a URL. -/
def isOuterBlank (c : Char) : Bool := c.toNat ≤ 0x20

/-- The characters of a URL that count. -/
def cleaned (cs : List Char) : List Char :=
  (dropRightWhile isOuterBlank (cs.dropWhile isOuterBlank)).filter (!isSkipped ·)

/-- The scheme in small letters, and the text behind its colon. -/
def cutScheme? (cs : List Char) : Option (List Char × List Char) :=
  let isSchemeChar (c : Char) : Bool := c.isAlphanum || c = '+' || c = '-' || c = '.'
  match cs with
  | [] => none
  | c :: _ =>
    match cs.dropWhile isSchemeChar with
    | ':' :: rest =>
      if c.isAlpha then some ((cs.takeWhile isSchemeChar).map Char.toLower, rest) else none
    | _ => none

/-! ### Hosts -/

/-- The characters that the host of an unknown scheme cannot hold. -/
def isForbiddenHostChar (c : Char) : Bool :=
  ['\x00', '\t', '\n', '\r', ' ', '#', '/', ':', '<', '>', '?', '@', '[', '\\', ']', '^',
    '|'].contains c

def bracketed? (cs : List Char) : Except UrlError Host :=
  match cs.getLast? with
  | some ']' =>
    match ipv6? (cs.drop 1).dropLast with
    | some pieces => .ok (.ipv6 pieces)
    | none => .error .invalidIpv6
  | _ => .error .invalidIpv6

/-- The host of an unknown scheme. -/
def rawHost? (cs : List Char) : Except UrlError Host :=
  if cs.head? = some '[' then bracketed? cs
  else if cs.any isForbiddenHostChar then .error .invalidHostChar
  else .ok (.domain (String.ofList (Percent.encode Percent.control cs)))

/-- The host of a special scheme: a domain name, or a numeric address. -/
def specialHost? (cs : List Char) : Except UrlError Host :=
  if cs.head? = some '[' then bracketed? cs
  else
    match Domain.toAscii? (Percent.decode cs) with
    | none => .error .invalidDomain
    | some [] => .error .emptyHost
    | some name =>
      if endsInNumber name then
        match ipv4? name with
        | some bits => .ok (.ipv4 bits)
        | none => .error .invalidIpv4
      else .ok (.domain (String.ofList name))

/-! ### Authorities -/

/-- The user name and password in front of the last `@`. -/
def credentials (cs : List Char) : String × Option String :=
  let (name, password) := cutFirst ':' cs
  let encoded (cs : List Char) := String.ofList (Percent.encode Percent.userinfo cs)
  (encoded name, (password.filter (· ≠ [])).map encoded)

/-- The host text and the port text behind the colon that ends it; colons in brackets belong to
the host. -/
def cutPort (inBrackets : Bool) : List Char → List Char × Option (List Char)
  | [] => ([], none)
  | ':' :: rest =>
    if inBrackets then
      let (host, port) := cutPort inBrackets rest
      (':' :: host, port)
    else ([], some rest)
  | c :: rest =>
    let inside := if c = '[' then true else if c = ']' then false else inBrackets
    let (host, port) := cutPort inside rest
    (c :: host, port)

/-- The port, unless it is the usual one. -/
def portOf? (scheme : String) (cs : List Char) : Except UrlError (Option Nat) :=
  match digits? cs with
  | none => if cs.isEmpty then .ok none else .error .invalidPort
  | some n =>
    if n ≥ 65536 then .error .invalidPort
    else .ok (if specialPort? scheme = some n then none else some n)

/-- The authority in a text; `more` tells whether anything follows it in the URL. -/
def authority? (scheme : String) (more : Bool) (cs : List Char) : Except UrlError Authority := do
  let (user, rest) := match cutLast? '@' cs with
    | some (user, rest) => (some user, rest)
    | none => (none, cs)
  let (username, password) := credentials (user.getD [])
  let named := !username.isEmpty || password.isSome
  let (hostText, portText) := cutPort false rest
  if hostText.isEmpty && (isSpecial scheme || portText.isSome || named || (user = some [] && more))
  then throw .emptyHost
  let host ← if isSpecial scheme then specialHost? hostText else rawHost? hostText
  let port ← portOf? scheme (portText.getD [])
  return ⟨username, password, host, port⟩

/-! ### The parts together -/

/-- The segments of a path under a scheme, as texts. -/
def segmentsOf (scheme : String) (cs : List Char) : Path :=
  .segments ((pathOf scheme cs).map String.ofList)

/-- Separates the parts of a URL with a special scheme. -/
def isSlash (c : Char) : Bool := c = '/' || c = '\\'

/-- Authority and path of a file URL. A drive is no host, and neither is `localhost`; a drive at the
front of the path leaves no host either. -/
def fileParts? (cs : List Char) : Except UrlError (Authority × Path) := do
  let nobody : Authority := ⟨"", none, .domain "", none⟩
  match cs with
  | a :: b :: rest =>
    if isSlash a && isSlash b then
      let hostText := rest.takeWhile (!isSlash ·)
      if isDrive hostText || hostText.isEmpty then return (nobody, segmentsOf "file" rest)
      else
        let host ← specialHost? hostText
        let path := segmentsOf "file" (rest.dropWhile (!isSlash ·))
        let drive := match path with
          | .segments (first :: _) => isDrive first.toList
          | _ => false
        if host = .domain "localhost" || drive then return (nobody, path)
        else return ({ nobody with host := host }, path)
    else return (nobody, segmentsOf "file" cs)
  | _ => return (nobody, segmentsOf "file" cs)

/-- Authority and path behind the colon of the scheme; `more` tells whether a query or a fragment
follows. -/
def parts? (scheme : String) (more : Bool) (cs : List Char) :
    Except UrlError (Option Authority × Path) := do
  if scheme = "file" then
    let (a, p) ← fileParts? cs
    return (some a, p)
  else if isSpecial scheme then
    let rest := cs.dropWhile isSlash
    let pathText := rest.dropWhile (!isSlash ·)
    let a ← authority? scheme (more || !pathText.isEmpty) (rest.takeWhile (!isSlash ·))
    return (some a, segmentsOf scheme pathText)
  else
    match cs with
    | '/' :: '/' :: rest =>
      let text := rest.takeWhile (· ≠ '/')
      let pathText := rest.dropWhile (· ≠ '/')
      -- a backslash ends the port, and then begins the path
      let (text, pathText) := match cutLast? '@' text with
        | some (user, host) => cutBackslash (user ++ ['@']) host pathText
        | none => cutBackslash [] text pathText
      let a ← authority? scheme (more || !pathText.isEmpty) text
      return (some a, segmentsOf scheme pathText)
    | '/' :: _ => return (none, segmentsOf scheme cs)
    | _ => return (none, .flat (String.ofList (Percent.encode Percent.control cs)))
where
  /-- Move a backslash in the port, and what follows it, to the path. -/
  cutBackslash (front host pathText : List Char) : List Char × List Char :=
    match cutPort false host with
    | (_, some port) =>
      let tail := port.dropWhile (· ≠ '\\')
      (front ++ host.take (host.length - tail.length), tail ++ pathText)
    | (_, none) => (front ++ host, pathText)

def parse (s : String) : Except UrlError Url := do
  let cs := cleaned s.toList
  let (scheme, rest) ← match cutScheme? cs with
    | some (scheme, rest) => pure (String.ofList scheme, rest)
    | none => throw .relative
  let (rest, fragment) := cutFirst '#' rest
  let (rest, query) := cutFirst '?' rest
  let (authority, path) ← parts? scheme (query.isSome || fragment.isSome) rest
  let querySet := if isSpecial scheme then Percent.specialQuery else Percent.query
  return {
    scheme, authority, path
    query := query.map fun q => String.ofList (Percent.encode querySet q)
    fragment := fragment.map fun f => String.ofList (Percent.encode Percent.fragment f) }

end Reindex.Url
