import Reindex.Url.Basic
import Reindex.Url.Percent
import Reindex.Url.Pieces

/-!
# Paths

How a path comes to be: a raw text is cut at its slashes, each piece is encoded, and the pieces are
placed one after the other, where `.` stands for the place itself and `..` for the place before it.
The same placing serves to replace the path of a URL and to append single segments to it.
-/

namespace Reindex.Url

/-- The spellings of a single dot. -/
def isDot (s : List Char) : Bool :=
  s = ['.'] || s.map Char.toLower = ['%', '2', 'e']

def isDotDot (s : List Char) : Bool :=
  match s with
  | '.' :: rest => isDot rest
  | '%' :: '2' :: e :: rest => (e = 'e' || e = 'E') && isDot rest
  | _ => false

/-- A letter and a colon or a bar: a drive, which `..` does not leave. -/
def isDrive (s : List Char) : Bool :=
  match s with
  | [c, d] => c.isAlpha && (d = ':' || d = '|')
  | _ => false

/-- Leave the last segment, unless it is a drive. -/
def leave (segments : List (List Char)) : List (List Char) :=
  match segments.getLast? with
  | some last => if isDrive last then segments else segments.dropLast
  | none => []

/-- Place the encoded pieces behind the segments there are. -/
def place (done : List (List Char)) : List (List Char) → List (List Char)
  | [] => done
  | [last] =>
    if isDotDot last then leave done ++ [[]]
    else if isDot last then done ++ [[]]
    else done ++ [last]
  | piece :: more =>
    if isDotDot piece then place (leave done) more
    else if isDot piece then place done more
    else place (done ++ [piece]) more

/-- In the path of a file a drive has a colon, and there is no empty segment in front. -/
def tidyFile (segments : List (List Char)) : List (List Char) :=
  let segments := match segments with
    | [c, '|'] :: rest => if c.isAlpha then [c, ':'] :: rest else segments
    | _ => segments
  match segments.dropWhile (·.isEmpty) with
  | [] => [[]]
  | rest => rest

/-- Tabs and line breaks do not count in a URL. -/
def isSkipped (c : Char) : Bool := c = '\t' || c = '\n' || c = '\r'

/-- The path that a raw text gives under a scheme. -/
def pathOf (scheme : String) (raw : List Char) : List (List Char) :=
  let raw := raw.filter (!isSkipped ·)
  let isSeparator (c : Char) : Bool := c = '/' || (isSpecial scheme && c = '\\')
  let pieces (cs : List Char) := (cutAt isSeparator cs).map (Percent.encode Percent.path)
  let placed := match raw with
    | [] => if isSpecial scheme then [[]] else []
    | c :: rest => place [] (pieces (if isSeparator c then rest else raw))
  if scheme = "file" then tidyFile placed else placed

/-- The URL with the path that a raw text gives. -/
def withPath (u : Url) (raw : String) : Url :=
  match u.path with
  | .flat _ =>
    let encoded (cs : List Char) := Percent.encode Percent.control (cs.filter (!isSkipped ·))
    let cs := match raw.toList with
      | '/' :: rest => ['%', '2', 'F'] ++ encoded rest
      | cs => encoded cs
    { u with path := .flat (String.ofList cs) }
  | .segments _ =>
    { u with path := .segments ((pathOf u.scheme raw.toList).map String.ofList) }

/-- One raw text as a segment behind the segments there are. The lone empty segment of the root
gives way. -/
def pushSegment (scheme : String) (segments : List (List Char)) (raw : List Char) :
    List (List Char) :=
  if raw = ['.'] || raw = ['.', '.'] then segments
  else
    let set := if isSpecial scheme then Percent.specialSegment else Percent.segment
    let done := if segments = [[]] then [] else segments
    let placed := place done [Percent.encode set (raw.filter (!isSkipped ·))]
    if scheme = "file" then tidyFile placed else placed

/-- The segments without an empty one at the end, unless it is the only one. -/
def dropEmptyLast (segments : List (List Char)) : List (List Char) :=
  if 2 ≤ segments.length && segments.getLast? = some [] then segments.dropLast else segments

/-- The URL with texts appended as segments of its path; none if the path has no structure. -/
def append? (u : Url) (raws : List String) : Option Url :=
  match u.path with
  | .flat _ => none
  | .segments list =>
    let start := dropEmptyLast (list.map String.toList)
    let placed := raws.foldl (fun segs raw => pushSegment u.scheme segs raw.toList) start
    some { u with path := .segments (placed.map String.ofList) }

end Reindex.Url
