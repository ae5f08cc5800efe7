import Reindex.Config.Check
import Reindex.Http.Header
import Reindex.Url.Path

/-!
# The request of a job

Where the request goes, which header fields it has on every attempt, and which status means success.
-/

namespace Reindex

/-- The characters without slashes at the end. -/
def withoutLastSlashes (cs : List Char) : List Char := Text.dropRightWhile (· = '/') cs

/-- The characters without slashes at the front. -/
def withoutFirstSlashes (cs : List Char) : List Char := cs.dropWhile (· = '/')

/-- The URL with a path behind the path it has, and exactly one slash in between. -/
def Url.joinPath (base : Url) (path : String) : Url :=
  base.withPath (String.ofList
    (withoutLastSlashes base.path.text.toList ++ '/' :: withoutFirstSlashes path.toList))

inductive SpecError where
  | config (error : ConfigError)
  | invalidHeader (name : String) (fault : Http.HeaderFault)
  | invalidStatus (status : UInt16)
  deriving DecidableEq, Repr

def SpecError.message : SpecError → String
  | .config error => error.message
  | .invalidHeader name fault => "Invalid header " ++ name ++ ": " ++ fault.message
  | .invalidStatus status => "Invalid expected status " ++ toString status.toNat

structure RequestSpec where
  url : Url
  /-- Header fields, in the order in which they were given. -/
  headers : List (String × String) := []
  expectedStatus : UInt16
  /-- The milliseconds that an attempt may take. -/
  timeoutMs : Nat := 30000
  insecureSkipVerify : Bool := false

namespace RequestSpec

/-- A number that can be a status. -/
def isStatus (n : UInt16) : Bool := 100 ≤ n && n ≤ 999

/-- A request without header fields. -/
def create (url : Url) (expectedStatus : UInt16) : Except SpecError RequestSpec :=
  if isStatus expectedStatus then .ok { url, expectedStatus }
  else .error (.invalidStatus expectedStatus)

/-- The request with one more header field. Blanks around the name do not count. -/
def withHeader (r : RequestSpec) (name value : String) : Except SpecError RequestSpec :=
  match Http.headerName? (Text.trim name) with
  | none => .error (.invalidHeader name .name)
  | some field =>
    if Http.isHeaderValue value then .ok { r with headers := r.headers ++ [(field, value)] }
    else .error (.invalidHeader name .value)

/-- The request that a configuration describes. -/
def ofConfig (c : JobConfig) : Except SpecError RequestSpec := do
  let base ← c.targetBaseUrl.mapError .config
  let r ← create (base.joinPath c.target.path) c.target.expectedStatus
  let r ← r.withHeader c.target.partitionHeader c.target.partitionId
  return { r with
    timeoutMs := c.target.timeoutMs
    insecureSkipVerify := c.target.insecureSkipVerify }

end RequestSpec

end Reindex
