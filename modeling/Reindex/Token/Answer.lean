import Reindex.Http.Message
import Reindex.Json.Reader
import Reindex.Text.Numeral
import Reindex.Token.Basic

/-!
# Answers of token endpoints

What the answer of a token endpoint means. A good answer has the token and perhaps its lifetime, a
bad one may say what is wrong. Of the description of an error nothing is kept but the code in front
of it, since the rest tells who asked.
-/

namespace Reindex

open Text

inductive TokenFault where
  /-- The exchange with the endpoint failed. -/
  | transport (fault : Http.TransportFault)
  /-- The answer to a good status is not understood. -/
  | malformed
  | emptyToken
  /-- The endpoint names an error, perhaps with the code of a service. -/
  | refused (error : String) (code : Option String)
  /-- The status is no good one, and nothing more is known. -/
  | status (n : Nat)
  /-- The address of the authority cannot have a path. -/
  | noPath (authority : Url)
  /-- Any other fault, in the words of whoever found it. -/
  | stated (message : String)
  deriving DecidableEq, Repr

def TokenFault.message : TokenFault → String
  | .transport fault => fault.message
  | .malformed => "malformed token response"
  | .emptyToken => "token endpoint returned an empty access token"
  | .refused error none => error
  | .refused error (some code) => error ++ ": " ++ code
  | .status n => "token endpoint returned status " ++ toString n
  | .noPath authority => "authority '" ++ authority.text ++ "' cannot carry a path"
  | .stated message => message

/-- A failure to get a token, by whose fault it is. -/
inductive TokenFailure where
  | transport (fault : TokenFault)
  | rejected (fault : TokenFault)
  deriving DecidableEq, Repr

def TokenFailure.fault : TokenFailure → TokenFault
  | .transport fault => fault
  | .rejected fault => fault

namespace TokenAnswer

/-- The lifetime in an answer: a number, or a text that may spell one. -/
def lifetime? : Option Json → Option (Option Int)
  | none | some .null => some none
  | some (.number spelling) => (Json.int64? spelling).map some
  | some (.string (some text)) => some (int64? (trim text))
  | some _ => none

/-- The token and its lifetime in the body of a good answer. -/
def grant? (body : String) : Option (String × Option Int) := do
  match ← (← Json.readText? body).fields? ["access_token", "expires_in"] with
  | [some token, expiresIn] => return (← token.text?, ← lifetime? expiresIn)
  | _ => none

/-- The error and its description in the body of a bad answer. -/
def complaint? (body : String) : Option (String × Option String) := do
  match ← (← Json.readText? body).fields? ["error", "error_description"] with
  | [some error, description] => return (← error.text?, ← Json.optionalText? description)
  | _ => none

/-- What codes of services begin with. -/
def codePrefix : List Char := "AADSTS".toList

/-- The code that a description begins with. -/
def serviceCode? (description : String) : Option String :=
  let head := trimEndList ((trimStartList description.toList).takeWhile (· ≠ ':'))
  let digits := head.drop codePrefix.length
  if codePrefix.isPrefixOf head && !digits.isEmpty && digits.all (fun c => (digit? c).isSome) then
    some (String.ofList head)
  else none

/-- What is wrong according to a bad answer. -/
def faultOf (status : Nat) (body : String) : TokenFault :=
  match complaint? body with
  | some (error, description) => .refused error (description.bind serviceCode?)
  | none => .status status

def read (now : Instant) (answer : Http.Response) : Except TokenFailure AccessToken :=
  if !answer.body.complete then .error (.transport (.transport .brokenBody))
  else
    let body := answer.body.lossyText
    if Http.isSuccess answer.status then
      match grant? body with
      | none => .error (.rejected .malformed)
      | some (token, lifetime) =>
        if isBlank token then .error (.rejected .emptyToken)
        else .ok (.expiringIn now token lifetime)
    else
      let fault := faultOf answer.status body
      if Http.isServerError answer.status then .error (.transport fault)
      else .error (.rejected fault)

end TokenAnswer

end Reindex
