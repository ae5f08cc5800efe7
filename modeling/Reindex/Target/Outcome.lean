import Reindex.Http.Message

/-!
# What comes of the request
-/

namespace Reindex

inductive ResponseFault where
  | transport (fault : Http.TransportFault)
  /-- Any other reason, in the words of whoever found it. -/
  | stated (message : String)
  deriving DecidableEq, Repr

def ResponseFault.message : ResponseFault → String
  | .transport fault => fault.messageByKind
  | .stated message => message

inductive PreparationFault where
  | invalidToken
  /-- Any other reason, in the words of whoever found it. -/
  | stated (message : String)
  deriving DecidableEq, Repr

def PreparationFault.message : PreparationFault → String
  | .invalidToken => "access token is not a valid header value"
  | .stated message => message

/-- Why an attempt did not succeed. -/
inductive RequestError where
  | transport (fault : ResponseFault)
  /-- The status is not the expected one. -/
  | unexpectedStatus (expected actual : UInt16)
  | preparation (fault : PreparationFault)
  deriving DecidableEq, Repr

namespace RequestError

def message : RequestError → String
  | .transport fault => "Transport error: " ++ fault.message
  | .unexpectedStatus expected actual =>
    "Unexpected status " ++ toString actual.toNat ++ " (expected " ++ toString expected.toNat ++ ")"
  | .preparation fault => "Could not prepare request: " ++ fault.message

/-- The status of the response, if there was one. -/
def status? : RequestError → Option UInt16
  | .unexpectedStatus _ actual => some actual
  | _ => none

/-- Another attempt may do better. -/
def isRetryable : RequestError → Bool
  | .preparation _ => false
  | _ => true

end RequestError

inductive RequestOutcome where
  /-- One of them had the expected status. -/
  | success (status : UInt16)
  /-- None of them had; this is what was wrong with the last one. -/
  | failure (attempts : UInt32) (lastError : RequestError)
  deriving DecidableEq, Repr

namespace RequestOutcome

/-- There was the expected status. -/
def isSuccess : RequestOutcome → Bool
  | .success _ => true
  | .failure .. => false

/-- The status of the last response, if there was one. -/
def status? : RequestOutcome → Option UInt16
  | .success status => some status
  | .failure _ lastError => lastError.status?

end RequestOutcome

end Reindex
