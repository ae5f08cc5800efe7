import Reindex.Config.Error
import Reindex.Identity.Token
import Reindex.Secret.Error
import Reindex.Target.Outcome
import Reindex.Target.Spec

/-!
# Why a job fails

Every stage of a job has its own errors. An error that the configuration is to blame for has another
exit code than one that shows up while the job runs.
-/

namespace Reindex

inductive JobError where
  /-- The configuration is wrong, in these words. -/
  | configuration (message : String)
  /-- There are no secrets, or they make up no identity. -/
  | secrets (error : SecretError)
  | authentication (error : AuthError)
  | requestFailed (attempts : UInt32) (error : RequestError)
  deriving DecidableEq, Repr

namespace JobError

/-- The exit code of a job that did what it should. -/
def exitSuccess : UInt8 := 0

/-- The exit code of a job that failed. -/
def exitFailure : UInt8 := 1

/-- The exit code of a job that is not set up. -/
def exitConfig : UInt8 := 2

/-- The error of a job whose configuration is wrong. -/
def ofConfig (e : ConfigError) : JobError := .configuration e.message

/-- The error of a job whose request is wrong. -/
def ofSpec (e : SpecError) : JobError := .configuration e.message

/-- The error of a job whose secrets are not there. Wrong names are to blame on the
configuration. -/
def ofSecret (e : SecretError) : JobError :=
  match e with
  | .invalidName .. => .configuration e.message
  | _ => .secrets e

def message : JobError → String
  | .configuration message => "Configuration error: " ++ message
  | .secrets error => error.message
  | .authentication error => error.message
  | .requestFailed attempts error =>
    "Request failed after " ++ toString attempts.toNat ++ " attempt(s): " ++ error.message

def exitCode : JobError → UInt8
  | .configuration _ => exitConfig
  | _ => exitFailure

/-- The stage in which the job failed. -/
def stage : JobError → String
  | .configuration _ => "configuration"
  | .secrets (.incomplete _) => "credential"
  | .secrets _ => "secrets"
  | .authentication _ => "authentication"
  | .requestFailed .. => "request"

/-- What is behind the error, in words. -/
def source? : JobError → Option String
  | .secrets (.credential error) => some error.message
  | .requestFailed _ error => some error.message
  | _ => none

end JobError

end Reindex
