import Reindex.Credential.Managed
import Reindex.Credential.Secret
import Reindex.Credential.Workload

/-!
# Chains of credentials

Sources are asked in turn until one of them gives a token or is refused.
-/

namespace Reindex

/-- Sources to be asked in turn, and why others are not among them. -/
structure CredentialChain (σ : Type) where
  members : List (Credential σ)
  /-- What is wrong with the sources that were left out. -/
  skipped : List String := []

namespace CredentialChain

variable {σ : Type}

def name : String := "default-chain"

/-- The sources that an environment may describe, in the order in which they are asked. -/
def candidates (env : Environment) (authority : Url) :
    List (Except CredentialError (Credential σ)) :=
  [(SecretCredential.ofEnvironment env authority).map SecretCredential.credential,
    (WorkloadCredential.ofEnvironment env authority).map WorkloadCredential.credential,
    (ManagedCredential.ofEnvironment env).map ManagedCredential.credential]

/-- The chain of those candidates that are there. -/
def ofCandidates (candidates : List (Except CredentialError (Credential σ))) :
    CredentialChain σ where
  members := candidates.filterMap Except.toOption
  skipped := candidates.filterMap fun
    | .error e => some e.message
    | .ok _ => none

/-- The chain of the sources that an environment describes. -/
def ofEnvironment (env : Environment) (authority : Url) : CredentialChain σ :=
  ofCandidates (candidates env authority)

def memberNames (c : CredentialChain σ) : List String := c.members.map (·.name)

/-- Say which sources were left out. -/
def announceSkipped (c : CredentialChain σ) : Work σ Unit :=
  c.skipped.forM fun reason => Work.log ⟨.debug, "Skipping ambient credential: " ++ reason, []⟩

/-- What is said when a source gives a token. -/
def selectedEvent (member : String) : LogEvent :=
  ⟨.debug, "Ambient credential selected", [("credential", .text member)]⟩

/-- What is said when a source leaves the question to the next one. -/
def unavailableEvent (member : String) (e : CredentialError) : LogEvent :=
  ⟨.warn, "Ambient credential unavailable: " ++ e.message, [("credential", .text member)]⟩

/-- Ask the sources in turn, after others were tried in vain. -/
def tryAll (scopes : List String) (attempted : List String) :
    List (Credential σ) → Work σ (Except CredentialError AccessToken)
  | [] => pure (.error (.exhausted attempted))
  | member :: rest => do
    match ← member.token scopes with
    | .ok token =>
      Work.log (selectedEvent member.name)
      return .ok token
    | .error e =>
      if e.isFallthrough then
        Work.log (unavailableEvent member.name e)
        tryAll scopes (attempted ++ [e.message]) rest
      else return .error e

def token (c : CredentialChain σ) (scopes : List String) :
    Work σ (Except CredentialError AccessToken) :=
  tryAll scopes c.skipped c.members

def credential (c : CredentialChain σ) : Credential σ := ⟨name, c.token⟩

end CredentialChain

end Reindex
