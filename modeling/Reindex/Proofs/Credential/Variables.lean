import Reindex.Credential.Chain
import Reindex.Proofs.Outcome
import Reindex.Proofs.Text.Blank

/-!
# Sources in the environment

Which sources an environment describes, in terms of the variables that hold something. A client with a
secret and a client that its host vouches for are there if none of their variables is missing. The host
that knows its client is always there, at its usual address if not at one of its own, unless the
address that it is given is no URL.
-/

namespace Reindex

namespace Environment

/-- The first of the variables that is not there or holds nothing but blanks. -/
def missing? (env : Environment) (vars : List String) : Option String :=
  vars.find? fun var => (env var).all Text.isBlank

/-- The value of a variable without the blanks around it. -/
def held (env : Environment) (var : String) : String := Text.trim ((env var).getD "")

lemma required_eq (env : Environment) (credential var : String) :
    env.required credential var =
      if (env var).all Text.isBlank then .error (.notConfigured credential (.unset var))
      else .ok (env.held var) := by
  unfold required trimmed? held
  cases env var with
  | none => rfl
  | some v =>
    rw [Option.map_some, Option.all_some, ← Text.isEmpty_trim, Option.getD_some, Option.filter_some]
    cases (Text.trim v).isEmpty with
    | true => rfl
    | false => rfl

/-- A source whose variables are read one after the other is there if none of them is missing. -/
lemma required_bind {α : Type} (env : Environment) (credential var : String) (vars : List String)
    (next : String → Except CredentialError α) (a : α)
    (h : next (env.held var) = match env.missing? vars with
      | some var => .error (.notConfigured credential (.unset var))
      | none => .ok a) :
    (env.required credential var >>= next) = match env.missing? (var :: vars) with
      | some var => .error (.notConfigured credential (.unset var))
      | none => .ok a := by
  rw [required_eq, missing?, List.find?_cons]
  cases (env var).all Text.isBlank with
  | true => rfl
  | false => exact h

end Environment

namespace SecretCredential

def vars : List String := [tenantVariable, clientVariable, clientSecretVariable]

/-- The client whose variables hold something. -/
def ofVariables (env : Environment) (authority : Url) : SecretCredential :=
  ⟨env.held tenantVariable, env.held clientVariable, ⟨env.held clientSecretVariable⟩, authority⟩

lemma ofEnvironment_eq (env : Environment) (authority : Url) :
    ofEnvironment env authority = match env.missing? vars with
      | some var => .error (.notConfigured name (.unset var))
      | none => .ok (ofVariables env authority) := by
  apply env.required_bind
  apply env.required_bind
  apply env.required_bind
  rfl

end SecretCredential

namespace WorkloadCredential

def vars : List String := [tokenFileVariable, tenantVariable, clientVariable]

/-- The client whose variables hold something. -/
def ofVariables (env : Environment) (authority : Url) : WorkloadCredential :=
  ⟨env.held tenantVariable, env.held clientVariable, env.held tokenFileVariable, authority⟩

lemma ofEnvironment_eq (env : Environment) (authority : Url) :
    ofEnvironment env authority = match env.missing? vars with
      | some var => .error (.notConfigured name (.unset var))
      | none => .ok (ofVariables env authority) := by
  apply env.required_bind
  apply env.required_bind
  apply env.required_bind
  rfl

end WorkloadCredential

namespace ManagedCredential

/-- The variables that describe a managed platform. -/
def vars : List String := [identityEndpointVariable, identityHeaderVariable]

/-- The URL of the service that every virtual machine has. -/
def metadataUrl : Url where
  scheme := "http"
  authority := some ⟨"", none, .ipv4 0xA9FEA9FE, none⟩
  path := .segments ["metadata", "identity", "oauth2", "token"]
  query := none
  fragment := none

lemma parse_metadataAddress : Url.parse ManagedEndpoint.metadataAddress = .ok metadataUrl :=
  toOption_eq_some_iff.mp (by decide +kernel)

/-- The platform that the environment describes if both of its variables hold something, or else the
service of virtual machines. -/
def service (env : Environment) : Except UrlError ManagedEndpoint :=
  if env.missing? vars = none then
    (Url.parse (env.held identityEndpointVariable)).map
      (.platform · ⟨(env identityHeaderVariable).getD ""⟩)
  else .ok (.metadata metadataUrl)

lemma nonBlank?_eq_none_iff {env : Environment} {var : String} :
    nonBlank? env var = none ↔ (env var).all Text.isBlank = true := by
  unfold nonBlank?
  cases env var with
  | none => simp
  | some v => simp

lemma all_isBlank_of_nonBlank? {env : Environment} {var v : String} (h : nonBlank? env var = some v) :
    (env var).all Text.isBlank = false := by
  rw [← Bool.not_eq_true, ← nonBlank?_eq_none_iff, h]
  exact Option.some_ne_none v

lemma eq_some_of_nonBlank? {env : Environment} {var v : String} (h : nonBlank? env var = some v) :
    env var = some v :=
  (Option.filter_eq_some_iff.mp h).1

lemma ofEnvironment_eq (env : Environment) :
    ofEnvironment env = match service env with
      | .ok endpoint => .ok ⟨endpoint, nonBlank? env clientVariable⟩
      | .error cause => .error (.notConfigured name (.notUrl identityEndpointVariable cause)) := by
  unfold ofEnvironment service Environment.missing? vars
  rw [List.find?_cons, List.find?_cons, List.find?_nil]
  cases hendpoint : nonBlank? env identityEndpointVariable with
  | none =>
    rw [nonBlank?_eq_none_iff.mp hendpoint, urlOf, parse_metadataAddress]
    rfl
  | some endpoint =>
    rw [all_isBlank_of_nonBlank? hendpoint, Environment.held, eq_some_of_nonBlank? hendpoint]
    cases hheader : nonBlank? env identityHeaderVariable with
    | none =>
      rw [nonBlank?_eq_none_iff.mp hheader, urlOf, parse_metadataAddress]
      rfl
    | some header =>
      rw [all_isBlank_of_nonBlank? hheader, eq_some_of_nonBlank? hheader, Option.getD_some,
        Option.getD_some]
      simp only [urlOf]
      cases Url.parse (Text.trim endpoint) with
      | error cause => rfl
      | ok url => rfl

end ManagedCredential

end Reindex
