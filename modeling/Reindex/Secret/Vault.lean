import Reindex.Json.Reader
import Reindex.Secret.Store
import Reindex.Url.Path

/-!
# Vaults

A store that is asked over HTTP. It wants to see a token, which is got from a credential before the
first secret is read and kept for the others.
-/

namespace Reindex

structure SecretReference where
  store : Url
  name : SecretName

def SecretReference.url (r : SecretReference) : Except SecretError Url :=
  match r.store.withoutQuery.append? ["secrets", r.name.text] with
  | some url => .ok url
  | none => .error (.unreachable r.store.text .noPath)

structure Vault (σ : Type) where
  url : Url
  credential : Credential σ

namespace Vault

variable {σ : Type}

/-- The version of the questions that vaults understand. -/
def apiVersion : String := "7.4"

/-- The scope of the token that vaults want to see. -/
def scope : String := "https://vault.azure.net/.default"

/-- What the vault is called where something is said about it. -/
def label (v : Vault σ) : String := v.url.hostText?.getD v.url.text

/-- The token to show: the one there is, or else a new one. -/
def storeToken (v : Vault σ) :
    StateT (Option AccessToken) (Work σ) (Except SecretError AccessToken) := do
  match ← get with
  | some token => return .ok token
  | none =>
    Work.say ⟨.debug, "Requesting secret store token",
      [("credential", .text v.credential.name), ("vault", .shown v.label)]⟩
    match ← v.credential.token [scope] with
    | .error e => return .error (.credential e)
    | .ok token =>
      set (some token)
      return .ok token

def request (url : Url) (token : AccessToken) : Http.Request :=
  .get (url.appendPairs [("api-version", apiVersion)])
    [("authorization", token.bearer), ("accept", "application/json")]

/-- The value in the body of a good answer. -/
def value? (body : Http.Body) : Option String := do
  match ← (← Json.read? body.octets).fields? ["value"] with
  | [some value] => value.text?
  | _ => none

/-- The code of the error in the body of a bad answer. -/
def errorCode? (body : String) : Option String := do
  match ← (← Json.readText? body).fields? ["error"] with
  | [some error] =>
    match ← error.fields? ["code"] with
    | [some code] => code.text?
    | _ => none
  | _ => none

/-- What the answer of a vault means. -/
def meaning (label : String) (name : SecretName) (answer : Http.Response) :
    Except SecretError SecretValue :=
  let refuse (reason : SecretRefusal) : Except SecretError SecretValue :=
    .error (.unavailable name.text reason)
  if answer.status = 200 then
    match if answer.body.complete then value? answer.body else none with
    | some value => .ok (.ofText value)
    | none => refuse .malformed
  else if Http.isServerError answer.status then
    .error (.unreachable label (.status answer.status))
  else
    let body := if answer.body.complete then answer.body.lossyText else ""
    refuse (.status answer.status ((errorCode? body).map redact))

/-- Read a secret with a token to show. -/
def readWith (v : Vault σ) (token : AccessToken) (name : SecretName) :
    Work σ (Except SecretError SecretValue) :=
  match (SecretReference.mk v.url name).url with
  | .error e => pure (.error e)
  | .ok url => do
    match ← Work.exchange (request url token) with
    | .error fault => return .error (.unreachable v.label (.transport fault))
    | .ok answer =>
      Work.log ⟨.debug, "Key Vault responded",
        [("secret_name", .shown name.text), ("status", .number answer.status)]⟩
      return meaning v.label name answer

def read (v : Vault σ) (name : SecretName) :
    StateT (Option AccessToken) (Work σ) (Except SecretError SecretValue) := do
  match ← v.storeToken with
  | .error e => return .error e
  | .ok token => liftM (v.readWith token name)

def store (v : Vault σ) : SecretStore σ (Option AccessToken) := ⟨"azure-key-vault", v.label, v.read⟩

/-- Read a batch of names from a vault. -/
def resolve (v : Vault σ) (names : List SecretName) :
    Work σ (Except SecretError ResolvedSecrets) := do
  return (← (v.store.resolve names).run none).1

end Vault

end Reindex
