import Mathlib.Tactic.Common
import Reindex.Credential.Chain
import Reindex.Proofs.Session.Relation

/-!
# Credentials as data

The kinds of credentials that can be put before a store: a single source, or a chain of sources. What
they do is plain work, so it does not depend on what has happened before.
-/

namespace Reindex

variable {σ : Type}

inductive CredentialSource where
  | fixed (token : AccessToken)
  | secret (client : SecretCredential)
  | workload (client : WorkloadCredential)
  | managed (client : ManagedCredential)

def CredentialSource.credential : CredentialSource → Credential σ
  | .fixed token => .fixed token
  | .secret client => client.credential
  | .workload client => client.credential
  | .managed client => client.credential

/-- The credentials that can be put before a store. -/
inductive StoreCredential where
  | single (source : CredentialSource)
  /-- A chain of sources, and why others are not among them. -/
  | chain (sources : List CredentialSource) (skipped : List String)

namespace StoreCredential

def credential : StoreCredential → Credential σ
  | .single source => source.credential
  | .chain sources skipped =>
    (CredentialChain.mk (sources.map CredentialSource.credential) skipped).credential

/-- The sources that an environment describes. -/
def candidates (env : Environment) (authority : Url) :
    List (Except CredentialError CredentialSource) :=
  [(SecretCredential.ofEnvironment env authority).map .secret,
    (WorkloadCredential.ofEnvironment env authority).map .workload,
    (ManagedCredential.ofEnvironment env).map .managed]

/-- The chain of the sources that an environment describes. -/
def ofEnvironment (env : Environment) (authority : Url) : StoreCredential :=
  .chain ((candidates env authority).filterMap Except.toOption)
    ((candidates env authority).filterMap fun
      | .error e => some e.message
      | .ok _ => none)

/-- The chain of an environment is among the credentials that can be put before a store. -/
lemma credential_ofEnvironment (env : Environment) (authority : Url) :
    (ofEnvironment env authority).credential (σ := σ) =
      (CredentialChain.ofEnvironment env authority).credential := by
  unfold ofEnvironment candidates credential CredentialChain.ofEnvironment
    CredentialChain.ofCandidates CredentialChain.candidates
  cases SecretCredential.ofEnvironment env authority <;>
    cases WorkloadCredential.ofEnvironment env authority <;>
      cases ManagedCredential.ofEnvironment env <;> rfl

end StoreCredential

/-! ### What credentials do -/

open Work (Plain)

/-- Work that is put together from events, files and questions for tokens. -/
inductive Work.Consulting : {α : Type} → Work σ α → Prop
  | pure {α : Type} (a : α) : Consulting (Pure.pure a)
  | bind {α β : Type} {w : Work σ α} {f : α → Work σ β} (hw : Consulting w) (hf : ∀ a, Consulting (f a)) :
      Consulting (w >>= f)
  | log (e : LogEvent) : Consulting (Work.log e)
  | readFile (path : String) : Consulting (Work.readFile path)
  | ask (r : Http.Request) : Consulting (TokenEndpoint.ask r)

open Work (Consulting)

lemma TokenEndpoint.plain_ask (r : Http.Request) : Plain (TokenEndpoint.ask r : Work σ _) := by
  apply (Plain.exchange r).bind
  rintro (fault | answer)
  · exact .pure _
  · exact Plain.now.bind fun _ => .pure _

lemma Work.Consulting.plain {α : Type} {w : Work σ α} (hw : Consulting w) : Plain w := by
  induction hw with
  | pure a => exact .pure a
  | bind _ _ ihw ihf => exact .bind ihw ihf
  | log e => exact .log e
  | readFile path => exact .readFile path
  | ask r => exact TokenEndpoint.plain_ask r

lemma SecretCredential.consulting_token (c : SecretCredential) (scopes : List String) :
    Consulting (c.token scopes : Work σ _) := by
  simp only [token]
  split
  · exact .pure _
  · exact (Consulting.ask _).bind fun _ => .pure _

lemma WorkloadCredential.consulting_token (c : WorkloadCredential) (scopes : List String) :
    Consulting (c.token scopes : Work σ _) := by
  refine (Consulting.readFile c.tokenFile).bind fun contents => ?_
  split
  · exact .pure _
  · split
    · exact .pure _
    · exact (Consulting.ask _).bind fun _ => .pure _

lemma ManagedCredential.consulting_token (c : ManagedCredential) (scopes : List String) :
    Consulting (c.token scopes : Work σ _) := by
  simp only [token]
  split
  · exact (Consulting.ask _).bind fun _ => .pure _
  · exact .pure _

lemma CredentialSource.consulting_token (source : CredentialSource) (scopes : List String) :
    Consulting (source.credential.token scopes : Work σ _) := by
  cases source with
  | fixed token => exact .pure _
  | secret client => exact client.consulting_token scopes
  | workload client => exact client.consulting_token scopes
  | managed client => exact client.consulting_token scopes

/-- A chain does nothing but what its members do, and says how that went. -/
lemma CredentialChain.consulting_tryAll (scopes : List String) {members : List (Credential σ)}
    (h : ∀ member ∈ members, Consulting (member.token scopes)) (attempted : List String) :
    Consulting (tryAll scopes attempted members) := by
  induction members generalizing attempted with
  | nil => exact .pure _
  | cons member rest ih =>
    have hrest := ih fun m hm => h m (List.mem_cons_of_mem _ hm)
    apply (h member List.mem_cons_self).bind
    rintro (e | token)
    · dsimp only
      split
      · exact (Consulting.log _).bind fun _ => hrest _
      · exact .pure _
    · exact (Consulting.log _).bind fun _ => .pure _

namespace StoreCredential

lemma consulting_token (k : StoreCredential) (scopes : List String) :
    Consulting (k.credential.token scopes : Work σ _) := by
  cases k with
  | single source => exact source.consulting_token scopes
  | chain sources skipped =>
    refine CredentialChain.consulting_tryAll scopes ?_ skipped
    intro member hmember
    obtain ⟨source, -, rfl⟩ := List.mem_map.mp hmember
    exact source.consulting_token scopes

lemma plain_token (k : StoreCredential) (scopes : List String) :
    Plain (k.credential.token scopes : Work σ _) := (k.consulting_token scopes).plain

end StoreCredential

end Reindex
