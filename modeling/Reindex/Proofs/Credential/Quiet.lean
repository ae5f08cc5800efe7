import Reindex.Identity.Token
import Reindex.Proofs.Credential.Source
import Reindex.Proofs.Session.Topics

/-!
# Tokens are got quietly

Whatever becomes of the sources that are asked for a token, or of the authority, none of it is what
operators watch for.
-/

namespace Reindex

variable {σ : Type}

open Work (Quiet)

lemma TokenEndpoint.quiet_ask (r : Http.Request) : Quiet (TokenEndpoint.ask r : Work σ _) := by
  apply (Quiet.exchange r).bind
  rintro (fault | answer)
  · exact .pure _
  · exact Quiet.now.bind fun _ => .pure _

lemma SecretCredential.quiet_token (c : SecretCredential) (scopes : List String) :
    Quiet (c.token scopes : Work σ _) := by
  simp only [token]
  split
  · exact .pure _
  · exact (TokenEndpoint.quiet_ask _).bind fun _ => .pure _

lemma WorkloadCredential.quiet_token (c : WorkloadCredential) (scopes : List String) :
    Quiet (c.token scopes : Work σ _) := by
  refine (Quiet.readFile c.tokenFile).bind fun contents => ?_
  split
  · exact .pure _
  · split
    · exact .pure _
    · exact (TokenEndpoint.quiet_ask _).bind fun _ => .pure _

lemma ManagedCredential.quiet_token (c : ManagedCredential) (scopes : List String) :
    Quiet (c.token scopes : Work σ _) := by
  simp only [token]
  split
  · exact (TokenEndpoint.quiet_ask _).bind fun _ => .pure _
  · exact .pure _

lemma CredentialSource.quiet_token (source : CredentialSource) (scopes : List String) :
    Quiet (source.credential.token scopes : Work σ _) := by
  cases source with
  | fixed token => exact .pure _
  | secret client => exact client.quiet_token scopes
  | workload client => exact client.quiet_token scopes
  | managed client => exact client.quiet_token scopes

namespace CredentialChain

lemma isNotable_unavailableEvent (member : String) (e : CredentialError) :
    (unavailableEvent member e).isNotable = false :=
  LogEvent.isNotable_append (by decide) (by decide) _ _

lemma quiet_tryAll (scopes : List String) {members : List (Credential σ)}
    (h : ∀ member ∈ members, Quiet (member.token scopes)) (attempted : List String) :
    Quiet (tryAll scopes attempted members) := by
  induction members generalizing attempted with
  | nil => exact .pure _
  | cons member rest ih =>
    have hrest := ih fun m hm => h m (List.mem_cons_of_mem _ hm)
    apply (h member List.mem_cons_self).bind
    rintro (e | token)
    · dsimp only
      split
      · exact (Quiet.log (isNotable_unavailableEvent _ e)).bind fun _ => hrest _
      · exact .pure _
    · exact (Quiet.say (by decide) _).bind fun _ => .pure _

end CredentialChain

namespace StoreCredential

lemma quiet_token (k : StoreCredential) (scopes : List String) :
    Quiet (k.credential.token scopes : Work σ _) := by
  cases k with
  | single source => exact source.quiet_token scopes
  | chain sources skipped =>
    refine CredentialChain.quiet_tryAll scopes ?_ skipped
    intro member hmember
    obtain ⟨source, -, rfl⟩ := List.mem_map.mp hmember
    exact source.quiet_token scopes

end StoreCredential

/-! ### Tokens for identities -/

namespace TokenProvider

lemma quiet_acquire (authority : Url) (i : ClientIdentity) (scopes : List String) :
    Quiet ((TokenProvider.authority authority).acquire i scopes : Work σ _) := by
  refine (Quiet.say (by decide) _).bind fun _ => (Quiet.say (by decide) _).bind fun _ => ?_
  have hrequest : Quiet ((TokenProvider.authority authority).request i (scopesFor i scopes) :
      Work σ _) := by
    dsimp only [TokenProvider.authority]
    split
    · exact .pure _
    · exact (TokenEndpoint.quiet_ask _).bind fun _ => .pure _
  apply hrequest.bind
  rintro (e | token)
  · exact .pure _
  · exact (Quiet.say (by decide) _).bind fun _ => .pure _

end TokenProvider

end Reindex
