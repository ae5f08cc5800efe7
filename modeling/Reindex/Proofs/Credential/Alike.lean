import Reindex.Proofs.Credential.Source
import Reindex.Proofs.Session.Alike

/-!
# Credentials and the tokens they give

Which token an answer holds makes no difference to whoever asked for it, as long as there is one. So a
credential that is asked in two sessions that are alike fails in both in the same way, or it gives a
token in both.
-/

namespace Reindex

open Work (Alike)

variable {σ : Type}

/-! ### Answers -/

namespace TokenAnswer

lemma lifetime?_veiled {field field' : Option Json} (h : Option.Rel Json.Veiled field field') :
    Option.Rel (fun _ _ => True) (lifetime? field) (lifetime? field') := by
  cases h with
  | none => exact rel_refl (fun _ => trivial) _
  | some h =>
    cases h with
    | same j => exact rel_refl (fun _ => trivial) _
    | texts h h' => exact .some trivial

/-- Bodies that are the same but for secrets both grant a token or neither does, and both tokens are blank
or neither is. -/
lemma grant?_alike {body body' : String}
    (h : Option.Rel Json.SameButSecrets (Json.readText? body) (Json.readText? body')) :
    Option.Rel (fun g g' => Text.isBlank g.1 = Text.isBlank g'.1) (grant? body) (grant? body') := by
  refine rel_bind h fun j j' hj => rel_bind (hj.fields? _) fun fields fields' hfields => ?_
  cases hfields with
  | nil => exact .none
  | cons htoken hrest =>
    cases htoken with
    | none => exact .none
    | some htoken =>
      cases hrest with
      | nil => exact .none
      | cons hexpiry hrest =>
        cases hrest with
        | nil =>
          refine rel_bind htoken.text? fun t t' ht => ?_
          exact rel_bind (lifetime?_veiled hexpiry) fun _ _ _ => .some ht
        | cons _ _ => exact .none

/-- Answers that are the same but for secrets are both read as a token or as the same failure. -/
lemma read_alike {answer answer' : Http.Response} (h : answer.SameButSecrets answer')
    (now now' : Instant) :
    Agree (fun _ _ => True) (read now answer) (read now' answer') := by
  cases h with
  | same answer =>
    simp only [read]
    split
    · exact .error _
    · split
      · split
        · exact .error _
        · split
          · exact .error _
          · exact .ok trivial
      · exact .refl (fun _ => trivial) _
  | secret hstatus h =>
    simp only [read]
    rw [h.complete]
    split
    · exact .error _
    · have hgrant := grant?_alike h.text
      revert hgrant
      generalize grant? _ = g', grant? _ = g
      intro hgrant
      cases hgrant with
      | none => exact .error _
      | some hblank =>
        dsimp only
        rw [hblank]
        split
        · exact .error _
        · exact .ok trivial

end TokenAnswer

/-- Two requests that are alike both get a token from an endpoint, or the same failure. -/
lemma TokenEndpoint.ask_alike {r r' : Http.Request} (h : r.Alike r') :
    Alike (Agree fun _ _ => True) (TokenEndpoint.ask r : Work σ _) (TokenEndpoint.ask r') := by
  refine (Alike.exchange h).bind fun outcome outcome' houtcome => ?_
  cases houtcome with
  | error fault => exact .pure (.error _)
  | ok hanswer => exact Alike.now.bind fun now now' _ => .pure (TokenAnswer.read_alike hanswer now now')

/-! ### Sources -/

lemma SecretCredential.token_alike (c : SecretCredential) (scopes : List String) :
    Alike (Agree fun _ _ => True) (c.token scopes : Work σ _) (c.token scopes) := by
  simp only [token]
  split
  · exact .pure (.error _)
  · refine (TokenEndpoint.ask_alike (.refl _)).bind fun result result' hresult => ?_
    exact .pure (hresult.mapError _)

lemma WorkloadCredential.token_alike (c : WorkloadCredential) (scopes : List String) :
    Alike (Agree fun _ _ => True) (c.token scopes : Work σ _) (c.token scopes) := by
  refine (Alike.readFile c.tokenFile).bind fun contents contents' hcontents => ?_
  subst hcontents
  split
  · exact .pure (.error _)
  · split
    · exact .pure (.error _)
    · refine (TokenEndpoint.ask_alike (.refl _)).bind fun result result' hresult => ?_
      exact .pure (hresult.mapError _)

lemma ManagedCredential.token_alike (c : ManagedCredential) (scopes : List String) :
    Alike (Agree fun _ _ => True) (c.token scopes : Work σ _) (c.token scopes) := by
  simp only [token]
  split
  · refine (TokenEndpoint.ask_alike (.refl _)).bind fun result result' hresult => ?_
    exact .pure (hresult.mapError _)
  · exact .pure (.error _)

lemma CredentialSource.token_alike (source : CredentialSource) (scopes : List String) :
    Alike (Agree fun _ _ => True) (source.credential.token scopes : Work σ _)
      (source.credential.token scopes) := by
  cases source with
  | fixed token => exact .pure (.ok trivial)
  | secret client => exact client.token_alike scopes
  | workload client => exact client.token_alike scopes
  | managed client => exact client.token_alike scopes

/-- A chain of members that work alike works alike: what it says about a source is the name and the error,
not the token. -/
lemma CredentialChain.tryAll_alike (scopes : List String) {members : List (Credential σ)}
    (h : ∀ member ∈ members, Alike (Agree fun _ _ => True) (member.token scopes) (member.token scopes))
    (attempted : List String) :
    Alike (Agree fun _ _ => True) (tryAll scopes attempted members) (tryAll scopes attempted members) := by
  induction members generalizing attempted with
  | nil => exact .pure (.error _)
  | cons member rest ih =>
    have hrest := ih fun m hm => h m (List.mem_cons_of_mem _ hm)
    refine (h member List.mem_cons_self).bind fun result result' hresult => ?_
    cases hresult with
    | error e =>
      dsimp only
      split
      · exact (Alike.log rfl).seq (hrest _)
      · exact .pure (.error _)
    | ok _ => exact (Alike.log rfl).seq (.pure (.ok trivial))

/-! ### What is put before a store -/

namespace StoreCredential

/-- Two credentials are the same, or each of them is a token that is there already. -/
inductive Alike : StoreCredential → StoreCredential → Prop
  | same (k : StoreCredential) : Alike k k
  | fixed (token token' : AccessToken) : Alike (.single (.fixed token)) (.single (.fixed token'))

variable {k k' : StoreCredential}

lemma Alike.name_eq (h : k.Alike k') :
    (k.credential : Credential σ).name = (k'.credential : Credential σ).name := by
  cases h <;> rfl

/-- Two credentials that are alike both give a token, or fail with the same error. -/
lemma Alike.token (h : k.Alike k') (scopes : List String) :
    Work.Alike (Agree fun _ _ => True) (k.credential.token scopes : Work σ _)
      (k'.credential.token scopes) := by
  cases h with
  | fixed token token' => exact .pure (.ok trivial)
  | same k =>
    cases k with
    | single source => exact source.token_alike scopes
    | chain sources skipped =>
      refine CredentialChain.tryAll_alike scopes ?_ skipped
      intro member hmember
      obtain ⟨source, -, rfl⟩ := List.mem_map.mp hmember
      exact source.token_alike scopes

end StoreCredential

end Reindex
