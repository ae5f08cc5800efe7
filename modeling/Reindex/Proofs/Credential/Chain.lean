import Reindex.Proofs.Credential.Variables
import Reindex.Proofs.Session.Notes

/-!
# How a chain uses its members

The members of a chain are watched while the chain is asked for a token. Whatever they do, they are
asked one after the other, up to the first that settles the question.

The second half is about the chain that an environment describes: a source is among its members, or it
is left out for one reason.
-/

namespace Reindex

variable {σ : Type}

/-! ### Credentials that are watched -/

/-- One time that a credential was asked for a token. -/
structure Asking where
  /-- Which credential was asked, as a place in a list. -/
  place : Nat
  scopes : List String
  /-- The messages that had gone out before. -/
  before : List Http.Message
  answer : Except CredentialError AccessToken
  /-- The messages that had gone out afterwards. -/
  after : List Http.Message

namespace Credential

def watched (c : Credential σ) (place : Nat) : Credential (List Asking × σ) where
  name := c.name
  token scopes := (c.token scopes).watched fun s answer s' =>
    ⟨place, scopes, s.messages, answer, s'.messages⟩

/-- The note that the credential was asked in a session. -/
def asking (c : Credential σ) (place : Nat) (scopes : List String) (s : Session σ) : Asking :=
  ⟨place, scopes, s.messages, (c.token scopes s).1, (c.token scopes s).2.messages⟩

end Credential

namespace CredentialChain

/-- The members, watched under their places; the first one has the place `first`. -/
def watchedFrom (first : Nat) (members : List (Credential σ)) : List (Credential (List Asking × σ)) :=
  (members.zipIdx first).map fun m => m.1.watched m.2

def watched (c : CredentialChain σ) : CredentialChain (List Asking × σ) :=
  ⟨watchedFrom 0 c.members, c.skipped⟩

lemma watchedFrom_cons (first : Nat) (member : Credential σ) (rest : List (Credential σ)) :
    watchedFrom first (member :: rest) = member.watched first :: watchedFrom (first + 1) rest := rfl

/-- Of `count` credentials in a row, of which the first has the place `first`, those in `asked` were asked
for a token for the scopes, after others were tried in vain, and `result` came of it. -/
structure AsksInTurn (first count : Nat) (attempted scopes : List String) (asked : List Asking)
    (result : Except CredentialError AccessToken) : Prop where
  /-- The credentials are asked in their order, each of them once and none left out in between. -/
  inOrder : asked.map (·.place) = List.range' first asked.length
  known : asked.length ≤ count
  sameScopes : ∀ a ∈ asked, a.scopes = scopes
  /-- Either the last credential that is asked settles the question, or all of them leave it to others. -/
  outcome : ∃ errors : List CredentialError, (∀ e ∈ errors, e.isFallthrough = true) ∧
    (asked.map (·.answer) = errors.map .error ++ [result] ∧
        (∀ e, result = .error e → e.isFallthrough = false) ∨
      asked.map (·.answer) = errors.map .error ∧ asked.length = count ∧
        result = .error (.exhausted (attempted ++ errors.map (·.message))))

namespace AsksInTurn

variable {first count : Nat} {attempted scopes : List String}

lemma none_left : AsksInTurn first 0 attempted scopes [] (.error (.exhausted attempted)) where
  inOrder := rfl
  known := Nat.le_refl 0
  sameScopes := by simp
  outcome := ⟨[], by simp, .inr ⟨rfl, rfl, by rw [List.map_nil, List.append_nil]⟩⟩

/-- A credential that settles the question is the last to be asked. -/
lemma settled {a : Asking} {result : Except CredentialError AccessToken} (hplace : a.place = first)
    (hscopes : a.scopes = scopes) (ha : a.answer = result)
    (hresult : ∀ e, result = .error e → e.isFallthrough = false) :
    AsksInTurn first (count + 1) attempted scopes [a] result where
  inOrder := congrArg (fun place => [place]) hplace
  known := Nat.le_add_left 1 count
  sameScopes := by simpa using hscopes
  outcome := ⟨[], by simp, .inl ⟨congrArg (fun answer => [answer]) ha, hresult⟩⟩

/-- If a credential leaves the question to others, they are asked next. -/
lemma leftTo {a : Asking} {e : CredentialError} {asked : List Asking}
    {result : Except CredentialError AccessToken} (hplace : a.place = first)
    (hscopes : a.scopes = scopes) (ha : a.answer = .error e) (he : e.isFallthrough = true)
    (h : AsksInTurn (first + 1) count (attempted ++ [e.message]) scopes asked result) :
    AsksInTurn first (count + 1) attempted scopes (a :: asked) result where
  inOrder := by
    rw [List.map_cons, hplace, h.inOrder, List.length_cons, List.range'_succ]
  known := Nat.succ_le_succ h.known
  sameScopes := by
    intro b hb
    rcases List.mem_cons.mp hb with rfl | hb
    · exact hscopes
    · exact h.sameScopes b hb
  outcome := by
    obtain ⟨errors, herrors, houtcome⟩ := h.outcome
    refine ⟨e :: errors, ?_, ?_⟩
    · intro e' he'
      rcases List.mem_cons.mp he' with rfl | he'
      · exact he
      · exact herrors e' he'
    · rcases houtcome with ⟨hanswers, hresult⟩ | ⟨hanswers, hall, hresult⟩
      · left
        refine ⟨?_, hresult⟩
        rw [List.map_cons, ha, hanswers, List.map_cons, List.cons_append]
      · right
        refine ⟨?_, congrArg Nat.succ hall, ?_⟩
        · rw [List.map_cons, ha, hanswers, List.map_cons]
        · rw [hresult, List.map_cons, List.append_assoc, List.singleton_append]

end AsksInTurn

lemma tryAll_cons_of_ok {member : Credential σ} {scopes : List String} {s : Session σ}
    {token : AccessToken} (h : (member.token scopes s).1 = .ok token) (attempted : List String)
    (rest : List (Credential σ)) :
    tryAll scopes attempted (member :: rest) s =
      (.ok token, (member.token scopes s).2.record (.logged (selectedEvent member.name))) := by
  simp only [tryAll, Work.bind_apply, h]
  rfl

lemma tryAll_cons_of_error {member : Credential σ} {scopes : List String} {s : Session σ}
    {e : CredentialError} (h : (member.token scopes s).1 = .error e) (attempted : List String)
    (rest : List (Credential σ)) :
    tryAll scopes attempted (member :: rest) s =
      if e.isFallthrough = true then
        tryAll scopes (attempted ++ [e.message]) rest
          ((member.token scopes s).2.record (.logged (unavailableEvent member.name e)))
      else (.error e, (member.token scopes s).2) := by
  simp only [tryAll, Work.bind_apply, h]
  split
  · rfl
  · rfl

/-- Members that are watched are asked in turn, and watching them changes nothing else. -/
lemma tryAll_watched (scopes : List String) (members : List (Credential σ)) :
    ∀ (first : Nat) (attempted : List String) (s : Session σ) (notes : List Asking), ∃ asked,
      tryAll scopes attempted (watchedFrom first members) (s.noted notes) =
        ((tryAll scopes attempted members s).1,
          (tryAll scopes attempted members s).2.noted (notes ++ asked)) ∧
      AsksInTurn first members.length attempted scopes asked (tryAll scopes attempted members s).1 := by
  induction members with
  | nil =>
    intro first attempted s notes
    refine ⟨[], ?_, .none_left⟩
    rw [List.append_nil]
    rfl
  | cons member rest ih =>
    intro first attempted s notes
    rw [watchedFrom_cons]
    cases hanswer : (member.token scopes s).1 with
    | ok token =>
      have hwatched : ((member.watched first).token scopes (s.noted notes)).1 = .ok token := hanswer
      rw [tryAll_cons_of_ok hanswer, tryAll_cons_of_ok hwatched]
      refine ⟨[member.asking first scopes s], rfl, ?_⟩
      refine .settled (a := member.asking first scopes s) rfl rfl hanswer ?_
      intro e he
      cases he
    | error e =>
      have hwatched : ((member.watched first).token scopes (s.noted notes)).1 = .error e := hanswer
      rw [tryAll_cons_of_error hanswer, tryAll_cons_of_error hwatched]
      by_cases he : e.isFallthrough = true
      · rw [if_pos he, if_pos he]
        obtain ⟨asked, hrest, hasks⟩ := ih (first + 1) (attempted ++ [e.message])
          ((member.token scopes s).2.record (.logged (unavailableEvent member.name e)))
          (notes ++ [member.asking first scopes s])
        refine ⟨member.asking first scopes s :: asked, ?_, hasks.leftTo rfl rfl hanswer he⟩
        rw [List.append_assoc, List.singleton_append] at hrest
        exact hrest
      · rw [if_neg he, if_neg he]
        refine ⟨[member.asking first scopes s], rfl, ?_⟩
        refine .settled (a := member.asking first scopes s) rfl rfl hanswer ?_
        intro e' he'
        cases he'
        exact Bool.eq_false_iff.mpr he

/-! ### The chain of an environment -/

/-- A chain has the sources that an environment describes for its members, in a fixed order, and one
reason for each of the others: the first of its variables that is missing, or what is wrong with the
address of the host. -/
structure DescribedBy (env : Environment) (authority : Url) (c : CredentialChain σ) : Prop where
  members : c.members =
    (if env.missing? SecretCredential.vars = none
      then [(SecretCredential.ofVariables env authority).credential] else []) ++
    (if env.missing? WorkloadCredential.vars = none
      then [(WorkloadCredential.ofVariables env authority).credential] else []) ++
    (match ManagedCredential.service env with
      | .ok service => [(ManagedCredential.mk service
          (ManagedCredential.nonBlank? env clientVariable)).credential]
      | .error _ => [])
  skipped : c.skipped =
    (env.missing? SecretCredential.vars).toList.map
      (fun var => "environment is not configured: " ++ (var ++ " is not set")) ++
    (env.missing? WorkloadCredential.vars).toList.map
      (fun var => "workload-identity is not configured: " ++ (var ++ " is not set")) ++
    (match ManagedCredential.service env with
      | .ok _ => []
      | .error cause => ["managed-identity is not configured: " ++
          ("IDENTITY_ENDPOINT is not a valid URL: " ++ cause.message)])

lemma describedBy_ofEnvironment (env : Environment) (authority : Url) :
    DescribedBy env authority (ofEnvironment env authority : CredentialChain σ) := by
  unfold ofEnvironment ofCandidates candidates
  rw [SecretCredential.ofEnvironment_eq, WorkloadCredential.ofEnvironment_eq,
    ManagedCredential.ofEnvironment_eq]
  cases hsecret : env.missing? SecretCredential.vars <;>
    cases hworkload : env.missing? WorkloadCredential.vars <;>
      cases hservice : ManagedCredential.service env <;>
        refine ⟨?_, ?_⟩ <;> rw [hsecret, hworkload, hservice] <;> rfl

/-- A chain that is asked for a token asks its members in turn, whatever they do, and answers with the
first answer that settles the question. The chain of an environment has those sources for its members
that the environment describes. -/
theorem token_asksInTurn :
    (∀ (c : CredentialChain σ) (scopes : List String) (s : Session σ), ∃ asked,
      c.watched.token scopes (s.noted []) = ((c.token scopes s).1, (c.token scopes s).2.noted asked) ∧
      AsksInTurn 0 c.members.length c.skipped scopes asked (c.token scopes s).1) ∧
    ∀ (env : Environment) (authority : Url),
      DescribedBy env authority (ofEnvironment env authority : CredentialChain σ) := by
  constructor
  · intro c scopes s
    exact tryAll_watched scopes c.members 0 c.skipped s []
  · intro env authority
    exact describedBy_ofEnvironment env authority

end CredentialChain

end Reindex
