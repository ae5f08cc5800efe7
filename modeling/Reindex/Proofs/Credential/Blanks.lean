import Reindex.Proofs.Credential.Chain
import Reindex.Proofs.Text.Blank

/-!
# Blanks around values

Values that come from files often end in a line break, so what stands around a value should not matter.
It does not matter for a client with a secret and for a client that its host vouches for. The host that
knows its client is asked with some values as they are, and there it does.
-/

namespace Reindex

variable {σ : Type}

/-! ### Values and the blanks around them -/

/-- A value of a variable, and the value with blanks in front of it and behind it; a blank value or none
at all stays as it is. -/
inductive Padded : Option String → Option String → Prop
  | same (value : Option String) : Padded value value
  | around {front value back : String} (hfront : Text.isBlank front = true)
      (hback : Text.isBlank back = true) (hvalue : Text.isBlank value = false) :
      Padded (some value) (some (front ++ value ++ back))

namespace Padded

variable {value value' : Option String}

lemma trim_getD (h : Padded value value') :
    Text.trim (value'.getD "") = Text.trim (value.getD "") := by
  cases h with
  | same => rfl
  | around hfront hback =>
    simp only [Option.getD_some, Text.trim, String.toList_append]
    rw [Text.trimList_append hfront hback]

lemma all_isBlank (h : Padded value value') :
    value'.all Text.isBlank = value.all Text.isBlank := by
  cases h with
  | same => rfl
  | around hfront hback hvalue =>
    have htrim := (Padded.around hfront hback hvalue).trim_getD
    rw [Option.getD_some, Option.getD_some] at htrim
    rw [Option.all_some, Option.all_some, ← Text.isEmpty_trim, htrim, Text.isEmpty_trim]

/-- No blanks are added to a variable without a value, or with a blank one. -/
lemma eq_of_isBlank (h : Padded value value') (hblank : value.all Text.isBlank = true) :
    value' = value := by
  cases h with
  | same => rfl
  | around hfront hback hvalue =>
    rw [Option.all_some, hvalue] at hblank
    cases hblank

lemma eq_of_getD (h : Padded value value') (hsame : value'.getD "" = value.getD "") :
    value' = value := by
  cases h with
  | same => rfl
  | around => exact congrArg some hsame

end Padded

namespace Environment

/-- The second environment has blanks around the values of the variables with credentials. -/
def AddsBlanks (env env' : Environment) : Prop :=
  ∀ var ∈ credentialVariables, Padded (env var) (env' var)

namespace AddsBlanks

variable {env env' : Environment}

lemma held_eq (h : AddsBlanks env env') {var : String} (hvar : var ∈ credentialVariables) :
    env'.held var = env.held var := (h var hvar).trim_getD

lemma missing?_eq (h : AddsBlanks env env') {vars : List String}
    (hvars : vars ⊆ credentialVariables) : env'.missing? vars = env.missing? vars := by
  unfold missing?
  induction vars with
  | nil => rfl
  | cons var rest ih =>
    obtain ⟨hvar, hrest⟩ := List.cons_subset.mp hvars
    rw [List.find?_cons, List.find?_cons, (h var hvar).all_isBlank, ih hrest]

end AddsBlanks

end Environment

open Environment

/-! ### Clients that bring something along -/

namespace SecretCredential

lemma ofVariables_of_addsBlanks {env env' : Environment} (h : AddsBlanks env env')
    (authority : Url) : ofVariables env' authority = ofVariables env authority := by
  have hheld : ∀ var ∈ vars, env'.held var = env.held var := fun var hvar =>
    h.held_eq ((by decide : vars ⊆ credentialVariables) hvar)
  unfold ofVariables
  rw [hheld _ (by decide), hheld _ (by decide), hheld _ (by decide)]

lemma ofEnvironment_of_addsBlanks {env env' : Environment} (h : AddsBlanks env env')
    (authority : Url) : ofEnvironment env' authority = ofEnvironment env authority := by
  rw [ofEnvironment_eq, ofEnvironment_eq, h.missing?_eq (by decide), ofVariables_of_addsBlanks h]

lemma clientId_of_ofEnvironment {env : Environment} {authority : Url} {c : SecretCredential}
    (h : ofEnvironment env authority = .ok c) : c.clientId = env.held clientVariable := by
  rw [ofEnvironment_eq] at h
  split at h
  · cases h
  · cases h
    rfl

end SecretCredential

namespace WorkloadCredential

lemma ofVariables_of_addsBlanks {env env' : Environment} (h : AddsBlanks env env')
    (authority : Url) : ofVariables env' authority = ofVariables env authority := by
  have hheld : ∀ var ∈ vars, env'.held var = env.held var := fun var hvar =>
    h.held_eq ((by decide : vars ⊆ credentialVariables) hvar)
  unfold ofVariables
  rw [hheld _ (by decide), hheld _ (by decide), hheld _ (by decide)]

lemma ofEnvironment_of_addsBlanks {env env' : Environment} (h : AddsBlanks env env')
    (authority : Url) : ofEnvironment env' authority = ofEnvironment env authority := by
  rw [ofEnvironment_eq, ofEnvironment_eq, h.missing?_eq (by decide), ofVariables_of_addsBlanks h]

lemma clientId_of_ofEnvironment {env : Environment} {authority : Url} {c : WorkloadCredential}
    (h : ofEnvironment env authority = .ok c) : c.clientId = env.held clientVariable := by
  rw [ofEnvironment_eq] at h
  split at h
  · cases h
  · cases h
    rfl

end WorkloadCredential

/-! ### The host that knows its client -/

namespace ManagedEndpoint

/-- The endpoint with another value for its header field. -/
def withHeader (header : Sealed) : ManagedEndpoint → ManagedEndpoint
  | .metadata url => .metadata url
  | .platform url _ => .platform url header

end ManagedEndpoint

namespace ManagedCredential

/-- Blanks around the values of the variables change nothing of the service but the value for its header
field. -/
lemma service_of_addsBlanks {env env' : Environment} (h : AddsBlanks env env') :
    service env' =
      (service env).map (·.withHeader ⟨(env' identityHeaderVariable).getD ""⟩) := by
  unfold service
  rw [h.missing?_eq (by decide), h.held_eq (by decide)]
  split
  · cases Url.parse (env.held identityEndpointVariable) <;> rfl
  · rfl

/-- The value for the header field of a platform is the value of its variable as it is. -/
lemma header_of_service {env : Environment} {url : Url} {header : Sealed}
    (h : service env = .ok (.platform url header)) :
    header = ⟨(env identityHeaderVariable).getD ""⟩ := by
  unfold service at h
  split at h
  · cases hparse : Url.parse (env.held identityEndpointVariable) with
    | error cause =>
      rw [hparse] at h
      cases h
    | ok url =>
      rw [hparse] at h
      cases h
      rfl
  · cases h

lemma nonBlank?_eq_iff {env env' : Environment} {var : String} (h : Padded (env var) (env' var)) :
    nonBlank? env' var = nonBlank? env var ↔ env' var = env var := by
  constructor
  · intro hsame
    cases hvalue : nonBlank? env var with
    | none => exact h.eq_of_isBlank (nonBlank?_eq_none_iff.mp hvalue)
    | some v => rw [eq_some_of_nonBlank? hvalue, eq_some_of_nonBlank? (hsame.trans hvalue)]
  · intro hsame
    rw [nonBlank?, nonBlank?, hsame]

/-- The values that an environment's managed credential takes as they are, blanks and all, are the same in
both environments. -/
def KeepsTaken (env env' : Environment) : Prop :=
  ∀ c, ofEnvironment env = .ok c → env' clientVariable = env clientVariable ∧
    (c.usesPlatform = true → env' identityHeaderVariable = env identityHeaderVariable)

/-- The host is asked in the same way exactly if the values that are taken as they are have no more
blanks around them. -/
lemma ofEnvironment_eq_iff {env env' : Environment} (h : AddsBlanks env env') :
    ofEnvironment env' = ofEnvironment env ↔ KeepsTaken env env' := by
  have hclient := nonBlank?_eq_iff (h clientVariable (by decide))
  have hheader := h identityHeaderVariable (by decide)
  unfold KeepsTaken
  rw [ofEnvironment_eq, ofEnvironment_eq, service_of_addsBlanks h]
  cases hservice : service env with
  | error cause => exact ⟨fun _ c hc => (by cases hc), fun _ => rfl⟩
  | ok endpoint =>
    have hall : ∀ p : ManagedCredential → Prop,
        (∀ c, (Except.ok ⟨endpoint, nonBlank? env clientVariable⟩ :
          Except CredentialError ManagedCredential) = .ok c → p c) ↔
        p ⟨endpoint, nonBlank? env clientVariable⟩ :=
      fun p => ⟨fun hp => hp _ rfl, fun hp c hc => Except.ok.inj hc ▸ hp⟩
    dsimp only [Except.map]
    rw [hall, Except.ok.injEq, ManagedCredential.mk.injEq, hclient, and_comm, and_congr_right_iff]
    intro _
    cases endpoint with
    | metadata url => exact ⟨fun _ huses => (by cases huses), fun _ => rfl⟩
    | platform url header =>
      obtain rfl := header_of_service hservice
      constructor
      · intro hsame _
        exact hheader.eq_of_getD
          (congrArg Sealed.reveal (ManagedEndpoint.platform.inj hsame).2)
      · intro hsame
        rw [ManagedEndpoint.withHeader, hsame rfl]

lemma ofEnvironment_of_addsBlanks {env env' : Environment} (h : AddsBlanks env env') :
    ofEnvironment env' = (ofEnvironment env).map fun c =>
      ⟨c.endpoint.withHeader ⟨(env' identityHeaderVariable).getD ""⟩,
        nonBlank? env' clientVariable⟩ := by
  rw [ofEnvironment_eq, ofEnvironment_eq, service_of_addsBlanks h]
  cases service env <;> rfl

lemma clientId_of_ofEnvironment {env : Environment} {c : ManagedCredential}
    (h : ofEnvironment env = .ok c) : c.clientId = nonBlank? env clientVariable := by
  rw [ofEnvironment_eq] at h
  split at h
  · cases h
    rfl
  · cases h

lemma nonBlank?_eq_some_iff {env : Environment} {var v : String}
    (h : (env var).all Text.isBlank = false) : nonBlank? env var = some v ↔ env var = some v := by
  refine ⟨eq_some_of_nonBlank?, fun hvalue => ?_⟩
  rw [hvalue, Option.all_some] at h
  rw [nonBlank?, hvalue, Option.filter_some, h]
  rfl

end ManagedCredential

/-! ### The chain of an environment -/

namespace CredentialChain

/-- One of the sources settles the question when they are asked in turn. -/
def isSettledBy (scopes : List String) : List (Credential σ) → Session σ → Bool
  | [], _ => false
  | member :: rest, s =>
    match (member.token scopes s).1 with
    | .ok _ => true
    | .error e => !e.isFallthrough || isSettledBy scopes rest
        ((member.token scopes s).2.record (.logged (unavailableEvent member.name e)))

/-- Once the question is settled, it does not matter who comes next. -/
lemma tryAll_append_of_isSettledBy {scopes : List String} (members more : List (Credential σ)) :
    ∀ (attempted : List String) (s : Session σ), isSettledBy scopes members s = true →
      tryAll scopes attempted (members ++ more) s = tryAll scopes attempted members s := by
  induction members with
  | nil =>
    intro attempted s h
    cases h
  | cons member rest ih =>
    intro attempted s h
    rw [List.cons_append]
    cases hanswer : (member.token scopes s).1 with
    | ok token => rw [tryAll_cons_of_ok hanswer, tryAll_cons_of_ok hanswer]
    | error e =>
      rw [tryAll_cons_of_error hanswer, tryAll_cons_of_error hanswer]
      split
      · rename_i he
        rw [isSettledBy, hanswer] at h
        dsimp only at h
        rw [he, Bool.not_true, Bool.false_or] at h
        exact ih _ _ h
      · rfl

/-- The sources of an environment that ask an authority. -/
def clients (env : Environment) (authority : Url) : List (Credential σ) :=
  [(SecretCredential.ofEnvironment env authority).map SecretCredential.credential,
    (WorkloadCredential.ofEnvironment env authority).map WorkloadCredential.credential].filterMap
      Except.toOption

lemma members_ofEnvironment (env : Environment) (authority : Url) :
    (ofEnvironment env authority : CredentialChain σ).members = clients env authority ++
      ((ManagedCredential.ofEnvironment env).map ManagedCredential.credential).toOption.toList := by
  rw [ofEnvironment, ofCandidates, candidates, clients]
  cases SecretCredential.ofEnvironment env authority <;>
    cases WorkloadCredential.ofEnvironment env authority <;>
      cases ManagedCredential.ofEnvironment env <;> rfl

lemma clients_of_addsBlanks {env env' : Environment} (h : AddsBlanks env env') (authority : Url) :
    (clients env' authority : List (Credential σ)) = clients env authority := by
  rw [clients, clients, SecretCredential.ofEnvironment_of_addsBlanks h,
    WorkloadCredential.ofEnvironment_of_addsBlanks h]

/-- The chain of the second environment, whose values have more blanks around them, compared with that of
the first. -/
structure IgnoresBlanks (σ : Type) (env env' : Environment) (authority : Url) : Prop where
  memberNames : (ofEnvironment env' authority : CredentialChain σ).memberNames =
    (ofEnvironment env authority : CredentialChain σ).memberNames
  skipped : (ofEnvironment env' authority : CredentialChain σ).skipped =
    (ofEnvironment env authority : CredentialChain σ).skipped
  secret : SecretCredential.ofEnvironment env' authority = SecretCredential.ofEnvironment env authority
  workload : WorkloadCredential.ofEnvironment env' authority =
    WorkloadCredential.ofEnvironment env authority
  managed : ManagedCredential.ofEnvironment env' = ManagedCredential.ofEnvironment env ↔
    ManagedCredential.KeepsTaken env env'
  /-- All requests and the result are the same if the host is asked in the same way or not at all. -/
  token : ∀ (scopes : List String) (s : Session σ),
    ManagedCredential.KeepsTaken env env' ∨ isSettledBy scopes (clients env authority) s = true →
    (ofEnvironment env' authority).token scopes s = (ofEnvironment env authority).token scopes s
  secretClient : ∀ c, SecretCredential.ofEnvironment env' authority = .ok c →
    c.clientId = env.held clientVariable
  workloadClient : ∀ c, WorkloadCredential.ofEnvironment env' authority = .ok c →
    c.clientId = env.held clientVariable
  managedClient : ∀ c, ManagedCredential.ofEnvironment env' = .ok c →
    (env clientVariable).all Text.isBlank = false →
    (c.clientId = some (env.held clientVariable) ↔
      env' clientVariable = some (env.held clientVariable))

/-- Blanks around the values of an environment change nothing but what the host that knows its client is
asked with. -/
theorem ignoresBlanks_of_addsBlanks {env env' : Environment} (h : AddsBlanks env env')
    (authority : Url) : IgnoresBlanks σ env env' authority := by
  have hsecret := SecretCredential.ofEnvironment_of_addsBlanks h authority
  have hworkload := WorkloadCredential.ofEnvironment_of_addsBlanks h authority
  have hmanaged := ManagedCredential.ofEnvironment_of_addsBlanks h
  have hskipped : (ofEnvironment env' authority : CredentialChain σ).skipped =
      (ofEnvironment env authority : CredentialChain σ).skipped := by
    rw [ofEnvironment, ofEnvironment, candidates, candidates, hsecret, hworkload, hmanaged]
    cases ManagedCredential.ofEnvironment env <;> rfl
  constructor
  case memberNames =>
    rw [memberNames, memberNames, members_ofEnvironment, members_ofEnvironment,
      clients_of_addsBlanks h, hmanaged, List.map_append, List.map_append]
    cases ManagedCredential.ofEnvironment env <;> rfl
  case skipped => exact hskipped
  case secret => exact hsecret
  case workload => exact hworkload
  case managed => exact ManagedCredential.ofEnvironment_eq_iff h
  case token =>
    intro scopes s hcase
    rw [token, token, hskipped, members_ofEnvironment, members_ofEnvironment,
      clients_of_addsBlanks h]
    rcases hcase with hkeeps | hsettled
    · rw [(ManagedCredential.ofEnvironment_eq_iff h).mpr hkeeps]
    · rw [tryAll_append_of_isSettledBy _ _ _ _ hsettled, tryAll_append_of_isSettledBy _ _ _ _ hsettled]
  case secretClient =>
    intro c hc
    rw [SecretCredential.clientId_of_ofEnvironment hc, h.held_eq (by decide)]
  case workloadClient =>
    intro c hc
    rw [WorkloadCredential.clientId_of_ofEnvironment hc, h.held_eq (by decide)]
  case managedClient =>
    intro c hc hnonblank
    rw [ManagedCredential.clientId_of_ofEnvironment hc]
    refine ManagedCredential.nonBlank?_eq_some_iff ?_
    rw [(h clientVariable (by decide)).all_isBlank, hnonblank]

/-- An environment with a client and with a host that knows it. -/
def hosted (tenant client endpoint header : String) : Environment := fun var =>
  [(tenantVariable, tenant), (clientVariable, client), (clientSecretVariable, "s"),
    (identityEndpointVariable, endpoint), (identityHeaderVariable, header)].lookup var

lemma addsBlanks_hosted {tenant tenant' client client' endpoint endpoint' header header' : String}
    (htenant : Padded (some tenant) (some tenant')) (hclient : Padded (some client) (some client'))
    (hendpoint : Padded (some endpoint) (some endpoint'))
    (hheader : Padded (some header) (some header')) :
    AddsBlanks (hosted tenant client endpoint header) (hosted tenant' client' endpoint' header') := by
  intro var hvar
  simp only [credentialVariables, List.mem_cons, List.not_mem_nil, or_false] at hvar
  rcases hvar with rfl | rfl | rfl | rfl | rfl | rfl
  · exact htenant
  · exact hclient
  · exact .same (some "s")
  · exact .same none
  · exact hendpoint
  · exact hheader

theorem ignoresBlanks_of_addsBlanks_hosted :
    AddsBlanks (hosted "t" "c" "http://h" "h") (hosted " t" "c" "http://h\n" "h") ∧
      ManagedCredential.KeepsTaken (hosted "t" "c" "http://h" "h")
        (hosted " t" "c" "http://h\n" "h") ∧
      ∀ authority, IgnoresBlanks Unit (hosted "t" "c" "http://h" "h")
        (hosted " t" "c" "http://h\n" "h") authority := by
  have htenant : Padded (some "t") (some " t") :=
    @Padded.around " " "t" "" (by decide) (by decide) (by decide)
  have hendpoint : Padded (some "http://h") (some "http://h\n") :=
    @Padded.around "" "http://h" "\n" (by decide) (by decide) (by decide)
  have h := addsBlanks_hosted htenant (.same (some "c")) hendpoint (.same (some "h"))
  exact ⟨h, fun c _ => ⟨rfl, fun _ => rfl⟩, fun authority => ignoresBlanks_of_addsBlanks h authority⟩

/-- A network that answers one question by a token. -/
def obliging : Session Unit where
  network := .scripted
    [.response ⟨200, ⟨Text.Utf8.encode "\x7b\"access_token\":\"k\"\x7d", true⟩⟩]
  files := ⟨[]⟩
  now := ⟨0⟩
  parts := ()

/-- With a line break behind the value for its header field, a host that knows its client is not even asked.
With a line break behind the client, it is asked for another client than the authority. -/
theorem break_counts :
    let authority : Url :=
      ⟨"http", some ⟨"", none, .domain "a", none⟩, .segments [""], none, none⟩
    let token (env : Environment) := (ofEnvironment env authority).token ["r"] obliging
    AddsBlanks (hosted "" "c" "http://h" "h") (hosted "" "c" "http://h" "h\n") ∧
      ((token (hosted "" "c" "http://h" "h")).1 = .ok ⟨⟨"k"⟩, none⟩ ∧
        (token (hosted "" "c" "http://h" "h\n")).1.toOption = none ∧
        (token (hosted "" "c" "http://h" "h\n")).2.messages = []) ∧
      (SecretCredential.ofEnvironment (hosted "t" "c\n" "http://h" "h") authority).toOption.map
          (·.clientId) = some "c" ∧
        (ManagedCredential.ofEnvironment (hosted "t" "c\n" "http://h" "h")).toOption.map
          (·.clientId) = some (some "c\n") := by
  intro authority token
  have hheader : Padded (some "h") (some "h\n") :=
    @Padded.around "" "h" "\n" (by decide) (by decide) (by decide)
  exact ⟨addsBlanks_hosted (.same (some "")) (.same (some "c")) (.same (some "http://h")) hheader,
    by decide +kernel⟩

end CredentialChain

end Reindex
