import Reindex.CommandLine.Program
import Reindex.Proofs.Job.Stages

/-!
# What exit codes tell

A run has one of three exit codes. It is done, the configuration is to blame, or something else went
wrong; and when the configuration is to blame, nothing was sent. The job of a run is all that can send
anything: what comes before it reads files and talks. Commands about the configuration never send
anything, and their exit code tells whether the configuration was refused.
-/

namespace Reindex

variable {σ : Type}

/-- A run of a job that the configuration is to blame for sends nothing. -/
lemma JobConfig.run_messages_of_configuration {c : JobConfig} {k : StoreCredential} {s : Session σ}
    {message : String} (h : (c.run k.credential s).1 = .error (.configuration message)) :
    (c.run k.credential s).2.messages = s.messages := by
  obtain ⟨sent, hmessages, hcourse⟩ := c.exists_course k s
  rw [h] at hcourse
  rw [hmessages, hcourse.all_eq_nil rfl, List.append_nil]

namespace CommandLine

/-! ### Before the job -/

/-- The preparation of a run, which comes to a configuration and to a credential for the store. -/
def prepare (explicit : Option String) (flags : RunFlags) (env : Environment) :
    Work σ (Except ConfigError (JobConfig × Credential σ)) := do
  match ← loadConfig explicit env with
  | .error e => return .error e
  | .ok c =>
    match c.withFlags flags with
    | .error e => return .error e
    | .ok c => return (← storeCredential c env flags.storeToken).map fun credential => (c, credential)

/-- A run is its preparation and then its job. -/
lemma run_eq (explicit : Option String) (flags : RunFlags) (env : Environment) :
    (run explicit flags env : Work σ _) = do
      match ← prepare explicit flags env with
      | .error e => return .error (.ofConfig e)
      | .ok (c, credential) =>
        match ← c.run credential with
        | .error e => return .error e
        | .ok status =>
          Work.log ⟨.info, "Reindex completed", [("status", .number status.toNat)]⟩
          return .ok () := by
  funext s
  unfold run prepare
  simp only [Work.bind_apply]
  cases (loadConfig explicit env s).1 with
  | error e => rfl
  | ok c =>
    dsimp only
    cases c.withFlags flags with
    | error e => rfl
    | ok c =>
      simp only [Work.bind_apply]
      cases (storeCredential c env flags.storeToken (loadConfig explicit env s).2).1 with
      | error e => rfl
      | ok credential => rfl

lemma loadConfig_apply (explicit : Option String) (env : Environment) (s : Session σ) :
    ∃ s', loadConfig explicit env s = (JobConfig.load explicit s.files env, s') ∧
      s.Reaches [] s.network s' := by
  have hget : ∀ f : Session σ → Work σ (Except ConfigError JobConfig), (get >>= f) s = f s s :=
    fun _ => rfl
  unfold loadConfig
  rw [hget]
  cases JobConfig.filePath? explicit env with
  | none => exact ⟨s, rfl, .refl s⟩
  | some path =>
    dsimp only
    split
    · exact ⟨_, rfl, (Session.Reaches.refl s).said _⟩
    · exact ⟨s, rfl, .refl s⟩

lemma announceSkipped_apply (c : CredentialChain σ) (s : Session σ) :
    ∃ s', c.announceSkipped s = ((), s') ∧ s.Reaches [] s.network s' := by
  unfold CredentialChain.announceSkipped
  induction c.skipped generalizing s with
  | nil => exact ⟨s, rfl, .refl s⟩
  | cons reason rest ih =>
    obtain ⟨s', hrest, hreaches⟩ := ih (s.record (.logged _))
    exact ⟨s', hrest, hreaches.of_said⟩

/-- The credential that `storeCredential` gives is that of a `StoreCredential`, and no message is sent to
get it. -/
lemma storeCredential_apply (c : JobConfig) (env : Environment) (token : Option String)
    (s : Session σ) :
    ∃ result s', storeCredential c env token s = (result, s') ∧ s.Reaches [] s.network s' ∧
      ∀ credential, result = .ok credential → ∃ k : StoreCredential, credential = k.credential := by
  unfold storeCredential
  cases token with
  | some token =>
    refine ⟨_, s, rfl, .refl s, ?_⟩
    rintro credential ⟨⟩
    exact ⟨.single (.fixed ⟨⟨token⟩, none⟩), rfl⟩
  | none =>
    cases c.authorityUrl with
    | error e =>
      refine ⟨_, s, rfl, .refl s, ?_⟩
      rintro credential ⟨⟩
    | ok authority =>
      obtain ⟨s', hannounce, hreaches⟩ := announceSkipped_apply (.ofEnvironment env authority) s
      simp only [Work.bind_apply, hannounce]
      refine ⟨_, _, rfl, hreaches.said _, ?_⟩
      rintro credential ⟨⟩
      exact ⟨.ofEnvironment env authority, (StoreCredential.credential_ofEnvironment _ _).symm⟩

lemma prepare_apply (explicit : Option String) (flags : RunFlags) (env : Environment) (s : Session σ) :
    ∃ result s', prepare explicit flags env s = (result, s') ∧ s.Reaches [] s.network s' ∧
      ∀ c credential, result = .ok (c, credential) →
        ∃ k : StoreCredential, credential = k.credential := by
  obtain ⟨s₁, hload, hloaded⟩ := loadConfig_apply explicit env s
  unfold prepare
  simp only [Work.bind_apply, hload]
  cases JobConfig.load explicit s.files env with
  | error e => exact ⟨_, s₁, rfl, hloaded, nofun⟩
  | ok c =>
    dsimp only
    cases c.withFlags flags with
    | error e => exact ⟨_, s₁, rfl, hloaded, nofun⟩
    | ok c =>
      obtain ⟨result, s₂, hstore, hstored, hcredential⟩ :=
        storeCredential_apply c env flags.storeToken s₁
      simp only [Work.bind_apply, hstore]
      refine ⟨_, s₂, rfl, ?_, ?_⟩
      · rw [← hloaded.network]
        exact hloaded.trans hstored
      · intro c' credential hresult
        cases result with
        | error e => cases hresult
        | ok k =>
          cases hresult
          exact hcredential _ rfl

/-! ### The run -/

/-- A run fails as its preparation does, or else its job decides. -/
lemma run_cases (explicit : Option String) (flags : RunFlags) (env : Environment) (s : Session σ) :
    (∃ e s', prepare explicit flags env s = (.error e, s') ∧
      run explicit flags env s = (.error (.ofConfig e), s') ∧ s'.messages = s.messages) ∨
    ∃ c s₁ s₂, ∃ k : StoreCredential, prepare explicit flags env s = (.ok (c, k.credential), s₁) ∧
      run explicit flags env s = ((c.run k.credential s₁).1.map fun _ => (), s₂) ∧
      s₁.messages = s.messages ∧ s₂.messages = (c.run k.credential s₁).2.messages := by
  obtain ⟨result, s₁, hprepare, hreaches, hcredential⟩ := prepare_apply explicit flags env s
  have hmessages : s₁.messages = s.messages := by rw [hreaches.messages, List.append_nil]
  rw [run_eq]
  simp only [Work.bind_apply, hprepare]
  cases result with
  | error e => exact .inl ⟨e, s₁, rfl, rfl, hmessages⟩
  | ok job =>
    obtain ⟨c, credential⟩ := job
    obtain ⟨k, rfl⟩ := hcredential c credential rfl
    right
    simp only [Work.bind_apply]
    cases hrun : (c.run k.credential s₁).1 with
    | error e => exact ⟨c, s₁, _, k, rfl, by rw [hrun]; rfl, hmessages, rfl⟩
    | ok status =>
      exact ⟨c, s₁, _, k, rfl, by rw [hrun]; rfl, hmessages, Session.messages_record_logged _ _⟩

/-- A run that the configuration is to blame for sends nothing, before its job or in it. -/
lemma run_messages_of_configuration {explicit : Option String} {flags : RunFlags} {env : Environment}
    {s : Session σ} {message : String}
    (h : (run explicit flags env s).1 = .error (.configuration message)) :
    (run explicit flags env s).2.messages = s.messages := by
  rcases run_cases explicit flags env s with
    ⟨e, s', -, hrun, hmessages⟩ | ⟨c, s₁, s₂, k, -, hrun, hbegun, hdone⟩
  · rw [hrun]
    exact hmessages
  · rw [hrun] at h ⊢
    cases hresult : (c.run k.credential s₁).1 with
    | error e =>
      rw [hresult] at h
      cases h
      rw [hdone, JobConfig.run_messages_of_configuration hresult, hbegun]
    | ok status =>
      rw [hresult] at h
      cases h

/-- A run comes to a good end exactly if its job does. -/
lemma run_eq_ok_iff {explicit : Option String} {flags : RunFlags} {env : Environment}
    {s : Session σ} :
    (run explicit flags env s).1 = .ok () ↔ ∃ c credential s₁ status,
      prepare explicit flags env s = (.ok (c, credential), s₁) ∧
        (c.run credential s₁).1 = .ok status := by
  rcases run_cases explicit flags env s with
    ⟨e, s', hprepare, hrun, -⟩ | ⟨c, s₁, s₂, k, hprepare, hrun, -, -⟩
  · rw [hprepare, hrun]
    constructor
    · nofun
    · rintro ⟨c, credential, s₁, status, h, -⟩
      cases h
  · rw [hprepare, hrun]
    constructor
    · intro h
      cases hresult : (c.run k.credential s₁).1 with
      | error e =>
        rw [hresult] at h
        cases h
      | ok status => exact ⟨c, k.credential, s₁, status, rfl, hresult⟩
    · rintro ⟨c, credential, s₁, status, h, hresult⟩
      cases h
      rw [hresult]
      rfl

/-! ### Exit codes -/

/-- The report of a run tells by its exit code how the run went, and whether anything was sent. -/
structure TellsRun (explicit : Option String) (flags : RunFlags) (env : Environment) (s : Session σ)
    (r : Report) : Prop where
  /-- The run exits with two exactly if its error is one of the configuration. -/
  blamed : r.exitCode = 2 ↔ ∃ message, (run explicit flags env s).1 = .error (.configuration message)
  /-- A run that exits with two sends nothing, in any stage. -/
  silent : r.exitCode = 2 → r.messages = s.messages
  /-- Once something was sent, every failure exits with one. -/
  failed : r.messages ≠ s.messages → ∀ e, (run explicit flags env s).1 = .error e → r.exitCode = 1
  /-- The run exits with zero exactly if its job came to a good end. -/
  done : r.exitCode = 0 ↔ ∃ c credential s₁ status,
    prepare explicit flags env s = (.ok (c, credential), s₁) ∧ (c.run credential s₁).1 = .ok status

/-- The report of a command about the configuration tells by its exit code whether the check was passed. -/
structure TellsCheck {α : Type} (check : Except ConfigError α) (s : Session σ) (r : Report) : Prop where
  /-- Every error exits with two. -/
  refused : ∀ e, check = .error e → r.exitCode = 2
  accepted : ∀ a, check = .ok a → r.exitCode = 0
  silent : r.messages = s.messages

/-- The report of the program tells how the command went that was asked for. -/
def Tells (env : Environment) (i : Invocation) (s : Session σ) (r : Report) : Prop :=
  match i.task with
  | .run flags => TellsRun i.config flags env s r
  | .showConfig => TellsCheck (JobConfig.load i.config s.files env) s r
  | .validateConfig => TellsCheck (JobConfig.load i.config s.files env >>= JobConfig.validate) s r

lemma exitCode_eq_two_iff (e : JobError) : e.exitCode = 2 ↔ ∃ message, e = .configuration message := by
  have hne : JobError.exitFailure ≠ 2 := by decide
  cases e with
  | configuration message => exact ⟨fun _ => ⟨message, rfl⟩, fun _ => rfl⟩
  | secrets e => exact ⟨fun h => absurd h hne, nofun⟩
  | authentication e => exact ⟨fun h => absurd h hne, nofun⟩
  | requestFailed n e => exact ⟨fun h => absurd h hne, nofun⟩

lemma exitCode_eq_one_or_two (e : JobError) : e.exitCode = 1 ∨ e.exitCode = 2 := by
  cases e with
  | configuration message => exact .inr rfl
  | secrets e => exact .inl rfl
  | authentication e => exact .inl rfl
  | requestFailed n e => exact .inl rfl

lemma report_of_read {words : List String} {env : Environment} {i : Invocation} (s : Session σ)
    (h : read env words = .ok i) :
    (report words env s).exitCode = (perform env i s).1 ∧
      (report words env s).messages = (perform env i s).2.messages := by
  unfold report
  rw [h]
  exact ⟨rfl, rfl⟩

namespace TellsCheck

variable {α β : Type} {check : Except ConfigError α} {s : Session σ} {r : Report}

/-- What is made of an accepted configuration does not change what a report tells of the check. -/
lemma of_map {f : α → β} (h : TellsCheck (check.map f) s r) : TellsCheck check s r where
  refused := by
    rintro e rfl
    exact h.refused e rfl
  accepted := by
    rintro a rfl
    exact h.accepted (f a) rfl
  silent := h.silent

end TellsCheck

lemma withConfig_tells {explicit : Option String} {env : Environment}
    {use : JobConfig → Except ConfigError String} {s : Session σ} {r : Report}
    (hcode : r.exitCode = (withConfig explicit env use s).1)
    (hmessages : r.messages = (withConfig explicit env use s).2.messages) :
    TellsCheck (JobConfig.load explicit s.files env >>= use) s r := by
  obtain ⟨s', hload, hreaches⟩ := loadConfig_apply explicit env s
  have hsame : s'.messages = s.messages := by rw [hreaches.messages, List.append_nil]
  unfold withConfig at hcode hmessages
  simp only [Work.bind_apply, hload] at hcode hmessages
  cases hcheck : JobConfig.load explicit s.files env >>= use with
  | error e =>
    rw [hcheck] at hcode hmessages
    refine ⟨fun _ _ => hcode, nofun, ?_⟩
    rw [hmessages, ← hsame]
    exact s'.messages_record_logged _
  | ok text =>
    rw [hcheck] at hcode hmessages
    refine ⟨nofun, fun _ _ => hcode, ?_⟩
    rw [hmessages, ← hsame]
    exact s'.messages_record_printed text

lemma run_tells_of_ok {explicit : Option String} {flags : RunFlags} {env : Environment}
    {s : Session σ} {r : Report} (hrun : (run explicit flags env s).1 = .ok ()) (hcode : r.exitCode = 0) :
    TellsRun explicit flags env s r := by
  have hne : r.exitCode ≠ 2 := by
    rw [hcode]
    decide
  constructor
  · rw [hrun]
    exact ⟨fun h => absurd h hne, nofun⟩
  · exact fun h => absurd h hne
  · rw [hrun]
    exact fun _ _ h => nomatch h
  · exact ⟨fun _ => run_eq_ok_iff.mp hrun, fun _ => hcode⟩

lemma run_tells_of_error {explicit : Option String} {flags : RunFlags} {env : Environment}
    {s : Session σ} {r : Report} {e : JobError} (hrun : (run explicit flags env s).1 = .error e)
    (hcode : r.exitCode = e.exitCode)
    (hmessages : r.messages = (run explicit flags env s).2.messages) :
    TellsRun explicit flags env s r := by
  have hblamed : r.exitCode = 2 ↔ ∃ message, e = .configuration message := by
    rw [hcode, exitCode_eq_two_iff]
  have hsilent : r.exitCode = 2 → r.messages = s.messages := by
    intro htwo
    obtain ⟨message, rfl⟩ := hblamed.mp htwo
    rw [hmessages, run_messages_of_configuration hrun]
  constructor
  · rw [hrun, hblamed]
    simp only [Except.error.injEq]
  · exact hsilent
  · rw [hrun]
    rintro hsent e' ⟨⟩
    rcases exitCode_eq_one_or_two e with hone | htwo
    · exact hcode.trans hone
    · exact absurd (hsilent (hcode.trans htwo)) hsent
  · constructor
    · intro hzero
      rw [hcode] at hzero
      rcases exitCode_eq_one_or_two e with h | h
      · cases h.symm.trans hzero
      · cases h.symm.trans hzero
    · intro hdone
      cases hrun.symm.trans (run_eq_ok_iff.mpr hdone)

/-- The report of a program that is asked for something tells how that went: whether anything was sent, and
who is to blame. -/
theorem report_tells {words : List String} {env : Environment} {i : Invocation} (s : Session σ)
    (h : read env words = .ok i) : Tells env i s (report words env s) := by
  obtain ⟨hcode, hmessages⟩ := report_of_read s h
  unfold Tells
  unfold perform at hcode hmessages
  cases htask : i.task with
  | run flags =>
    simp only [htask, Work.bind_apply] at hcode hmessages
    cases hrun : (run i.config flags env s).1 with
    | ok _ =>
      rw [hrun] at hcode
      exact run_tells_of_ok hrun hcode
    | error e =>
      rw [hrun] at hcode hmessages
      refine run_tells_of_error hrun hcode (hmessages.trans ?_)
      exact Session.messages_record_logged _ _
  | showConfig =>
    simp only [htask] at hcode hmessages
    have htells := withConfig_tells hcode hmessages
    refine TellsCheck.of_map (f := JobConfig.toYamlText) ?_
    have hmap : (JobConfig.load i.config s.files env).map JobConfig.toYamlText =
        JobConfig.load i.config s.files env >>= fun c => .ok c.toYamlText := rfl
    rw [hmap]
    exact htells
  | validateConfig =>
    simp only [htask] at hcode hmessages
    have htells := withConfig_tells hcode hmessages
    refine TellsCheck.of_map (f := fun _ => "Configuration is valid\n") ?_
    have hmap : (JobConfig.load i.config s.files env >>= JobConfig.validate).map
        (fun _ => "Configuration is valid\n") =
          JobConfig.load i.config s.files env >>= fun c => do
            c.validate
            return "Configuration is valid\n" := by
      cases JobConfig.load i.config s.files env with
      | error e => rfl
      | ok c => rfl
    rw [hmap]
    exact htells

/-- The surroundings of a run: a vault, a target, and some more variables. -/
def surroundings (more : List (String × String)) : Environment := fun name =>
  ([(keyVaultVariable, "http://v.test"), (targetVariable, "http://t.test")] ++ more).lookup name

/-- Surroundings in which there is a token to show to the vault. -/
def withToken : Environment := surroundings [(storeTokenVariable, "k")]

/-- Without settings a run exits with two, and a network that would answer is not asked for anything. With a
vault, a target and a token it reads the secrets, and exits with one because it cannot get to an authority. -/
theorem default_run_tells :
    let blank : Environment := fun _ => none
    let blamed := report [] blank JobConfig.generous
    let failed := report [] withToken JobConfig.generous
    let task : Invocation := ⟨0, false, none, .run {}⟩
    let taskWithToken : Invocation := ⟨0, false, none, .run { storeToken := some "k" }⟩
    (read blank [] = .ok task ∧ Tells blank task JobConfig.generous blamed ∧ blamed.exitCode = 2) ∧
      (read withToken [] = .ok taskWithToken ∧
        Tells withToken taskWithToken JobConfig.generous failed ∧
        failed.exitCode = 1 ∧ failed.messages.length = 5) := by
  intro blank blamed failed task taskWithToken
  have hread : read blank [] = .ok task := by decide
  have hreadWithToken : read withToken [] = .ok taskWithToken := by decide +kernel
  exact ⟨⟨hread, report_tells JobConfig.generous hread, by decide +kernel⟩,
    hreadWithToken, report_tells JobConfig.generous hreadWithToken, by decide +kernel, by decide +kernel⟩

end CommandLine

end Reindex
