import Reindex.Proofs.Config.Settings

/-!
# Which source a setting comes from

`JobConfig.load_withFlags` says that the sources are laid one over the other, setting by setting, unless
one of them says something that is not understood; then the first such source in a fixed order is to
blame. Each source is treated by a lemma of its own, and `map_bind_settle` puts them together.
-/

namespace Reindex

open Text CommandLine

/-! ### Who is to blame -/

/-- The result of steps of which the first that goes wrong ends the others. -/
def settle {ε α : Type} (faults : List (Option ε)) (result : α) : Except ε α :=
  match faults.findSome? id with
  | some e => .error e
  | none => .ok result

section

variable {ε α β γ δ : Type}

lemma ok_bind (a : α) (f : α → Except ε β) : (Except.ok a >>= f) = f a := rfl

lemma settle_nil (a : α) : (settle [] a : Except ε α) = .ok a := rfl

lemma settle_cons (fault : Option ε) (faults : List (Option ε)) (a : α) :
    settle (fault :: faults) a = (match fault with
      | some e => .error e
      | none => settle faults a) := by
  cases fault <;> rfl

/-- Steps whose results are looked at by `view`, followed by a step whose result is looked at by `view'`.
The faults of all of them are settled in their order. -/
lemma map_bind_settle {x : Except ε α} {f : α → Except ε β} {view : α → γ} {view' : β → δ}
    {faults more : List (Option ε)} {c : γ} {g : γ → δ} (hx : x.map view = settle faults c)
    (hf : ∀ a, (f a).map view' = settle more (g (view a))) :
    (x >>= f).map view' = settle (faults ++ more) (g c) := by
  unfold settle at hx ⊢
  rw [List.findSome?_append]
  cases hfault : faults.findSome? id with
  | some e =>
    rw [hfault] at hx
    cases x with
    | error e' =>
      cases hx
      rfl
    | ok a => cases hx
  | none =>
    rw [hfault] at hx
    cases x with
    | error e' => cases hx
    | ok a =>
      cases hx
      rw [Option.none_or]
      exact hf a

end

namespace JobConfig

/-- The fault of a file that settings are to be read from. -/
def fileFault? (files : Files) (path : String) : Option ConfigError :=
  if !files.contains path then some (.fileNotFound path)
  else match files.read path with
    | .error cause => some (.file cause)
    | .ok bytes =>
      match Utf8.decode? bytes with
      | none => some (.file .notText)
      | some text =>
        if (ofYamlText? text).isNone then some (.invalid (.unreadableFile path)) else none

/-- A variable is to blame if it is set to what is not understood. -/
def variableFault? {α : Type} (env : Environment) (name : String) (parse : String → Option α)
    (fault : SettingFault) : Option ConfigError :=
  ((env name).filter fun value => (parse value).isNone).map fun _ => .invalid fault

/-- A number of attempts is to blame if it is zero. -/
def attemptsFault? (attempts : Option UInt32) : Option ConfigError :=
  (attempts.filter (· = 0)).map fun _ => .invalidRetryPolicy .zeroAttempts

/-- The faults of the variables, in the order in which they are looked at. -/
def variableFaults (env : Environment) : List (Option ConfigError) :=
  [variableFault? env statusVariable uint16? (.variableNotStatus statusVariable),
    variableFault? env timeoutVariable uint64? (.variableNotNumber timeoutVariable),
    variableFault? env insecureVariable flag? (.variableNotFlag insecureVariable),
    variableFault? env attemptsVariable uint32? (.variableNotNumber attemptsVariable),
    attemptsFault? ((env attemptsVariable).bind uint32?),
    variableFault? env delayVariable uint64? (.variableNotNumber delayVariable)]

/-- The faults of all sources, in the order in which they are looked at. -/
def faults (explicit : Option String) (files : Files) (env : Environment) (flags : RunFlags) :
    List (Option ConfigError) :=
  (filePath? explicit env).bind (fileFault? files) ::
    (variableFaults env ++ [attemptsFault? flags.maxAttempts])

/-! ### From source to source -/

lemma ofFile_settings (files : Files) (path : String) :
    (ofFile files path).map settings =
      settle [fileFault? files path] ((Settings.ofFile files (some path)).or .defaults) := by
  rw [settle_cons]
  unfold ofFile fileFault? Settings.ofFile
  split
  · rfl
  · cases hread : files.read path with
    | error cause => rfl
    | ok bytes =>
      cases htext : Utf8.decode? bytes with
      | none => simp [htext, Except.map]
      | some text =>
        cases hconfig : ofYamlText? text with
        | none => simp [htext, hconfig, Except.map]
        | some c =>
          obtain ⟨doc, hdoc, hdecode⟩ := Option.bind_eq_some_iff.mp hconfig
          have hdocument : Settings.document? files path = some doc := by
            simp [Settings.document?, hread, htext, hdoc, Except.toOption]
          simp [htext, hconfig, hdocument, Except.map, settings_of_decode hdecode, settle]

/-- The configuration before the environment has its say. -/
def ofFile? (files : Files) (path? : Option String) : Except ConfigError JobConfig :=
  match path? with
  | some path => ofFile files path
  | none => .ok {}

lemma load_eq (explicit : Option String) (files : Files) (env : Environment) :
    load explicit files env = ofFile? files (filePath? explicit env) >>= fun c => c.override env := by
  unfold load ofFile?
  cases filePath? explicit env <;> rfl

lemma ofFile?_settings (files : Files) (path? : Option String) :
    (ofFile? files path?).map settings =
      settle [path?.bind (fileFault? files)] ((Settings.ofFile files path?).or .defaults) := by
  cases path? with
  | none => rfl
  | some path => exact ofFile_settings files path

lemma overrideBy_eq {α : Type} (env : Environment) (name : String) (parse : String → Option α)
    (fault : SettingFault) (present : α) :
    overrideBy env name parse fault present =
      settle [variableFault? env name parse fault] (((env name).bind parse).getD present) := by
  unfold overrideBy variableFault?
  cases env name with
  | none => rfl
  | some value =>
    cases hvalue : parse value with
    | none => simp [hvalue, settle, Option.filter_some]
    | some a => simp [hvalue, settle, Option.filter_some]

/-- A policy refuses only a number of attempts that is asked for and is zero, since the policy has an
attempt itself. Otherwise it has that number, and the same wait. -/
lemma withMaxAttempts_cases (p : RetryPolicy) (attempts : Option UInt32) :
    (∃ e, attemptsFault? attempts = some e ∧
        p.withMaxAttempts (attempts.getD p.maxAttempts) = .error e) ∨
      attemptsFault? attempts = none ∧ ∃ q, p.withMaxAttempts (attempts.getD p.maxAttempts) = .ok q ∧
        q.maxAttempts = attempts.getD p.maxAttempts ∧ q.delay = p.delay := by
  have hcreate : ∀ {n : UInt32} (h : 0 < n), p.withMaxAttempts n = .ok ⟨n, p.delay, h⟩ :=
    fun h => dif_pos h
  cases attempts with
  | none => exact .inr ⟨rfl, _, hcreate p.maxAttempts_pos, rfl, rfl⟩
  | some n =>
    by_cases hn : n = 0
    · subst hn
      exact .inl ⟨_, rfl, rfl⟩
    · refine .inr ⟨?_, _, hcreate (UInt32.pos_iff_ne_zero.mpr hn), rfl, rfl⟩
      simp [attemptsFault?, Option.filter_some, hn]

lemma addressOr_eq (env : Environment) (name : String) (present : Option String) :
    addressOr env name present = (Settings.addressIn env name).or present := by
  unfold addressOr Settings.addressIn
  cases env name with
  | none => rfl
  | some value =>
    simp only [Option.bind_some, Option.map_some, Option.filter_some, address?, minAddressLength,
      decide_eq_true_eq]
    rfl

/-- The variable of the wait is to blame exactly if it is no number of milliseconds. -/
lemma variableFault?_delay (env : Environment) (fault : SettingFault) :
    variableFault? env delayVariable delay? fault = variableFault? env delayVariable uint64? fault := by
  unfold variableFault? delay?
  simp only [Option.isNone_map]

lemma override_settings (c : JobConfig) (env : Environment) :
    (c.override env).map settings =
      settle (variableFaults env) ((Settings.ofEnvironment env).or c.settings) := by
  unfold override variableFaults
  simp only [overrideBy_eq, settle_cons, variableFault?_delay]
  cases variableFault? env statusVariable uint16? (.variableNotStatus statusVariable) with
  | some e => rfl
  | none =>
  cases variableFault? env timeoutVariable uint64? (.variableNotNumber timeoutVariable) with
  | some e => rfl
  | none =>
  cases variableFault? env insecureVariable flag? (.variableNotFlag insecureVariable) with
  | some e => rfl
  | none =>
  cases variableFault? env attemptsVariable uint32? (.variableNotNumber attemptsVariable) with
  | some e => rfl
  | none =>
  simp only [settle_nil, ok_bind]
  rcases withMaxAttempts_cases c.retry ((env attemptsVariable).bind uint32?) with
    ⟨e, hfault, hretry⟩ | ⟨hfault, retry, hretry, hattempts, hdelay⟩
  · rw [hfault, hretry]
    rfl
  · rw [hfault, hretry]
    cases variableFault? env delayVariable uint64? (.variableNotNumber delayVariable) with
    | some e => rfl
    | none =>
      simp only [ok_bind, addressOr_eq]
      simp only [pure, Except.pure, Except.map, settings, Settings.or,
        Settings.ofEnvironment, RetryPolicy.withDelay, hattempts, Option.or_some,
        Option.getD_none, PerField.map]

/-- The flags of the command line lie over everything else. -/
lemma withFlags_settings (c : JobConfig) (flags : RunFlags) :
    (c.withFlags flags).map settings =
      settle [attemptsFault? flags.maxAttempts] ((Settings.ofFlags flags).or c.settings) := by
  have hsteps : c.withFlags flags =
      c.retry.withMaxAttempts (flags.maxAttempts.getD c.retry.maxAttempts) >>= fun retry =>
        let insecure := flags.insecure || c.target.insecureSkipVerify
        .ok { c with
          target := { c.target with insecureSkipVerify := insecure }
          retry := retry.withDelay ((flags.retryDelayMs.map .ofMillis).getD retry.delay) } := by
    unfold withFlags
    have hkept : c.retry.withMaxAttempts c.retry.maxAttempts = .ok c.retry :=
      dif_pos c.retry.maxAttempts_pos
    cases flags.maxAttempts <;> cases flags.retryDelayMs <;> simp only [Option.getD, hkept] <;> rfl
  rw [hsteps, settle_cons]
  rcases withMaxAttempts_cases c.retry flags.maxAttempts with
    ⟨e, hfault, hretry⟩ | ⟨hfault, retry, hretry, hattempts, hdelay⟩
  · rw [hfault, hretry]
    rfl
  · rw [hfault, hretry]
    simp only [ok_bind]
    simp only [settle_nil, Except.map, settings, Settings.or, Settings.ofFlags,
      RetryPolicy.withDelay, hattempts, hdelay, Option.or_some, Option.none_or, Option.getD_none,
      PerField.map]
    cases flags.insecure <;> rfl

lemma load_settings (explicit : Option String) (files : Files) (env : Environment) :
    (load explicit files env).map settings =
      settle ([(filePath? explicit env).bind (fileFault? files)] ++ variableFaults env)
        ((Settings.ofEnvironment env).or
          ((Settings.ofFile files (filePath? explicit env)).or .defaults)) := by
  rw [load_eq]
  exact map_bind_settle (ofFile?_settings files _) fun c => c.override_settings env

/-- A configuration that was loaded has a number of milliseconds for the wait between attempts. -/
lemma isInMillis_of_load {explicit : Option String} {files : Files} {env : Environment} {flags : RunFlags}
    {c : JobConfig} (h : (load explicit files env >>= fun c => c.withFlags flags) = .ok c) :
    c.retry.IsInMillis := by
  have hsettings := map_bind_settle (load_settings explicit files env) fun c => c.withFlags_settings flags
  rw [h] at hsettings
  unfold settle at hsettings
  split at hsettings
  · cases hsettings
  · have hsources := Settings.inMillis_sources flags env files (filePath? explicit env)
    rw [← Except.ok.inj hsettings] at hsources
    exact hsources c.retry.delay rfl

end JobConfig

end Reindex
