import Reindex.CommandLine.Invocation
import Reindex.Credential.Chain
import Reindex.Job.Run
import Reindex.Log.Filter

/-!
# The program

What the program does in a session, what it shows on the console, and its exit code.
-/

namespace Reindex

/-- The configuration with the flags of the command line. -/
def JobConfig.withFlags (c : JobConfig) (flags : CommandLine.RunFlags) :
    Except ConfigError JobConfig := do
  let retry ← match flags.maxAttempts with
    | some n => c.retry.withMaxAttempts n
    | none => .ok c.retry
  let retry := match flags.retryDelayMs with
    | some ms => retry.withDelayMs ms
    | none => retry
  let insecure := flags.insecure || c.target.insecureSkipVerify
  return { c with target := { c.target with insecureSkipVerify := insecure }, retry := retry }

namespace CommandLine

variable {σ : Type}

def loadConfig (explicit : Option String) (env : Environment) :
    Work σ (Except ConfigError JobConfig) := do
  let files := (← get).files
  match JobConfig.filePath? explicit env with
  | some path =>
    if files.contains path then Work.log ⟨.debug, "Loading configuration from " ++ path, []⟩
  | none => pure ()
  return JobConfig.load explicit files env

/-- Names in a list, as developers see them. -/
def inspectNames (names : List String) : String :=
  "[" ++ ", ".intercalate (names.map Text.quoted) ++ "]"

/-- What is shown to the store of secrets: the token that was given, or else whatever the chain of
sources comes up with. -/
def storeCredential (c : JobConfig) (env : Environment) (token : Option String) :
    Work σ (Except ConfigError (Credential σ)) :=
  match token with
  | some token => pure (.ok (.fixed ⟨⟨token⟩, none⟩))
  | none =>
    match c.authorityUrl with
    | .error e => pure (.error e)
    | .ok authority => do
      let chain : CredentialChain σ := .ofEnvironment env authority
      chain.announceSkipped
      Work.log ⟨.debug, "Using ambient credential chain",
        [("members", .shown (inspectNames chain.memberNames))]⟩
      return .ok chain.credential

def run (explicit : Option String) (flags : RunFlags) (env : Environment) :
    Work σ (Except JobError Unit) := do
  match ← loadConfig explicit env with
  | .error e => return .error (.ofConfig e)
  | .ok c =>
    match c.withFlags flags with
    | .error e => return .error (.ofConfig e)
    | .ok c =>
      match ← storeCredential c env flags.storeToken with
      | .error e => return .error (.ofConfig e)
      | .ok credential =>
        match ← c.run credential with
        | .error e => return .error e
        | .ok status =>
          Work.log ⟨.info, "Reindex completed", [("status", .number status.toNat)]⟩
          return .ok ()

def failure (e : JobError) : LogEvent :=
  ⟨.error, "Reindex job failed: " ++ redact e.message, [("stage", .text e.stage)]⟩

/-- Do something with the configuration. -/
def withConfig (explicit : Option String) (env : Environment)
    (use : JobConfig → Except ConfigError String) : Work σ UInt8 := do
  let c ← loadConfig explicit env
  match c >>= use with
  | .ok text =>
    Work.print text
    return JobError.exitSuccess
  | .error e =>
    Work.log ⟨.error, redact e.messageWithCause, []⟩
    return JobError.exitConfig

/-- Do what is asked. The result is the exit code. -/
def perform (env : Environment) (i : Invocation) : Work σ UInt8 :=
  match i.task with
  | .showConfig => withConfig i.config env fun c => .ok c.toYamlText
  | .validateConfig => withConfig i.config env fun c => do
    c.validate
    return "Configuration is valid\n"
  | .run flags => do
    match ← run i.config flags env with
    | .ok () => return JobError.exitSuccess
    | .error e =>
      Work.log (failure e)
      return e.exitCode

/-! ### Surroundings -/

/-- All variables that the program looks at. -/
def variableNames : List String :=
  configVariables ++ credentialVariables ++ [storeTokenVariable, LogFilter.variableName]

/-- The paths of the files that the program may look at. -/
def paths (words : List String) (env : Environment) : List String :=
  let explicit := match read env words with
    | .ok i => i.config
    | .error _ => none
  (JobConfig.filePath? explicit env).toList ++ (env.trimmed? tokenFileVariable).toList

/-! ### The console -/

/-- What the program leaves behind. -/
structure Report where
  exitCode : UInt8
  filter : LogFilter
  history : List Occurrence

/-- The exit code where the command line is misused. -/
def exitMisuse : UInt8 := 2

def Report.messages (r : Report) : List Http.Message :=
  r.history.filterMap fun
    | .sent m => some m
    | _ => none

/-- What is shown of an occurrence; `line` is how an event is written. -/
def shown (filter : LogFilter) (line : LogEvent → String) : Occurrence → String
  | .printed text => text
  | .logged e => if filter.admits e then line e ++ "\n" else ""
  | .sent _ | .waited _ => ""

def Report.console (r : Report) (line : LogEvent → String) : String :=
  String.join (r.history.map (shown r.filter line))

/-- The report of a program that did nothing but print something. -/
def printing (exitCode : UInt8) (text : String) : Report := ⟨exitCode, ⟨none⟩, [.printed text]⟩

def report (words : List String) (env : Environment) (s : Session σ) : Report :=
  match read env words with
  | .error .misuse => printing exitMisuse ""
  | .error (.help c) => printing JobError.exitSuccess c.helpText
  | .error (.version c) => printing JobError.exitSuccess (c.versionLine ++ "\n")
  | .ok i =>
    let (code, s) := (perform env i).run s
    ⟨code, .choose (env LogFilter.variableName) i.verbosity i.quiet, s.history⟩

end CommandLine

end Reindex
