import Reindex.CommandLine.Flag
import Reindex.Config.Loader

/-!
# Reading the command line

From the words of the command line to what the program is to do. The words are read from left to
right, and the first one that is out of place, or that asks for the version or an explanation,
settles the matter.
-/

namespace Reindex.CommandLine

open Text

/-- What was given to one command. -/
structure Given where
  /-- How often to say more, if that was said. -/
  verbose : Option Nat := none
  quiet : Bool := false
  config : Option String := none
  insecure : Bool := false
  maxAttempts : Option UInt32 := none
  retryDelayMs : Option UInt64 := none
  /-- The token to show to the store of secrets. -/
  storeToken : Option String := none
  deriving DecidableEq, Repr

/-- Why the words are not an order to do something. -/
inductive Stop where
  | misuse
  /-- Someone wants to know about a command. -/
  | help (c : Command)
  /-- Someone wants to know the version. -/
  | version (c : Command)
  deriving DecidableEq, Repr

namespace Given

/-- The greatest count of a flag that may be repeated. -/
def maxCount : Nat := 255

def attempts? (value : String) : Option UInt32 :=
  ((int64? value).filter fun n : Int => 0 ≤ n && n < (UInt32.size : Int)).map fun n : Int =>
    UInt32.ofNat n.toNat

/-- Put a value where there must be none yet. -/
def once {α : Type} (present : Option α) (value : Option α) : Except Stop (Option α) :=
  match present, value with
  | none, some v => .ok (some v)
  | _, _ => .error .misuse

/-- What is given after one more flag without a value. -/
def flag (g : Given) (c : Command) : Flag → Except Stop Given
  | .verbose => .ok { g with verbose := some (min maxCount (g.verbose.getD 0 + 1)) }
  | .quiet => if g.quiet then .error .misuse else .ok { g with quiet := true }
  | .insecure => if g.insecure then .error .misuse else .ok { g with insecure := true }
  | .help => .error (.help c)
  | .version => .error (.version c)
  | _ => .error .misuse

/-- What is given after one more flag with a value. -/
def option (g : Given) (value : String) : Flag → Except Stop Given
  | .config => return { g with config := ← once g.config (some value) }
  | .maxAttempts => return { g with maxAttempts := ← once g.maxAttempts (attempts? value) }
  | .retryDelay => return { g with retryDelayMs := ← once g.retryDelayMs (uint64? value) }
  | .storeToken => return { g with storeToken := ← once g.storeToken (some value) }
  | _ => .error .misuse

/-- What is given to an inner command where it says nothing itself. -/
def inherit (inner outer : Given) : Given :=
  { inner with
    verbose := inner.verbose.or outer.verbose
    quiet := inner.quiet || outer.quiet
    config := inner.config.or outer.config }

end Given

/-! ### Words -/

/-- A word that begins a flag and so is no value. -/
def looksLikeFlag (word : String) : Bool := word.startsWith "-" && word ≠ "-"

/-- The flag of a command with a long name. -/
def longFlag? (c : Command) (name : String) : Option Flag :=
  (Flag.of c).find? (·.long = name)

/-- The flag of a command with a short name. -/
def shortFlag? (c : Command) (name : Char) : Option Flag :=
  (Flag.of c).find? (·.short? = some name)

/-- A flag that still needs its value from the next word. -/
abbrev Pending := Option Flag

/-- A long flag: its name, and its value behind an equals sign. -/
def long (c : Command) (g : Given) (word : List Char) : Except Stop (Given × Pending) :=
  let name := String.ofList (word.takeWhile (· ≠ '='))
  match longFlag? c name, word.dropWhile (· ≠ '=') with
  | none, _ => .error .misuse
  | some f, '=' :: value =>
    if f.value?.isSome then return (← g.option (String.ofList value) f, none) else .error .misuse
  | some f, _ => if f.value?.isSome then .ok (g, some f) else return (← g.flag c f, none)

/-- Short flags in one word, the last of which may have its value in it. -/
def short (c : Command) (g : Given) : List Char → Except Stop (Given × Pending)
  | [] => .ok (g, none)
  | name :: rest =>
    match shortFlag? c name with
    | none => .error .misuse
    | some f =>
      if f.value?.isSome then
        match rest with
        | [] => .ok (g, some f)
        | '=' :: value => return (← g.option (String.ofList value) f, none)
        | value => return (← g.option (String.ofList value) f, none)
      else do short c (← g.flag c f) rest

/-- The command that the words behind `help` lead to. -/
def helpFor (c : Command) : List String → Stop
  | [] => .help c
  | word :: rest =>
    match c.inner.lookup word with
    | some inner => helpFor inner rest
    | none => if word = "help" && !c.inner.isEmpty && rest.isEmpty then .help c else .misuse

/-- Read the words for a command. The result is the command that is to be carried out, with what is
given to it. -/
def readWords (c : Command) (g : Given) (anyFlag : Bool) (pending : Pending) :
    List String → Except Stop (Command × Given)
  | [] => if pending.isSome then .error .misuse else .ok (c, g)
  | word :: rest =>
    match pending with
    | some f =>
      if looksLikeFlag word then .error .misuse
      else do readWords c (← g.option word f) true none rest
    | none =>
      match word.toList with
      | ['-', '-'] => if rest.isEmpty then .ok (c, g) else .error .misuse
      | '-' :: '-' :: cs => do
        let (g, pending) ← long c g cs
        readWords c g true pending rest
      | '-' :: d :: cs => do
        let (g, pending) ← short c g (d :: cs)
        readWords c g true pending rest
      | _ =>
        if c.flagsExcludeInner && anyFlag then .error .misuse
        else match c.inner.lookup word with
          | some inner => do
            let (last, given) ← readWords inner {} false none rest
            return (last, given.inherit g)
          | none =>
            if word = "help" && !c.inner.isEmpty then .error (helpFor c rest) else .error .misuse

/-! ### What is to be done -/

structure RunFlags where
  insecure : Bool := false
  maxAttempts : Option UInt32 := none
  retryDelayMs : Option UInt64 := none
  /-- The token to show to the store of secrets. -/
  storeToken : Option String := none
  deriving DecidableEq, Repr

inductive Task where
  | run (flags : RunFlags)
  | showConfig
  | validateConfig
  deriving DecidableEq, Repr

structure Invocation where
  verbosity : Nat
  quiet : Bool
  config : Option String
  task : Task
  deriving DecidableEq, Repr

/-- The variable with the token to show to the store of secrets. -/
def storeTokenVariable : String := "REINDEX_STORE_TOKEN"

/-- What a command with what is given to it is an order for. -/
def invocation (env : Environment) (c : Command) (g : Given) : Except Stop Invocation :=
  let order (task : Task) : Except Stop Invocation :=
    .ok ⟨g.verbose.getD 0, g.quiet, g.config, task⟩
  match c with
  | .root | .run => order (.run ⟨g.insecure, g.maxAttempts, g.retryDelayMs,
      g.storeToken.or (env storeTokenVariable)⟩)
  | .configShow => order .showConfig
  | .configValidate => order .validateConfig
  | .config => .error .misuse

def read (env : Environment) (words : List String) : Except Stop Invocation := do
  let (c, g) ← readWords .root {} false none words
  invocation env c g

end Reindex.CommandLine
