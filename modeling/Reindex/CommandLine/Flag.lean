/-!
# Commands and flags

What can be asked of the program on its command line: the commands, the flags that each of them
understands, and the texts that explain them.
-/

namespace Reindex.CommandLine

inductive Command where
  | root
  | run
  /-- Something about the configuration. -/
  | config
  | configShow
  | configValidate
  deriving DecidableEq, Repr

namespace Command

/-- The words that lead to a command. -/
def words : Command → List String
  | .root => ["rafs-reindex"]
  | .run => ["rafs-reindex", "run"]
  | .config => ["rafs-reindex", "config"]
  | .configShow => ["rafs-reindex", "config", "show"]
  | .configValidate => ["rafs-reindex", "config", "validate"]

/-- The commands that a command leads to, with their names. -/
def inner : Command → List (String × Command)
  | .root => [("run", .run), ("config", .config)]
  | .config => [("show", .configShow), ("validate", .configValidate)]
  | _ => []

/-- Flags in front of an inner command are not allowed. -/
def flagsExcludeInner (c : Command) : Bool := c = .root

def about : Command → String
  | .root => "Trigger the RAFS DDMS reindex endpoint"
  | .run => "Run the reindex job once"
  | .config => "Inspect configuration"
  | .configShow => "Print the effective configuration as YAML"
  | .configValidate => "Check the effective configuration without running the job"

def version : String := "0.1.0"

/-- The line that tells the version. -/
def versionLine (c : Command) : String := "-".intercalate c.words ++ " " ++ version

end Command

inductive Flag where
  | verbose
  | quiet
  | config
  | insecure
  | maxAttempts
  | retryDelay
  /-- The token to show to the store of secrets. -/
  | storeToken
  | help
  | version
  deriving DecidableEq, Repr

namespace Flag

def long : Flag → String
  | .verbose => "verbose"
  | .quiet => "quiet"
  | .config => "config"
  | .insecure => "insecure"
  | .maxAttempts => "max-attempts"
  | .retryDelay => "retry-delay-ms"
  | .storeToken => "store-token"
  | .help => "help"
  | .version => "version"

/-- The short name, if there is one. -/
def short? : Flag → Option Char
  | .verbose => some 'v'
  | .quiet => some 'q'
  | .config => some 'c'
  | .help => some 'h'
  | .version => some 'V'
  | _ => none

/-- What the value is called, if the flag has one. -/
def value? : Flag → Option String
  | .config => some "CONFIG"
  | .maxAttempts => some "N"
  | .retryDelay => some "MS"
  | .storeToken => some "STORE_TOKEN"
  | _ => none

def about : Flag → String
  | .verbose => "Increase verbosity (-v, -vv)"
  | .quiet => "Only log errors"
  | .config => "YAML config file (falls back to REINDEX_CONFIG)"
  | .insecure => "Skip TLS certificate verification for the target request"
  | .maxAttempts => "Attempts at the target request, including the first"
  | .retryDelay => "Delay between attempts in milliseconds"
  | .storeToken => "Pre-issued secret store token; skips the ambient credential chain " ++
      "[env: REINDEX_STORE_TOKEN]"
  | .help => "Print help"
  | .version => "Print version"

/-- The flags that a command understands. -/
def of (c : Command) : List Flag :=
  let everywhere : List Flag := [.verbose, .quiet, .config]
  let ofRun : List Flag := [.insecure, .maxAttempts, .retryDelay, .storeToken]
  everywhere ++ (if c = .root || c = .run then ofRun else []) ++ [.help, .version]

end Flag

/-! ### Explanations -/

def Flag.usage (f : Flag) : String :=
  (match f.short? with
    | some c => "-" ++ String.ofList [c] ++ ", "
    | none => "    ") ++ "--" ++ f.long ++
    (match f.value? with
      | some v => " <" ++ v ++ ">"
      | none => if f = .verbose then "..." else "")

def columns (rows : List (String × String)) : String :=
  let width := (rows.map (·.1.length)).foldl max 0
  String.join (rows.map fun r => "  " ++ r.1.pushn ' ' (width + 2 - r.1.length) ++ r.2 ++ "\n")

def Command.helpText (c : Command) : String :=
  let name := " ".intercalate c.words
  let usage := match c with
    | .root => "Usage: " ++ name ++ " [OPTIONS]\n       " ++ name ++ " <COMMAND>\n"
    | .config => "Usage: " ++ name ++ " [OPTIONS] <COMMAND>\n"
    | _ => "Usage: " ++ name ++ " [OPTIONS]\n"
  let commands :=
    if c.inner.isEmpty then ""
    else "\nCommands:\n" ++ columns (c.inner.map (fun i => (i.1, i.2.about)) ++
      [("help", "Print this message or the help of the given subcommand(s)")])
  c.about ++ "\n\n" ++ usage ++ commands ++ "\nOptions:\n" ++
    columns ((Flag.of c).map fun f => (f.usage, f.about))

end Reindex.CommandLine
