import Reindex.Config.Error
import Reindex.Json.Printer
import Reindex.Json.Reader
import Reindex.Span
import Reindex.Yaml.Decode
import Reindex.Yaml.Printer
import Reindex.Yaml.Reader

/-!
# Retry policies

How often a request is attempted and how long to wait in between. A policy allows at least one
attempt, and the wait is always the same. As a record it has the fields `max-attempts` and
`delay-ms`.
-/

namespace Reindex

/-- How often to attempt, and how long to wait before the next attempt. -/
structure RetryPolicy where
  /-- The number of attempts, the first included. -/
  maxAttempts : UInt32
  /-- The wait between attempts. -/
  delay : Span
  maxAttempts_pos : 0 < maxAttempts
  deriving DecidableEq

namespace RetryPolicy

/-- The number of attempts if nothing is said. -/
def defaultMaxAttempts : UInt32 := 5

/-- The milliseconds of a wait if nothing is said. -/
def defaultDelayMs : UInt64 := 4000

/-- The policy if nothing is said. -/
def default : RetryPolicy := ⟨defaultMaxAttempts, .ofMillis defaultDelayMs, by decide⟩

def single : RetryPolicy := ⟨1, 0, by decide⟩

/-- A policy, unless it would allow no attempt. -/
def create (maxAttempts : UInt32) (delay : Span) : Except ConfigError RetryPolicy :=
  if h : 0 < maxAttempts then .ok ⟨maxAttempts, delay, h⟩
  else .error (.invalidRetryPolicy .zeroAttempts)

/-- The policy with another number of attempts. -/
def withMaxAttempts (p : RetryPolicy) (maxAttempts : UInt32) : Except ConfigError RetryPolicy :=
  create maxAttempts p.delay

def withDelay (p : RetryPolicy) (delay : Span) : RetryPolicy := { p with delay }

def withDelayMs (p : RetryPolicy) (delayMs : UInt64) : RetryPolicy := p.withDelay (.ofMillis delayMs)

theorem toNat_maxAttempts_pos (p : RetryPolicy) : 0 < p.maxAttempts.toNat :=
  UInt32.lt_iff_toNat_lt.mp p.maxAttempts_pos

theorem one_le_maxAttempts (p : RetryPolicy) : 1 ≤ p.maxAttempts :=
  UInt32.le_iff_toNat_le.mpr p.toNat_maxAttempts_pos

/-- The milliseconds of the wait between attempts, which is what records have of it. -/
def delayMs (p : RetryPolicy) : UInt64 := p.delay.millis

/-- The time that all waits take together: there is one between any two attempts. No span of time may
be that long. -/
def totalDelay? (p : RetryPolicy) : Option Span := p.delay.times? (p.maxAttempts - 1)

/-- The milliseconds that all waits take together. -/
def totalDelayMs? (p : RetryPolicy) : Option Nat := p.totalDelay?.map Span.toNat

/-! ### As a record -/

def fieldNames : List String := ["max-attempts", "delay-ms"]

/-- The policy of two numbers, either of which may be left out. -/
def ofFields? (maxAttempts delayMs : Option Nat) : Option RetryPolicy :=
  let attempts := (maxAttempts.map UInt32.ofNat).getD defaultMaxAttempts
  let delay := (delayMs.map UInt64.ofNat).getD defaultDelayMs
  (create attempts (.ofMillis delay)).toOption

/-- The number in a field that may be left out. -/
def count? {β : Type} (read : β → Option Nat) : Option β → Option (Option Nat)
  | none => some none
  | some field => (read field).map some

/-- A number of JSON that is below a bound. -/
def numberBelow? (bound : Nat) : Json → Option Nat
  | .number spelling => Json.natBelow? bound spelling
  | _ => none

/-- The policy that a JSON value describes. -/
def ofJson? (j : Json) : Option RetryPolicy := do
  match ← j.fields? fieldNames with
  | [attempts, delay] =>
    ofFields? (← count? (numberBelow? UInt32.size) attempts) (← count? (numberBelow? UInt64.size) delay)
  | _ => none

/-- The policy that a node describes. -/
def ofYaml : Yaml.Decoder RetryPolicy := fun root n => do
  match ← Yaml.Decoder.fields fieldNames root n with
  | [attempts, delay] =>
    let number (bound : Nat) := count? (Yaml.Decoder.natBelow bound root)
    ofFields? (← number UInt32.size attempts) (← number UInt64.size delay)
  | _ => none

def ofJsonText? (s : String) : Option RetryPolicy := (Json.readText? s).bind ofJson?

def ofYamlText? (s : String) : Option RetryPolicy :=
  (Yaml.read? s).bind fun d => d.decode? ofYaml

def toYaml (p : RetryPolicy) : List (String × Yaml.Value) :=
  [("max-attempts", .number p.maxAttempts.toNat), ("delay-ms", .number p.delayMs.toNat)]

def toJson (p : RetryPolicy) : List (String × Nat) :=
  [("max-attempts", p.maxAttempts.toNat), ("delay-ms", p.delayMs.toNat)]

end RetryPolicy

end Reindex
