import Reindex.Log.Event

/-!
# What is worth saying

A filter lets through the events of a level and of all levels above it, or none at all.
-/

namespace Reindex

/-- The least level of the events that are let through, if any are. -/
structure LogFilter where
  /-- The least level; none lets nothing through. -/
  least : Option LogLevel
  deriving DecidableEq, Repr

namespace LogFilter

def admits (f : LogFilter) (e : LogEvent) : Bool := f.least.any (·.rank ≤ e.level.rank)

/-- The filter that a word names: a level, or how many levels there are from there on. -/
def ofWord? (word : String) : Option LogFilter :=
  match String.ofList (word.toList.map Char.toLower) with
  | "off" | "0" => some ⟨none⟩
  | "error" | "1" => some ⟨some .error⟩
  | "warn" | "2" => some ⟨some .warn⟩
  | "info" | "3" => some ⟨some .info⟩
  | "debug" | "4" => some ⟨some .debug⟩
  | "trace" | "5" => some ⟨some .trace⟩
  | _ => none

/-- The filter that flags ask for: quiet is stronger than verbose. -/
def ofFlags (verbosity : Nat) (quiet : Bool) : LogFilter :=
  if quiet then ⟨some .error⟩
  else match verbosity with
    | 0 => ⟨some .info⟩
    | 1 => ⟨some .debug⟩
    | _ => ⟨some .trace⟩

/-- The variable that names a filter. -/
def variableName : String := "RUST_LOG"

/-- The filter that a list of words asks for: the last level in it counts. Without any word only
errors are let through; words that are no levels speak of something else. -/
def ofWords (words : String) : LogFilter :=
  match (words.splitToList (· = ',')).filter (· ≠ "") with
  | [] => ⟨some .error⟩
  | parts => ((parts.filterMap ofWord?).getLast?).getD ⟨none⟩

/-- The filter to use: what the variable asks for if it is set, and else what the flags ask for. -/
def choose (asked : Option String) (verbosity : Nat) (quiet : Bool) : LogFilter :=
  match asked with
  | some words => ofWords words
  | none => ofFlags verbosity quiet

end LogFilter

end Reindex
