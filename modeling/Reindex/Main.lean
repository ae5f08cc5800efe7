import Reindex.CommandLine.Program
import Std.Time.DateTime.Timestamp

/-!
# The executable

Gathers what the program looks at, runs it, and shows what it leaves behind, with the waits in
between. There is no network behind it: no connection ever comes about.
-/

namespace Reindex.Executable

/-- The variables that the program looks at and that are set. -/
def environment : IO Environment := do
  let found ← CommandLine.variableNames.filterMapM fun name => do
    return (← IO.getEnv name).map ((name, ·))
  return fun name => found.lookup name

def entry? (path : String) : IO (Option (String × FileEntry)) := do
  try
    return some (path, .file (← IO.FS.readBinFile path).toList)
  catch
    | .noFileOrDirectory .. => return none
    | _ => return some (path, .directory)

def now : IO Instant := do
  return ⟨(← Std.Time.Timestamp.now).toNanosecondsSinceUnixEpoch.val⟩

/-- Wait for a span of time, of which a part of a millisecond counts as a whole one. A single wait is counted
in 32 bits, so there may have to be several. -/
def sleep (time : Span) : IO Unit := do
  let ms := (time.toNanos + 999999) / 1000000
  let longest := UInt32.size - 1
  for _ in [: ms / longest] do
    IO.sleep longest.toUInt32
  IO.sleep (ms % longest).toUInt32

/-- Show an occurrence, or wait where the program waited. -/
def play (filter : LogFilter) : Occurrence → IO Unit
  | .waited time => sleep time
  | o => do
    let time := (← now).inspect
    IO.print (CommandLine.shown filter (fun e => time ++ " " ++ e.line) o)

end Reindex.Executable

open Reindex in
def main (words : List String) : IO UInt32 := do
  let env ← Executable.environment
  let entries ← (CommandLine.paths words env).filterMapM Executable.entry?
  let session : Session Unit := ⟨.unreachable, ⟨entries⟩, ← Executable.now, [], ()⟩
  let report := CommandLine.report words env session
  report.history.forM (Executable.play report.filter)
  return report.exitCode.toUInt32
