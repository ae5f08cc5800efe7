import Reindex.Files
import Reindex.Http.Network
import Reindex.Instant
import Reindex.Log.Event

/-!
# Sessions

What a piece of work finds and what it leaves behind: the network, the files, the time and the
history of everything that could be noticed from outside. The history only ever grows at its end.
-/

namespace Reindex

/-- Something that can be noticed from outside. -/
inductive Occurrence where
  | sent (m : Http.Message)
  | logged (e : LogEvent)
  /-- The program waited for that time. -/
  | waited (time : Span)
  | printed (text : String)
  deriving DecidableEq, Repr

/-- The surroundings of a piece of work. Parts that are plugged in keep a state of type `σ`. -/
structure Session (σ : Type) where
  network : Http.Network
  files : Files
  now : Instant
  history : List Occurrence := []
  parts : σ

namespace Session

variable {σ : Type}

/-- The session after something more has happened. -/
def record (s : Session σ) (o : Occurrence) : Session σ := { s with history := s.history ++ [o] }

def pause (s : Session σ) (time : Span) : Session σ :=
  { s.record (.waited time) with now := s.now.add time }

def messages (s : Session σ) : List Http.Message :=
  s.history.filterMap fun
    | .sent m => some m
    | _ => none

def events (s : Session σ) : List LogEvent :=
  s.history.filterMap fun
    | .logged e => some e
    | _ => none

end Session

abbrev Work (σ : Type) := StateM (Session σ)

namespace Work

variable {σ : Type}

def log (e : LogEvent) : Work σ Unit := modify fun s => s.record (.logged e)

/-- Say something, in a piece of work with a state of its own. -/
def say {τ : Type} (e : LogEvent) : StateT τ (Work σ) Unit := liftM (log e : Work σ Unit)

def print (text : String) : Work σ Unit := modify fun s => s.record (.printed text)

def exchange (r : Http.Request) : Work σ (Except Http.TransportFault Http.Response) := fun s =>
  let e := s.network.exchange r
  let s := { s with network := e.network }
  (e.outcome, match e.sent with
    | some m => s.record (.sent m)
    | none => s)

def readFile (path : String) : Work σ (Except FileError (List UInt8)) := fun s =>
  (s.files.read path, s)

def now : Work σ Instant := fun s => (s.now, s)

end Work

end Reindex
