import Reindex.Proofs.CommandLine.Codes
import Reindex.Proofs.CommandLine.Exit
import Reindex.Proofs.Job.Deeds

/-!
# Accounting for a run

Operators count the events of a run. Their counts come out right: there is an error if the run fails, a
record for every secret that was to be read, a warning for every attempt that might be retried, a line
for every response, and a warning if the request is attempted without a check of certificates.
-/

namespace Reindex.CommandLine

variable {σ : Type}

open Work (Quiet)

/-! ### Before the job and after it -/

/-- The deeds of a run: those of its job, or none if its preparation fails. -/
inductive Does (explicit : Option String) (flags : RunFlags) (env : Environment) (s : Session σ) :
    Deeds → Prop
  | unprepared {e : ConfigError} {s' : Session σ}
      (h : prepare explicit flags env s = (.error e, s')) : Does explicit flags env s {}
  | job {c : JobConfig} {k : StoreCredential} {s' : Session σ} {d : Deeds}
      (h : prepare explicit flags env s = (.ok (c, k.credential), s')) (hd : c.Does k s' d) :
      Does explicit flags env s d

/-- The messages of a program are those of the deeds of a run, and what is sent between them to get
tokens. -/
structure Sends (d : Deeds) (before after : List Http.Message) (sent : StagedMessages) : Prop where
  all : after = before ++ sent.all
  vault : sent.vault = d.reads.flatMap VaultRead.sent
  target : sent.target = d.tries.flatMap Try.sent

/-- The events of a program account for the deeds of a run. -/
structure Accounts (d : Deeds) (s : Session σ) (r : Report) : Prop where
  /-- There is one error if the run fails, and there is none if it does not. -/
  errors : r.events.countP (LogEvent.isOn .error) =
    s.events.countP (LogEvent.isOn .error) + if r.exitCode = 0 then 0 else 1
  /-- The reads are of different names, and only the last of them may have been refused. -/
  readsInTurn : ∃ names result, names.Nodup ∧
    SecretStore.ReadsInTurn {} names (d.reads.map VaultRead.toSecretRead) result
  /-- Every read is put on record, in the order of the reads. -/
  audits : r.events.filter (LogEvent.isOn .audit) =
    s.events.filter (LogEvent.isOn .audit) ++ d.reads.map fun read => read.record.event
  failedAttempts : r.events.countP (LogEvent.isOn .failedAttempt) =
    s.events.countP (LogEvent.isOn .failedAttempt) + d.tries.countP Try.isRetryable
  responses : r.events.countP (LogEvent.isOn .response) =
    s.events.countP (LogEvent.isOn .response) + d.tries.countP Try.isAnswered
  insecure : r.events.countP (LogEvent.isOn .insecure) =
    s.events.countP (LogEvent.isOn .insecure) + if d.isInsecure then 1 else 0
  sends : ∃ sent, Sends d s.messages r.messages sent

end Reindex.CommandLine
