import Reindex.Instant
import Reindex.Log.Event
import Reindex.Secret.Redaction
import Reindex.Text.Quoted

/-!
# Audit records

Who touched which secret, and whether it went well. The value of the secret has no place in them,
and what went wrong is redacted.
-/

namespace Reindex

/-- A record of something that was done with a secret. -/
structure AuditRecord where
  operation : String
  secretName : String
  store : String
  failure : Option String := none
  time : Instant
  deriving DecidableEq

namespace AuditRecord

/-- The record of something that went wrong. -/
def withError (a : AuditRecord) (error : String) : AuditRecord :=
  { a with failure := some (redact error) }

def success (a : AuditRecord) : Bool := a.failure.isNone

/-- What the program says about it. -/
def event (a : AuditRecord) : LogEvent :=
  let subject := [("operation", LogValue.text a.operation),
    ("secret_name", .shown a.secretName), ("store", .shown a.store)]
  let time := ("timestamp", LogValue.shown a.time.text)
  match a.failure with
  | none => ⟨.info, "Secret operation successful", subject ++ [time]⟩
  | some error =>
    ⟨.warn, "Secret operation failed",
      subject ++ [("error", .shown (Text.quotedOption (some error))), time]⟩

end AuditRecord

end Reindex
