import Reindex.Main
import Reindex.Secret.Audit
import Reindex.Secret.Assembly
import Reindex.Proofs.Http.Exchange
import Reindex.Proofs.Retry.Course
import Reindex.Proofs.Session.Work
import Reindex.Proofs.Session.Relation
import Reindex.Proofs.Credential.Source
import Reindex.Proofs.Secret.Batch
import Reindex.Proofs.Identity.Acquisition
import Reindex.Proofs.Target.Attempts
import Reindex.Proofs.Job.Plan
import Reindex.Proofs.Job.Course
import Reindex.Proofs.Job.Stages
import Reindex.Proofs.Config.Check
import Reindex.Proofs.Json.Plain
import Reindex.Proofs.Json.Secrets
import Reindex.Proofs.Http.Secrets
import Reindex.Proofs.Session.Alike
import Reindex.Proofs.Credential.Alike
import Reindex.Proofs.Secret.Alike
import Reindex.Proofs.Target.Alike
import Reindex.Proofs.Identity.Alike
import Reindex.Proofs.Job.Secrecy
import Reindex.Proofs.Url.Path
import Reindex.Proofs.Token.Endpoint
import Reindex.Proofs.Token.Tenant
import Reindex.Proofs.Config.Layers
import Reindex.Proofs.Session.Notes
import Reindex.Proofs.Credential.Chain
import Reindex.Proofs.Credential.Blanks
import Reindex.Proofs.Secret.Turns
import Reindex.Proofs.Redaction.Passages
import Reindex.Proofs.Http.Codes
import Reindex.Proofs.Session.Codes
import Reindex.Proofs.Credential.Codes
import Reindex.Proofs.Secret.Codes
import Reindex.Proofs.Job.Codes
import Reindex.Proofs.CommandLine.Codes
import Reindex.Proofs.CommandLine.Exit
import Reindex.Proofs.Job.Authority
import Reindex.Proofs.Target.Answers
import Reindex.Proofs.Redaction.Pairs
import Reindex.Proofs.Job.Deeds
import Reindex.Proofs.CommandLine.Accounts
import Reindex.Proofs.Config.Printout
import Reindex.Proofs.Redaction.Stable
import Reindex.Proofs.Credential.Answers
import Reindex.Proofs.Secret.Answers
import Reindex.Proofs.Job.Target
import Reindex.Proofs.Target.Joining
import Reindex.Proofs.Secret.Address
import Reindex.Proofs.Credential.Forms
import Reindex.Proofs.CommandLine.Descriptions
import Reindex.Proofs.Token.Lifetime
import Reindex.Proofs.Retry.Policy
import Reindex.Proofs.Retry.Waiting
import Reindex.Proofs.Credential.Managed
import Reindex.Proofs.Retry.Statistics
