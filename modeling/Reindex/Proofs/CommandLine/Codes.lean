import Mathlib.Data.List.Infix
import Reindex.Proofs.CommandLine.Exit
import Reindex.Proofs.Job.Codes
import Reindex.Proofs.Json.Plain

/-!
# What the program says about codes

An answer that is no good one may name an error by a code that repeats a secret, such as `password=…`.
Whatever the program says about its work, the value behind the equals sign is not in it, except where a
chain of credentials says why one of its members is unavailable: there the text of the error is shown as
it is. Two runs are compared that get the same answers but for the values in codes. They say the same but
for the talk of a chain, so nothing else they say depends on such a value.
-/

namespace Reindex

open Work (SameButCodes)

variable {σ : Type} {chained : Prop}

/-! ### Events -/

namespace LogEvent

/-- The text occurs in the message of the event or in the value of one of its fields. -/
def Mentions (e : LogEvent) (text : String) : Prop :=
  text.toList <:+: e.message.toList ∨ ∃ f ∈ e.fields, text.toList <:+: f.2.raw.toList

instance (e : LogEvent) (text : String) : Decidable (e.Mentions text) :=
  inferInstanceAs (Decidable (_ ∨ _))

/-- A chain says in this event that the endpoint of a member refuses it by a code with a value. -/
def TellsCode (e : LogEvent) : Prop :=
  ∃ member source value code, e = CredentialChain.codeEvent member source value code

end LogEvent

/-- An event that is logged in one of two histories that differ in codes is logged in the other one, or a
chain tells a code in it. -/
lemma logged_mem_or_tellsCode {history history' : List Occurrence}
    (h : List.Forall₂ (Occurrence.SameButCodes chained) history history') {e : LogEvent}
    (he : .logged e ∈ history) : .logged e ∈ history' ∨ chained ∧ e.TellsCode := by
  induction h with
  | nil => cases he
  | cons ho _ ih =>
    rcases List.mem_cons.mp he with rfl | he
    · cases ho with
      | same o => exact .inl List.mem_cons_self
      | unavailable hchained member source code hv hw =>
        exact .inr ⟨hchained, member, source, _, code, rfl⟩
    · rcases ih he with hmem | htells
      · exact .inl (List.mem_cons_of_mem _ hmem)
      · exact .inr htells

lemma CredentialChain.announceSkipped_sameButCodes (c : CredentialChain σ) :
    SameButCodes chained Eq c.announceSkipped c.announceSkipped := by
  unfold announceSkipped
  induction c.skipped with
  | nil => exact .pure rfl
  | cons reason rest ih =>
    exact (SameButCodes.log _).seq ih

namespace CommandLine

/-! ### What is done -/

lemma loadConfig_sameButCodes (explicit : Option String) (env : Environment) :
    SameButCodes chained Eq (loadConfig explicit env : Work σ _) (loadConfig explicit env) := by
  have hget : SameButCodes chained (fun s s' => s.files = s'.files) (get : Work σ _) get :=
    fun _ _ hs => ⟨hs.files, hs⟩
  refine hget.bind fun s s' hfiles => ?_
  dsimp only
  rw [hfiles]
  split
  · split
    · exact (SameButCodes.log _).seq (.pure rfl)
    · exact .pure rfl
  · exact .pure rfl

/-- In sessions that differ in codes `storeCredential` gives the same credential, which is discreet. A chain
is asked only where no token is given to show to the store. -/
lemma storeCredential_sameButCodes (c : JobConfig) (env : Environment) {token : Option String}
    (hchained : token = none → chained) :
    SameButCodes chained (Agree fun k k' => k = k' ∧ k.Discreet chained)
      (storeCredential c env token : Work σ _) (storeCredential c env token) := by
  unfold storeCredential
  cases token with
  | some token => exact .pure (.ok ⟨rfl, CredentialSource.discreet (.fixed ⟨⟨token⟩, none⟩)⟩)
  | none =>
    cases c.authorityUrl with
    | error e => exact .pure (.error e)
    | ok authority =>
      dsimp only
      have hchain := (StoreCredential.ofEnvironment env authority).discreet (σ := σ) (hchained rfl)
      rw [StoreCredential.credential_ofEnvironment] at hchain
      refine (CredentialChain.announceSkipped_sameButCodes _).seq ?_
      exact (SameButCodes.log _).seq (.pure (.ok ⟨rfl, hchain⟩))

lemma run_sameButCodes (explicit : Option String) (flags : RunFlags) (env : Environment)
    (hchained : flags.storeToken = none → chained) :
    SameButCodes chained (SameUpTo JobError.SameButCodes) (run explicit flags env : Work σ _)
      (run explicit flags env) := by
  refine (loadConfig_sameButCodes explicit env).bind_eq fun loaded => ?_
  split
  · exact .pure (.error (.same _))
  · split
    · exact .pure (.error (.same _))
    · rename_i c hc
      refine (storeCredential_sameButCodes c env hchained).bind fun credential credential' h => ?_
      cases h with
      | error e => exact .pure (.error (.same _))
      | ok h =>
        obtain ⟨rfl, hdiscreet⟩ := h
        refine (c.run_sameButCodes hdiscreet).bind fun result result' hresult => ?_
        cases hresult with
        | error h => exact .pure (.error h)
        | ok status => exact (SameButCodes.log _).seq (.pure (.ok ()))

lemma withConfig_sameButCodes (explicit : Option String) (env : Environment)
    (use : JobConfig → Except ConfigError String) :
    SameButCodes chained Eq (withConfig explicit env use : Work σ _) (withConfig explicit env use) := by
  refine (loadConfig_sameButCodes explicit env).bind_eq fun loaded => ?_
  split
  · exact (SameButCodes.print _).seq (.pure rfl)
  · exact (SameButCodes.log _).seq (.pure rfl)

/-- The task is a run for which no token is given to show to the store. -/
def Task.asksChain : Task → Bool
  | .run flags => flags.storeToken.isNone
  | _ => false

/-- In sessions that differ in codes `perform` has the same exit code, and tells the same of a job that
failed. -/
lemma perform_sameButCodes (env : Environment) (i : Invocation)
    (hchained : i.task.asksChain = true → chained) :
    SameButCodes chained Eq (perform env i : Work σ _) (perform env i) := by
  unfold perform
  split
  · exact withConfig_sameButCodes _ _ _
  · exact withConfig_sameButCodes _ _ _
  · rename_i flags htask
    have hflags : flags.storeToken = none → chained := by
      intro htoken
      apply hchained
      rw [htask, Task.asksChain, htoken]
      rfl
    refine (run_sameButCodes i.config flags env hflags).bind fun result result' hresult => ?_
    cases hresult with
    | ok _ => exact .pure rfl
    | error h =>
      dsimp only [failure]
      rw [h.redact_eq, h.stage_eq, h.exitCode_eq]
      exact (SameButCodes.log _).seq (.pure rfl)

/-! ### What is left behind -/

def Report.events (r : Report) : List LogEvent :=
  r.history.filterMap fun
    | .logged e => some e
    | _ => none

/-- The words ask for a run, and no token is given to show to the store. -/
def asksChain (env : Environment) (words : List String) : Bool :=
  (read env words).toOption.any (·.task.asksChain)

/-- On networks that differ in the values of codes, the reports differ in the talk of a chain only. -/
lemma report_sameButCodes (words : List String) (env : Environment) (s : Session σ) {n : Http.Network}
    (h : s.network.SameButCodes n) :
    List.Forall₂ (Occurrence.SameButCodes (asksChain env words = true)) (report words env s).history
      (report words env { s with network := n }).history := by
  have hsame : ∀ history, List.Forall₂ (Occurrence.SameButCodes (asksChain env words = true)) history
      history := fun history => List.forall₂_same.mpr fun o _ => .same o
  unfold report
  split
  · exact hsame _
  · exact hsame _
  · exact hsame _
  · rename_i i hread
    have hchained : i.task.asksChain = true → asksChain env words = true := by
      intro htask
      rw [asksChain, hread]
      exact htask
    have hs : s.SameButCodes (asksChain env words = true) { s with network := n } :=
      ⟨h, rfl, rfl, hsame _⟩
    exact (perform_sameButCodes env i hchained s _ hs).2.history

lemma Report.mem_events {r : Report} {e : LogEvent} : e ∈ r.events ↔ .logged e ∈ r.history := by
  unfold Report.events
  rw [List.mem_filterMap]
  constructor
  · rintro ⟨o, ho, hlogged⟩
    cases o with
    | logged e' =>
      cases hlogged
      exact ho
    | _ => cases hlogged
  · intro h
    exact ⟨_, h, rfl⟩

/-- The value in a code is told by a chain of credentials or not at all: if it is not said anyway, when
there are other values in the codes, no other event of a run mentions it. -/
theorem report_not_mentions (words : List String) (env : Environment) (s : Session σ)
    {n : Http.Network} (hn : s.network.SameButCodes n) {value : String}
    (hvalue : ∀ e ∈ (report words env { s with network := n }).events, ¬ e.Mentions value) :
    ∀ e ∈ (report words env s).events, (asksChain env words = true → ¬ e.TellsCode) →
      ¬ e.Mentions value := by
  intro e he huntold hmentions
  have hhistory := report_sameButCodes words env s hn
  rcases logged_mem_or_tellsCode hhistory (Report.mem_events.mp he) with hmem | ⟨hchain, htells⟩
  · exact hvalue e (Report.mem_events.mpr hmem) hmentions
  · exact huntold hchain htells

/-! ### Refusals by a code -/

/-- There is a client whose secret is known, and beside it the host. -/
def withClient : Environment :=
  surroundings [(authorityVariable, "http://a"), (tenantVariable, "t"), (clientVariable, "c"),
    (clientSecretVariable, "s")]

/-- A session in which the first requests are answered with these statuses and texts. -/
def answered (answers : List (Nat × String)) : Session Unit where
  network := .scripted (answers.map fun a => .response ⟨a.1, .ofText a.2⟩)
  files := ⟨[]⟩
  now := ⟨0⟩
  parts := ()

lemma answered_sameButCodes (status : Nat) {text text' : String}
    (h : Option.Rel Json.SameButCodes (Json.readText? text) (Json.readText? text'))
    (rest : List (Nat × String)) : (answered ((status, text) :: rest)).network.SameButCodes
      (answered ((status, text') :: rest)).network :=
  .scripted (.cons (.response ⟨rfl, .ofText h⟩) (List.forall₂_same.mpr fun a _ => .same a))

lemma hunter2_sameButValue :
    Redaction.SameButValue ("password=" ++ "hunter2") ("password=" ++ "other") :=
  .values ⟨by decide, List.all_eq_true.mp (by decide)⟩ ⟨by decide, List.all_eq_true.mp (by decide)⟩

/-- A vault refuses to give a secret, and names a code. -/
def refusal (value : String) : Session Unit :=
  answered [(403, Json.recordText "error" "code" ("password=" ++ value))]

/-- The program does not mention the code by which a vault refuses to give a secret. -/
theorem refusal_not_mentions :
    (refusal "hunter2").network.SameButCodes (refusal "other").network ∧
      (∀ e ∈ (report [] withToken (refusal "other")).events, ¬ e.Mentions "hunter2") ∧
      asksChain withToken [] = false ∧
      ∀ e ∈ (report [] withToken (refusal "hunter2")).events, ¬ e.Mentions "hunter2" := by
  have hn : (refusal "hunter2").network.SameButCodes (refusal "other").network := by
    refine answered_sameButCodes 403 ?_ []
    rw [Json.readText?_recordText (by decide) (by decide) (by decide),
      Json.readText?_recordText (by decide) (by decide) (by decide)]
    exact .some (.object [] [] (.record (.object [] [] (.text hunter2_sameButValue))))
  have hother : ∀ e ∈ (report [] withToken (refusal "other")).events, ¬ e.Mentions "hunter2" := by
    decide +kernel
  have hchain : asksChain withToken [] = false := by decide
  refine ⟨hn, hother, hchain, fun e he => ?_⟩
  apply report_not_mentions [] withToken (refusal "hunter2") hn hother e he
  intro hasks
  rw [hchain] at hasks
  cases hasks

/-- The authority is not available to a client, and names a code; the host hands out a token. -/
def outage (value : String) : Session Unit :=
  answered [(503, Json.memberText "error" ("password=" ++ value)),
    (200, Json.memberText "access_token" "k")]

/-- A chain of credentials tells the code of an authority that is not available. -/
theorem outage_mentions :
    (outage "hunter2").network.SameButCodes (outage "other").network ∧
      (∀ e ∈ (report [] withClient (outage "other")).events, ¬ e.Mentions "hunter2") ∧
      ∃ e ∈ (report [] withClient (outage "hunter2")).events, e.Mentions "hunter2" := by
  have hn : (outage "hunter2").network.SameButCodes (outage "other").network := by
    refine answered_sameButCodes 503 ?_ _
    rw [Json.readText?_memberText (by decide) (by decide),
      Json.readText?_memberText (by decide) (by decide)]
    exact .some (.object [] [] (.text (.text hunter2_sameButValue)))
  have hother : ∀ e ∈ (report [] withClient (outage "other")).events, ¬ e.Mentions "hunter2" := by
    decide +kernel
  have htold : ∃ e ∈ (report [] withClient (outage "hunter2")).events, e.Mentions "hunter2" := by
    decide +kernel
  exact ⟨hn, hother, htold⟩

end CommandLine

end Reindex
