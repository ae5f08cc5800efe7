import Reindex.CommandLine.Program
import Reindex.Proofs.Job.Readings
import Reindex.Proofs.Secret.Answers
import Reindex.Proofs.Token.Answer

/-!
# Descriptions of errors

A token endpoint may describe an error, and tells in the description who asked. The program reads of it
the code that it begins with, and nothing else: it leaves the same behind, whatever else is described.
-/

namespace Reindex

open Work (OnlyReads Related)

variable {σ : Type}

/-! ### The program -/

lemma CredentialChain.onlyReads_announceSkipped (c : CredentialChain σ) : OnlyReads c.announceSkipped := by
  unfold announceSkipped
  induction c.skipped with
  | nil => exact .pure _
  | cons reason rest ih => exact (OnlyReads.log _).bind fun _ => ih

namespace CommandLine

lemma onlyReads_loadConfig (explicit : Option String) (env : Environment) :
    OnlyReads (loadConfig explicit env : Work σ _) := by
  have hget : Related Session.ReadAlike Session.ReadAlike (fun s s' => s.files = s'.files)
      (get : Work σ _) get := fun _ _ hs => ⟨hs.files, hs⟩
  refine Related.bind hget fun s s' hfiles => ?_
  dsimp only
  rw [hfiles]
  show OnlyReads _
  split
  · split
    · exact (OnlyReads.log _).bind fun _ => .pure _
    · exact .pure _
  · exact .pure _

/-- In sessions that are read alike `storeCredential` gives the same credential, and the work of asking this
credential for a token makes of answers only what is read of them. -/
lemma related_storeCredential (c : JobConfig) (env : Environment) (token : Option String) :
    Related Session.ReadAlike Session.ReadAlike
      (Agree fun k k' => k = k' ∧ OnlyReads (k.token [Vault.scope]))
      (storeCredential c env token : Work σ _) (storeCredential c env token) := by
  unfold storeCredential
  cases token with
  | some token => exact .pure (.ok ⟨rfl, .pure _⟩)
  | none =>
    cases c.authorityUrl with
    | error e => exact .pure (.error e)
    | ok authority =>
      dsimp only
      have hchain := (StoreCredential.ofEnvironment env authority).consulting_token (σ := σ) [Vault.scope]
      rw [StoreCredential.credential_ofEnvironment] at hchain
      refine Related.seq (CredentialChain.onlyReads_announceSkipped _) ?_
      exact Related.seq (OnlyReads.log _) (.pure (.ok ⟨rfl, hchain.onlyReads⟩))

lemma onlyReads_run (explicit : Option String) (flags : RunFlags) (env : Environment) :
    OnlyReads (run explicit flags env : Work σ _) := by
  refine (onlyReads_loadConfig explicit env).bind fun loaded => ?_
  split
  · exact .pure _
  · split
    · exact .pure _
    · rename_i c hc
      refine (related_storeCredential c env flags.storeToken).bind fun credential credential' h => ?_
      cases h with
      | error e => exact .pure rfl
      | ok h =>
        obtain ⟨rfl, hcredential⟩ := h
        apply (c.onlyReads_run hcredential).bind
        rintro (e | status)
        · exact .pure _
        · exact (OnlyReads.log _).bind fun _ => .pure _

lemma onlyReads_withConfig (explicit : Option String) (env : Environment)
    (use : JobConfig → Except ConfigError String) :
    OnlyReads (withConfig explicit env use : Work σ _) := by
  refine (onlyReads_loadConfig explicit env).bind fun loaded => ?_
  split
  · exact (OnlyReads.print _).bind fun _ => .pure _
  · exact (OnlyReads.log _).bind fun _ => .pure _

lemma onlyReads_perform (env : Environment) (i : Invocation) : OnlyReads (perform env i : Work σ _) := by
  unfold perform
  split
  · exact onlyReads_withConfig _ _ _
  · exact onlyReads_withConfig _ _ _
  · apply (onlyReads_run i.config _ env).bind
    rintro (e | done)
    · exact (OnlyReads.log _).bind fun _ => .pure _
    · exact .pure _

/-- The report of the program is the same on networks that are read alike. -/
lemma report_eq_of_readAlike (words : List String) (env : Environment) (s : Session σ)
    {n : Http.Network} (h : s.network.ReadAlike n) :
    report words env s = report words env { s with network := n } := by
  have hs : s.ReadAlike { s with network := n } := ⟨h, rfl, rfl, rfl⟩
  unfold report
  split
  · rfl
  · rfl
  · rfl
  · rename_i i hread
    obtain ⟨hcode, hsession⟩ := onlyReads_perform env i s _ hs
    show Report.mk (perform env i s).1 _ (perform env i s).2.history =
      Report.mk (perform env i { s with network := n }).1 _
        (perform env i { s with network := n }).2.history
    rw [hcode, hsession.history]

end CommandLine

/-! ### Answers with descriptions -/

namespace TokenAnswer

/-- The code that `serviceCode?` finds is the one that the description begins with, if there is a
description. -/
lemma bind_serviceCode?_eq_some_iff {description : Option String} {code : String} :
    description.bind serviceCode? = some code ↔ ∃ d ∈ description, IsServiceCode d code := by
  rw [Option.bind_eq_some_iff]
  exact exists_congr fun d => and_congr_right fun _ => serviceCode?_eq_some_iff

/-- An answer of a bad status is read as a failure by the fault that `faultOf` finds in it. -/
lemma read_of_failed {r : Http.Response} (hcomplete : r.body.complete = true)
    (hfailed : Http.isSuccess r.status = false) (now : Instant) :
    read now r = .error (if Http.isServerError r.status then
      .transport (faultOf r.status r.body.lossyText)
    else .rejected (faultOf r.status r.body.lossyText)) := by
  unfold read
  rw [hcomplete, Bool.not_true, if_neg Bool.false_ne_true]
  dsimp only
  rw [hfailed, if_neg Bool.false_ne_true]
  split <;> rfl

end TokenAnswer

namespace Http

open TokenAnswer (IsErrorResponse IsServiceCode)

/-- Two answers of one bad status name the same error, and describe it by texts that begin with the same
code, or with none. -/
structure Response.SameButDescription (r r' : Response) : Prop where
  status : r.status = r'.status
  failed : isSuccess r.status = false
  complete : r.body.complete = true ∧ r'.body.complete = true
  errors : ∃ error d d', IsErrorResponse r.body.lossyText error d ∧
    IsErrorResponse r'.body.lossyText error d' ∧
      ∀ code, (∃ t ∈ d, IsServiceCode t code) ↔ ∃ t ∈ d', IsServiceCode t code

/-- Two answers are the same, or they are but for the description of an error. -/
inductive Answer.SameButDescription : Answer → Answer → Prop
  | same (a : Answer) : SameButDescription a a
  | response {r r' : Response} (h : r.SameButDescription r') :
      SameButDescription (.response r) (.response r')

namespace Response.SameButDescription

variable {r r' : Response}

/-- Two answers that differ in the description of an error have the same fault. -/
lemma faultOf_eq (h : r.SameButDescription r') :
    TokenAnswer.faultOf r.status r.body.lossyText = TokenAnswer.faultOf r'.status r'.body.lossyText := by
  obtain ⟨error, d, d', herror, herror', hcodes⟩ := h.errors
  have hcode : d.bind TokenAnswer.serviceCode? = d'.bind TokenAnswer.serviceCode? := by
    apply Option.ext
    intro code
    rw [TokenAnswer.bind_serviceCode?_eq_some_iff, TokenAnswer.bind_serviceCode?_eq_some_iff]
    exact hcodes code
  unfold TokenAnswer.faultOf
  rw [TokenAnswer.complaint?_eq_some_iff.mpr herror, TokenAnswer.complaint?_eq_some_iff.mpr herror']
  dsimp only
  rw [hcode]

/-- Two answers that differ in the description of an error are read as the same failure. -/
lemma exists_failure (h : r.SameButDescription r') (now : Instant) :
    ∃ failure, TokenAnswer.read now r = .error failure ∧ TokenAnswer.read now r' = .error failure := by
  have hfailed := h.failed
  rw [h.status] at hfailed
  refine ⟨_, TokenAnswer.read_of_failed h.complete.1 h.failed now, ?_⟩
  rw [TokenAnswer.read_of_failed h.complete.2 hfailed, h.faultOf_eq, h.status]

end Response.SameButDescription

/-- A body with an error of a token endpoint names no code of a vault. -/
lemma errorCode?_of_isErrorResponse {body error : String} {description : Option String}
    (h : IsErrorResponse body error description) : Vault.errorCode? body = none := by
  obtain ⟨j, field, hread, hfields, -⟩ := h
  cases hcode : Vault.errorCode? body with
  | none => rfl
  | some code =>
    obtain ⟨j', named, hread', herror, hnamed⟩ := Vault.errorCode?_eq_some_iff.mp hcode
    rw [hread] at hread'
    cases hread'
    rw [hfields.eq_of_hasField herror] at hnamed
    cases hnamed

/-- Two answers that differ in the description of an error are read alike: neither gives a secret of a vault
or names the code of one. -/
lemma Response.SameButDescription.readAlike {r r' : Response} (h : r.SameButDescription r') :
    r.ReadAlike r' where
  status := h.status
  token := by
    intro now
    obtain ⟨failure, hread, hread'⟩ := h.exists_failure now
    rw [hread, hread']
  secret := by
    intro label name
    obtain ⟨error, d, d', herror, herror', -⟩ := h.errors
    have hstatus : r'.status ≠ 200 := by
      intro hstatus
      have hfailed := h.failed
      rw [h.status, hstatus] at hfailed
      exact absurd hfailed (by decide)
    unfold Vault.meaning
    dsimp only
    rw [h.status, if_neg hstatus, if_neg hstatus, h.complete.1, h.complete.2, if_pos rfl, if_pos rfl,
      errorCode?_of_isErrorResponse herror, errorCode?_of_isErrorResponse herror']

lemma Network.readAlike_of_sameButDescription {answers answers' : List Answer}
    (h : List.Forall₂ Answer.SameButDescription answers answers') :
    (Network.scripted answers).ReadAlike (.scripted answers') := by
  refine .scripted (h.imp fun a a' ha => ?_)
  cases ha with
  | same a => exact .same a
  | response h => exact .response h.readAlike

end Http

namespace TokenAnswer

/-- Of the description of an error the code is read that it begins with. Two answers that differ in the
rest of their descriptions are the same failure, and a job or the whole program cannot tell them apart. -/
theorem description_unseen :
    (∀ {d code}, serviceCode? d = some code ↔ IsServiceCode d code) ∧
      (∀ {r r' : Http.Response}, r.SameButDescription r' → ∀ now, ∃ failure,
        read now r = .error failure ∧ read now r' = .error failure) ∧
      ∀ {σ : Type} {answers answers' : List Http.Answer},
        List.Forall₂ Http.Answer.SameButDescription answers answers' →
        ∀ s : Session σ, s.network = .scripted answers →
          (∀ (c : JobConfig) (k : StoreCredential),
            (c.run k.credential s).1 =
                (c.run k.credential { s with network := .scripted answers' }).1 ∧
              (c.run k.credential s).2.history =
                (c.run k.credential { s with network := .scripted answers' }).2.history) ∧
          ∀ words env, CommandLine.report words env s =
            CommandLine.report words env { s with network := .scripted answers' } := by
  refine ⟨serviceCode?_eq_some_iff, fun h now => h.exists_failure now, ?_⟩
  intro σ answers answers' h s hs
  have hnetwork : s.network.ReadAlike (.scripted answers') := by
    rw [hs]
    exact Http.Network.readAlike_of_sameButDescription h
  constructor
  · intro c k
    have hrun := c.onlyReads_run (k.consulting_token (σ := σ) [Vault.scope]).onlyReads
    obtain ⟨hresult, hsession⟩ := hrun s { s with network := .scripted answers' } ⟨hnetwork, rfl, rfl, rfl⟩
    exact ⟨hresult, hsession.history⟩
  · exact fun words env => CommandLine.report_eq_of_readAlike words env s hnetwork

/-- A refusal that tells in its description who asked. -/
def refusing (who : String) : Http.Response :=
  ⟨401, .ofText ("\x7b\"error\":\"refused\",\"error_description\":\"AADSTS7: " ++ who ++ "\"\x7d")⟩

theorem description_unseen_client :
    let s : Session Unit := ⟨.scripted [.response (refusing "a")], ⟨[]⟩, ⟨0⟩, [], ()⟩
    let s' : Session Unit := { s with network := .scripted [.response (refusing "b")] }
    IsServiceCode " AADSTS70\t: x" "AADSTS70" ∧
      (refusing "a").SameButDescription (refusing "b") ∧
      (∃ failure, read ⟨0⟩ (refusing "a") = .error failure ∧ read ⟨0⟩ (refusing "b") = .error failure) ∧
      List.Forall₂ Http.Answer.SameButDescription [.response (refusing "a")] [.response (refusing "b")] ∧
      (∀ (c : JobConfig) (k : StoreCredential), (c.run k.credential s).1 = (c.run k.credential s').1 ∧
        (c.run k.credential s).2.history = (c.run k.credential s').2.history) ∧
      ∀ words env, CommandLine.report words env s = CommandLine.report words env s' := by
  intro s s'
  have herror : ∀ who, who = "a" ∨ who = "b" → IsErrorResponse (refusing who).body.lossyText
      "refused" (some ("AADSTS7: " ++ who)) := by
    rintro who (rfl | rfl)
    · exact complaint?_eq_some_iff.mp (by decide +kernel)
    · exact complaint?_eq_some_iff.mp (by decide +kernel)
  have hsame : (refusing "a").SameButDescription (refusing "b") := by
    refine ⟨rfl, rfl, ⟨rfl, rfl⟩, _, _, _, herror "a" (.inl rfl), herror "b" (.inr rfl), fun code => ?_⟩
    have hcode : serviceCode? ("AADSTS7: " ++ "a") = serviceCode? ("AADSTS7: " ++ "b") := by
      decide +kernel
    rw [← bind_serviceCode?_eq_some_iff, ← bind_serviceCode?_eq_some_iff, Option.bind_some,
      Option.bind_some, hcode]
  have hanswers : List.Forall₂ Http.Answer.SameButDescription [.response (refusing "a")]
      [.response (refusing "b")] := .cons (.response hsame) .nil
  obtain ⟨hcodes, hfailure, hruns⟩ := description_unseen
  obtain ⟨hjobs, hreports⟩ := hruns hanswers s rfl
  exact ⟨hcodes.mp (by decide +kernel), hsame, hfailure hsame ⟨0⟩, hanswers, hjobs, hreports⟩

end TokenAnswer

end Reindex
