import Reindex.Proofs.Http.Fields
import Reindex.Proofs.Job.Stages

/-!
# The request for the target

Every request for the target of a job is the same on every attempt. It shows the token and says what it
accepts, and it has the field that the configuration adds; the fields of the name of that one, and those
that the URL adds, are sent along with what is there already.
-/

namespace Reindex

open Http (Request fieldValues)

variable {σ : Type} {c : JobConfig} {spec : RequestSpec} {token : AccessToken} {r : Request}

namespace JobConfig

/-- The name of the header field that a configuration adds: without blanks around it and in small
letters. -/
def partitionField (c : JobConfig) : String :=
  String.ofList ((Text.trim c.target.partitionHeader).toList.map Char.toLower)

/-- The request goes where the configuration says, and it has these header fields: the ones that are in
every request, the one that the configuration adds and the one that user name and password make. -/
structure Targets (c : JobConfig) (token : AccessToken) (r : Request) : Prop where
  method : r.message.method = .get
  url : c.targetBaseUrl.map (·.joinPath c.target.path) = .ok r.url
  /-- The token is shown behind user name and password, and in front of the field that the configuration
  adds. -/
  authorization : fieldValues "authorization" r.message.headers =
    fieldValues "authorization" (Request.userinfoFields r.url) ++ ["Bearer " ++ token.value.reveal] ++
      if c.partitionField = "authorization" then [c.target.partitionId] else []
  accept : fieldValues "accept" r.message.headers =
    ["application/json"] ++ if c.partitionField = "accept" then [c.target.partitionId] else []
  partition : c.partitionField ≠ "authorization" → c.partitionField ≠ "accept" →
    fieldValues c.partitionField r.message.headers = [c.target.partitionId]

/-- Each of the three fields is sent once, and nothing else under its name. -/
structure SendsOnce (c : JobConfig) (token : AccessToken) (r : Request) : Prop where
  authorization : fieldValues "authorization" r.message.headers = ["Bearer " ++ token.value.reveal]
  accept : fieldValues "accept" r.message.headers = ["application/json"]
  partition : fieldValues c.partitionField r.message.headers = [c.target.partitionId]

/-- Each of the three fields is sent once unless the configuration adds one of the other two, or a user name
or a password. -/
lemma Targets.sendsOnce_iff (h : c.Targets token r) : c.SendsOnce token r ↔
    c.partitionField ≠ "authorization" ∧ c.partitionField ≠ "accept" ∧
      Request.credentials? r.url = none := by
  constructor
  · intro honce
    have hlength := congrArg List.length (h.authorization.symm.trans honce.authorization)
    have haccept := congrArg List.length (h.accept.symm.trans honce.accept)
    simp only [List.length_append, List.length_singleton] at hlength haccept
    refine ⟨fun heq => ?_, fun heq => ?_, ?_⟩
    · rw [if_pos heq, List.length_singleton] at hlength
      omega
    · rw [if_pos heq, List.length_singleton] at haccept
      omega
    · cases hcredentials : Request.credentials? r.url with
      | none => rfl
      | some credentials =>
        have hfields : fieldValues "authorization" (Request.userinfoFields r.url) =
            [Request.basicValue credentials.1 credentials.2] := by
          rw [Request.userinfoFields, hcredentials]
          rfl
        rw [hfields, List.length_singleton] at hlength
        omega
  · rintro ⟨hauthorization, haccept, hcredentials⟩
    refine ⟨?_, ?_, h.partition hauthorization haccept⟩
    · rw [h.authorization, if_neg hauthorization, Request.userinfoFields, hcredentials]
      rfl
    · rw [h.accept, if_neg haccept]
      rfl

end JobConfig

lemma Http.headerName?_eq_some {name field : String} (h : headerName? name = some field) :
    field = String.ofList (name.toList.map Char.toLower) := by
  rw [headerName?] at h
  exact (Option.some.inj (Option.ite_none_right_eq_some.mp h).2).symm

namespace RequestSpec

/-- The header fields of one name that a request is sent with: user name and password, the token, what is
accepted, and those of its own. -/
lemma fieldValues_request (spec : RequestSpec) (token : AccessToken) (name : String) :
    fieldValues name (spec.request token).message.headers =
      fieldValues name (Request.userinfoFields spec.url) ++
        ((if "authorization" = name then [token.bearer] else []) ++
          ((if "accept" = name then ["application/json"] else []) ++ fieldValues name spec.headers)) := by
  have haccept : ("accept", "application/json") ∈ (spec.request token).headers :=
    List.mem_append_left _ (List.mem_cons_of_mem _ List.mem_cons_self)
  rw [Request.fieldValues_message haccept]
  simp only [request, Request.get, List.cons_append, List.nil_append, Http.fieldValues_cons]

/-- A request that is made of a configuration goes where the configuration says, and has the header fields
that it should have. -/
lemma targets_of_ofConfig (h : ofConfig c = .ok spec) (token : AccessToken) :
    c.Targets token (spec.request token) := by
  obtain ⟨base, field, hbase, -, hfield, -, rfl⟩ := ofConfig_eq_ok_iff.mp h
  obtain rfl : field = c.partitionField := Http.headerName?_eq_some hfield
  have hfields : ∀ name, fieldValues name [(c.partitionField, c.target.partitionId)] =
      if c.partitionField = name then [c.target.partitionId] else [] := fun name => by
    rw [Http.fieldValues_cons]
    exact List.append_nil _
  constructor
  case method => exact Request.withoutUserinfo_method _
  case url => rw [hbase]; rfl
  case authorization =>
    rw [fieldValues_request, hfields, if_pos rfl, if_neg (by decide), List.nil_append, List.append_assoc]
    rfl
  case accept =>
    rw [fieldValues_request, hfields, Request.fieldValues_userinfoFields _ (by decide), if_neg (by decide),
      if_pos rfl]
    rfl
  case partition =>
    intro hauthorization haccept
    rw [fieldValues_request, hfields, Request.fieldValues_userinfoFields _ hauthorization,
      if_neg hauthorization.symm, if_neg haccept.symm, if_pos rfl]
    rfl

end RequestSpec

namespace JobConfig

/-- All requests for the target of a job are the one that its configuration describes, on every attempt and
with any token. Each of the three header fields is sent once, unless the configuration gives one of them
twice. What a run sends to the target shows the token that was granted to the identity in that run. -/
theorem run_targets (hspec : RequestSpec.ofConfig c = .ok spec) :
    (∀ token : AccessToken, c.Targets token (spec.request token) ∧
      (c.SendsOnce token (spec.request token) ↔ c.partitionField ≠ "authorization" ∧
        c.partitionField ≠ "accept" ∧ Request.credentials? spec.url = none) ∧
      ∀ (policy : RetryPolicy) (s : Session σ), ∃ i ≤ policy.maxAttempts.toNat,
        (spec.execute policy RequestSpec.loggingObserver token s).2.messages =
          s.messages ++ List.replicate i (spec.request token).recorded) ∧
    ∀ (k : StoreCredential) (s : Session σ), ∃ sent : StagedMessages,
      (c.run k.credential s).2.messages = s.messages ++ sent.all ∧
      c.Course k s sent (c.run k.credential s).1 ∧
      (sent.target ≠ [] → ∃ plan key entries identity token, c.Grants k s plan key entries identity token ∧
        ∃ i ≤ c.retry.maxAttempts.toNat, sent.target = List.replicate i (spec.request token).recorded) := by
  constructor
  · intro token
    have htargets := RequestSpec.targets_of_ofConfig hspec token
    refine ⟨htargets, htargets.sendsOnce_iff, fun policy s => ?_⟩
    obtain ⟨outcome, s', hexecute, -, hmessages⟩ := spec.execute_apply policy token s
    obtain ⟨i, hi, hsent⟩ :=
      spec.exists_sent_attempts token (policy.maxAttempts.toNat - 1) s.network
    have hpos := policy.toNat_maxAttempts_pos
    refine ⟨i, by omega, ?_⟩
    rw [hexecute, hmessages, hsent]
  · intro k s
    obtain ⟨sent, hmessages, hcourse⟩ := c.exists_course k s
    refine ⟨sent, hmessages, hcourse, fun hsent => ?_⟩
    obtain ⟨plan, key, entries, identity, token, hgrant, -, htarget⟩ := hcourse.of_target_ne_nil hsent
    obtain ⟨-, -, -, hplan, -⟩ := JobPlan.ofConfig_eq_ok_iff.mp hgrant.planned
    obtain rfl := Except.ok.inj (hspec.symm.trans hplan)
    obtain ⟨i, hi, hreplicate⟩ := plan.spec.exists_sent_attempts token (c.retry.maxAttempts.toNat - 1)
      (plan.grant c.identity.scopes k s key identity).network
    have hpos := c.retry.toNat_maxAttempts_pos
    exact ⟨plan, key, entries, identity, token, hgrant, i, by omega, htarget.trans hreplicate⟩

/-! ### What a configuration can give twice -/

/-- A configuration with a target and a name for the header field that it adds. -/
def visiting (target field : String) : JobConfig where
  keyVaultUri := some "http://v"
  target := { baseUrl := some target, partitionHeader := field }
  identity := { authorityHost := "http://w" }

/-- The token of a run is the known one, and the request of the plan can be sent with it. -/
def canVisit (plan : JobPlan) (token : AccessToken) : Bool :=
  token.value.reveal = "t" && Http.isHeaderValue token.bearer && plan.spec.url.scheme = "http" &&
    (plan.spec.request token).hasValidUrl

/-- A run that gets a token it can visit the target with sends the request to the target. -/
lemma exists_visit {k : StoreCredential} {s : Session σ} (fields : List (String × String))
    (hscripted : s.network.isScripted = true)
    (h : (c.token? k s).any (fun found => canVisit found.1 found.2) = true)
    (hfields : (RequestSpec.ofConfig c).toOption.map (Request.userinfoFields ·.url) = some fields) :
    ∃ (spec : RequestSpec) (token : AccessToken), RequestSpec.ofConfig c = .ok spec ∧
      token.value.reveal = "t" ∧ Request.userinfoFields spec.url = fields ∧
      (spec.request token).message ∈ (c.run k.credential s).2.messages := by
  obtain ⟨plan, key, entries, identity, token, hgrant, h⟩ := exists_grants_of_token? h
  simp only [canVisit, Bool.and_eq_true, decide_eq_true_eq] at h
  obtain ⟨⟨⟨htoken, hbearer⟩, hscheme⟩, hurl⟩ := h
  obtain ⟨-, -, -, hspec, -⟩ := JobPlan.ofConfig_eq_ok_iff.mp hgrant.planned
  rw [hspec] at hfields
  refine ⟨plan.spec, token, hspec, htoken, Option.some.inj hfields, ?_⟩
  obtain ⟨sent, hmessages, hcourse⟩ := c.exists_course k s
  have hsent := hcourse.keepsStages.target_ne_nil hgrant hbearer hscheme hurl hscripted
  obtain ⟨i, -, hreplicate⟩ := plan.spec.exists_sent_attempts token (c.retry.maxAttempts.toNat - 1)
    (plan.grant c.identity.scopes k s key identity).network
  have hrecorded : (plan.spec.request token).recorded = (plan.spec.request token).message := if_pos hscheme
  have htarget := (hcourse.of_grants hgrant).trans hreplicate
  rw [htarget, Ne, List.replicate_eq_nil_iff] at hsent
  rw [hmessages, StagedMessages.all, htarget, hrecorded]
  exact List.mem_append_right _ (List.mem_append_right _ (List.mem_replicate.mpr ⟨hsent, rfl⟩))

/-- With a header field that is not among the others, each of the three is sent once. -/
theorem run_targets_partition :
    ∃ m ∈ ((visiting "http://t" " Data-Partition-Id").run (.fixed ⟨⟨"k"⟩, none⟩) generous).2.messages,
      fieldValues "authorization" m.headers = ["Bearer t"] ∧
      fieldValues "accept" m.headers = ["application/json"] ∧
      fieldValues "data-partition-id" m.headers = ["opendes"] := by
  obtain ⟨spec, token, hspec, htoken, hfields, hvisit⟩ :=
    exists_visit (c := visiting "http://t" " Data-Partition-Id") (k := .single (.fixed ⟨⟨"k"⟩, none⟩))
      (s := generous) [] rfl (by decide +kernel) (by decide +kernel)
  obtain ⟨htargets, -⟩ := run_targets (σ := Unit) hspec
  have hcredentials : Request.credentials? spec.url = none := by
    simpa [Request.userinfoFields] using hfields
  have honce := (htargets token).2.1.mpr ⟨by decide, by decide, hcredentials⟩
  refine ⟨(spec.request token).message, hvisit, ?_, honce.accept, honce.partition⟩
  rw [honce.authorization, htoken]
  rfl

/-- With a user name in the URL, or a header field of the name that the token stands under, the token does
not stand there alone. -/
theorem authorization_twice :
    (∃ m ∈ ((visiting "http://u:p@t" "data-partition-id").run (.fixed ⟨⟨"k"⟩, none⟩) generous).2.messages,
      m.method = .get ∧ fieldValues "authorization" m.headers = ["Basic dTpw", "Bearer t"]) ∧
    ∃ m ∈ ((visiting "http://t" "Authorization").run (.fixed ⟨⟨"k"⟩, none⟩) generous).2.messages,
      m.method = .get ∧ fieldValues "authorization" m.headers = ["Bearer t", "opendes"] := by
  constructor
  · obtain ⟨spec, token, hspec, htoken, hfields, hvisit⟩ :=
      exists_visit (c := visiting "http://u:p@t" "data-partition-id")
        (k := .single (.fixed ⟨⟨"k"⟩, none⟩)) (s := generous)
        [("authorization", "Basic dTpw")] rfl (by decide +kernel) (by decide +kernel)
    have htargets := RequestSpec.targets_of_ofConfig hspec token
    have hurl : (spec.request token).url = spec.url := rfl
    refine ⟨(spec.request token).message, hvisit, htargets.method, ?_⟩
    rw [htargets.authorization, hurl, hfields, htoken]
    rfl
  · obtain ⟨spec, token, hspec, htoken, hfields, hvisit⟩ :=
      exists_visit (c := visiting "http://t" "Authorization") (k := .single (.fixed ⟨⟨"k"⟩, none⟩))
        (s := generous) [] rfl (by decide +kernel) (by decide +kernel)
    have htargets := RequestSpec.targets_of_ofConfig hspec token
    have hurl : (spec.request token).url = spec.url := rfl
    refine ⟨(spec.request token).message, hvisit, htargets.method, ?_⟩
    rw [htargets.authorization, hurl, hfields, htoken]
    rfl

end JobConfig

end Reindex
