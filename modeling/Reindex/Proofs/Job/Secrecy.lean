import Reindex.Proofs.Job.Alike
import Reindex.Proofs.Token.Endpoint

/-!
# Secrets are kept

Two runs of a job that differ in the secrets they read and in the tokens they get cannot be told apart
by what they say, by how many requests they make in which stage, or by what comes of them. A secret can
show only in the length of the address that it is a part of.
-/

namespace Reindex

open Http (Message)

open Work (Related Alike)

variable {σ : Type}

namespace JobConfig

variable {c : JobConfig} {k k' : StoreCredential} {s s' : Session σ}

/-! ### Stage by stage -/

/-- The messages of a run, stage by stage. -/
def staged (c : JobConfig) (k : StoreCredential) (s : Session σ) : StagedMessages :=
  match JobPlan.ofConfig c with
  | .error _ => {}
  | .ok plan =>
    match k.answer s with
    | .error _ => { credential := (k.asked s).messages }
    | .ok key =>
      let sent : StagedMessages :=
        { credential := (k.asked s).messages, vault := (plan.secrets k s key).sent }
      match (plan.secrets k s key).result with
      | .error _ => sent
      | .ok entries =>
        match ClientIdentity.ofSecrets plan.names ⟨entries⟩ with
        | .error _ => sent
        | .ok identity =>
          let grant := plan.grant c.identity.scopes k s key identity
          let sent := { sent with token := grant.sent }
          match grant.result with
          | .error _ => sent
          | .ok token => { sent with target :=
              (plan.spec.attempts token (c.retry.maxAttempts.toNat - 1) grant.network).sent }

lemma Course.sent_eq {sent : StagedMessages} {result : Except JobError UInt16}
    (h : c.Course k s sent result) : sent = c.staged k s := by
  simp only [staged]
  cases h with
  | unplanned h => rw [h]
  | locked hplan h => simp only [hplan, h]
  | unread hkey h => simp only [hkey.planned, hkey.unlocked, h]
  | incomplete hkey hread h => simp only [hkey.planned, hkey.unlocked, hread, h]
  | ungranted hidentity h =>
    simp only [hidentity.planned, hidentity.unlocked, hidentity.read, hidentity.identified, h]
  | attempted hgrant h =>
    simp only [hgrant.planned, hgrant.unlocked, hgrant.read, hgrant.identified, hgrant.granted]

end JobConfig

/-- In every stage as many messages go out, and they ask the same at the same places, unless something
is posted. -/
structure StagedMessages.Alike (m m' : StagedMessages) : Prop where
  credential : List.Forall₂ Message.Alike m.credential m'.credential
  vault : List.Forall₂ Message.Alike m.vault m'.vault
  token : List.Forall₂ Message.Alike m.token m'.token
  target : List.Forall₂ Message.Alike m.target m'.target

namespace JobPlan

variable {k k' : StoreCredential} {s s' : Session σ}

lemma asked_alike (hk : k.Alike k') (hs : s.Alike s') : (k.asked s).Alike (k'.asked s') :=
  (hk.token [Vault.scope] s.fresh s'.fresh hs.fresh).2

/-- The reads of the secrets of two runs go alike, and they leave sessions that are alike. -/
lemma secrets_alike (p : JobPlan) (hk : k.Alike k') (hs : s.Alike s') {key key' : AccessToken}
    (h : key.Alike key') : ∃ t t' : Session σ, t.Alike t' ∧
      (t.network = (p.secrets k s key).network ∧ t.now = (k.asked s).now) ∧
      (t'.network = (p.secrets k' s' key').network ∧ t'.now = (k'.asked s').now) ∧
      List.Forall₂ Message.Alike (p.secrets k s key).sent (p.secrets k' s' key').sent ∧
      Agree (fun entries entries' => (ResolvedSecrets.mk entries).Alike ⟨entries'⟩)
        (p.secrets k s key).result (p.secrets k' s' key').result := by
  have hasked := asked_alike hk hs
  have hunread : ({} : ResolvedSecrets).unread p.names.toList = p.distinctNames :=
    List.filter_eq_self.mpr fun _ _ => rfl
  obtain ⟨t, hread, hreaches⟩ :=
    (p.shown k : Vault σ).readAll_apply key p.names.toList {} (k.asked s)
  obtain ⟨t', hread', hreaches'⟩ :=
    (p.shown k' : Vault σ).readAll_apply key' p.names.toList {} (k'.asked s')
  rw [hunread] at hread hread' hreaches hreaches'
  obtain ⟨hresult, ht⟩ := @Vault.readAll_alike σ (p.shown k) (p.shown k') rfl key key' h
    p.names.toList {} {} .nil _ _ hasked
  rw [hread, hread'] at hresult ht
  refine ⟨t, t', ht, ⟨hreaches.network, hreaches.now⟩, ⟨hreaches'.network, hreaches'.now⟩,
    hasked.sent ht hreaches.messages hreaches'.messages, hresult.of_map⟩

/-- The questions of two identities for their tokens go alike, and they leave sessions that are alike. -/
lemma grant_alike (p : JobPlan) (i i' : ClientIdentity) (scopes : List String)
    (h : ∀ r r', TokenProvider.question? p.authority i scopes = some r →
      TokenProvider.question? p.authority i' scopes = some r' → r.hasValidUrl = r'.hasValidUrl)
    {key key' : AccessToken} {t t' : Session σ} (ht : t.Alike t')
    (hkey : t.network = (p.secrets k s key).network ∧ t.now = (k.asked s).now)
    (hkey' : t'.network = (p.secrets k' s' key').network ∧ t'.now = (k'.asked s').now) :
    ∃ u u' : Session σ, u.Alike u' ∧
      u.network = (p.grant scopes k s key i).network ∧
      u'.network = (p.grant scopes k' s' key' i').network ∧
      List.Forall₂ Message.Alike (p.grant scopes k s key i).sent (p.grant scopes k' s' key' i').sent ∧
      Agree (fun _ _ => True) (p.grant scopes k s key i).result
        (p.grant scopes k' s' key' i').result := by
  simp only [grant]
  rw [← hkey.1, ← hkey.2, ← hkey'.1, ← hkey'.2]
  obtain ⟨u, hrun, hreaches⟩ := TokenProvider.acquire_apply p.authority i scopes t
  obtain ⟨u', hrun', hreaches'⟩ := TokenProvider.acquire_apply p.authority i' scopes t'
  obtain ⟨hresult, hu⟩ := TokenProvider.acquire_alike p.authority i i' scopes h t t' ht
  rw [hrun, hrun'] at hresult hu
  exact ⟨u, u', hu, hreaches.network, hreaches'.network,
    ht.sent hu hreaches.messages hreaches'.messages, hresult⟩

/-- The attempts send the same, whichever token they show. -/
lemma sent_attempts_alike (r : RequestSpec) (policy : RetryPolicy) {token token' : AccessToken}
    (h : token.Alike token') {t t' : Session σ} (ht : t.Alike t') :
    List.Forall₂ Message.Alike
      (r.attempts token (policy.maxAttempts.toNat - 1) t.network).sent
      (r.attempts token' (policy.maxAttempts.toNat - 1) t'.network).sent := by
  obtain ⟨result, u, hrun, -, hmessages⟩ :=
    r.attemptFrom_sendOnce policy token 0 (policy.maxAttempts.toNat - 1) 1 t
  obtain ⟨result', u', hrun', -, hmessages'⟩ :=
    r.attemptFrom_sendOnce policy token' 0 (policy.maxAttempts.toNat - 1) 1 t'
  obtain ⟨-, hu⟩ := r.attemptFrom_alike policy h 0 0 (policy.maxAttempts.toNat - 1) 1 t t' ht
  rw [hrun, hrun'] at hu
  exact ht.sent hu hmessages hmessages'

end JobPlan

namespace JobConfig

variable {c : JobConfig} {k k' : StoreCredential} {s s' : Session σ}

lemma staged_alike (hk : k.Alike k') (hs : s.Alike s') (hshown : c.ShowsAlike k k' s s')
    (hasked : c.AsksAlike k k' s s') : (c.staged k s).Alike (c.staged k' s') := by
  simp only [staged]
  cases hplan : JobPlan.ofConfig c with
  | error e => exact ⟨.nil, .nil, .nil, .nil⟩
  | ok plan =>
    have hcredential := (JobPlan.asked_alike hk hs).messages
    have hanswer : Agree (fun _ _ => True) (k.answer s) (k'.answer s') :=
      (hk.token [Vault.scope] s.fresh s'.fresh hs.fresh).1
    obtain ⟨e, hkey, hkey'⟩ | ⟨key, key', hkey, hkey', -⟩ := hanswer.eq_error_or_eq_ok
    · simp only [hkey, hkey']
      exact ⟨hcredential, .nil, .nil, .nil⟩
    have hunlocks : c.Unlocks k s plan key := ⟨hplan, hkey⟩
    have hunlocks' : c.Unlocks k' s' plan key' := ⟨hplan, hkey'⟩
    obtain ⟨t, t', ht, hleft, hleft', hvault, hread⟩ :=
      plan.secrets_alike hk hs (hshown.key hunlocks hunlocks')
    simp only [hkey, hkey']
    obtain ⟨e, hentries, hentries'⟩ | ⟨entries, entries', hentries, hentries', hread⟩ :=
      hread.eq_error_or_eq_ok
    · simp only [hentries, hentries']
      exact ⟨hcredential, hvault, .nil, .nil⟩
    have hsecrets := ClientIdentity.ofSecrets_agree plan.names hread
    simp only [hentries, hentries']
    obtain ⟨e, hidentity, hidentity'⟩ | ⟨identity, identity', hidentity, hidentity', -⟩ :=
      hsecrets.eq_error_or_eq_ok
    · simp only [hidentity, hidentity']
      exact ⟨hcredential, hvault, .nil, .nil⟩
    have hidentifies : c.Identifies k s plan key entries identity :=
      ⟨hunlocks, hentries, hidentity⟩
    have hidentifies' : c.Identifies k' s' plan key' entries' identity' :=
      ⟨hunlocks', hentries', hidentity'⟩
    obtain ⟨u, u', hu, hnetwork, hnetwork', htoken, hgrant⟩ := plan.grant_alike
      identity identity' c.identity.scopes (hasked hidentifies hidentifies') ht hleft hleft'
    simp only [hidentity, hidentity']
    obtain ⟨e, hgranted, hgranted'⟩ | ⟨token, token', hgranted, hgranted', -⟩ :=
      hgrant.eq_error_or_eq_ok
    · simp only [hgranted, hgranted']
      exact ⟨hcredential, hvault, htoken, .nil⟩
    have hsent := JobPlan.sent_attempts_alike plan.spec c.retry
      (hshown.token ⟨hidentifies, hgranted⟩ ⟨hidentifies', hgranted'⟩) hu
    rw [hnetwork, hnetwork'] at hsent
    simp only [hgranted, hgranted']
    exact ⟨hcredential, hvault, htoken, hsent⟩

/-! ### Runs that can be compared -/

/-- The credential that gives a token that is there already. -/
def keptToken (token : String) : StoreCredential := .single (.fixed ⟨⟨token⟩, none⟩)

/-- A session whose network gives one value for every secret, a token to whoever asks for one, and the usual
status. -/
def answering (value token : String) : Session Unit where
  network :=
    let secret := .response ⟨200, .ofText (Json.memberText "value" value)⟩
    .scripted [secret, secret, secret, secret,
      .response ⟨200, .ofText (Json.memberText "access_token" token)⟩, .response ⟨200, ⟨[], true⟩⟩]
  files := ⟨[]⟩
  now := ⟨0⟩
  parts := ()

lemma answering_alike {value value' token token' : String}
    (hvalue : Json.isPlain value = true ∧ Text.isBlank value = false)
    (hvalue' : Json.isPlain value' = true ∧ Text.isBlank value' = false)
    (htoken : Json.isPlain token = true ∧ Text.isBlank token = false)
    (htoken' : Json.isPlain token' = true ∧ Text.isBlank token' = false) :
    (answering value token).Alike (answering value' token') where
  network := by
    have hanswer : ∀ (key : String) {text text' : String}, key ∈ Json.secretKeys →
        Json.isPlain text = true ∧ Text.isBlank text = false →
        Json.isPlain text' = true ∧ Text.isBlank text' = false →
        Http.Answer.SameButSecrets (.response ⟨200, .ofText (Json.memberText key text)⟩)
          (.response ⟨200, .ofText (Json.memberText key text')⟩) :=
      fun _ _ _ hkey h h' => .response (.secret rfl (.ofText (Json.rel_memberText hkey h h')))
    have hsecret := hanswer "value" (by decide) hvalue hvalue'
    have hgrant := hanswer "access_token" (by decide) htoken htoken'
    exact .scripted (.cons hsecret (.cons hsecret (.cons hsecret (.cons hsecret
      (.cons hgrant (.cons (.same _) .nil))))))
  files := rfl
  history := .nil

/-- A property that all tokens of a run have is one of the token that the identity is granted. -/
lemma Grants.of_token? {plan : JobPlan} {key : AccessToken} {entries : List (SecretName × SecretValue)}
    {identity : ClientIdentity} {token : AccessToken}
    (h : c.Grants k s plan key entries identity token) {p : AccessToken → Bool}
    (hp : (c.token? k s).all (fun found => p found.2) = true) : p token = true := by
  rw [h.token?_eq] at hp
  exact hp

/-- A property that all questions of a run for its token have is one of the question of the identity that it
comes to. -/
lemma Identifies.of_identity? {plan : JobPlan} {key : AccessToken}
    {entries : List (SecretName × SecretValue)} {identity : ClientIdentity}
    (h : c.Identifies k s plan key entries identity) {r : Http.Request}
    (hr : TokenProvider.question? plan.authority identity c.identity.scopes = some r)
    {p : Http.Request → Bool}
    (hp : (c.identity? k s).all (fun found =>
      (TokenProvider.question? found.1.authority found.2.2 c.identity.scopes).all p) = true) :
    p r = true := by
  rw [h.identity?_eq] at hp
  dsimp only [Option.all_some] at hp
  rw [hr] at hp
  exact hp

/-- A configuration whose vault, authority and target can all be asked. -/
def askable : JobConfig where
  keyVaultUri := some "http://v"
  target := { baseUrl := some "http://t" }
  identity := { authorityHost := "http://w" }

/-! ### Whole runs -/

/-- Two runs whose networks answer the same but for secrets come to the same result. In both the same is
said but for the times in it, and in every stage as many requests go out. -/
theorem run_keepsSecrets (hk : k.Alike k') (hs : s.Alike s') (hshown : c.ShowsAlike k k' s s')
    (hasked : c.AsksAlike k k' s s') :
    (c.run k.credential s).1 = (c.run k'.credential s').1 ∧
      (c.run k.credential s).2.Alike (c.run k'.credential s').2 ∧
      ∃ sent sent' : StagedMessages, sent.Alike sent' ∧
        ((c.run k.credential s).2.messages = s.messages ++ sent.all ∧
          c.Course k s sent (c.run k.credential s).1) ∧
        ((c.run k'.credential s').2.messages = s'.messages ++ sent'.all ∧
          c.Course k' s' sent' (c.run k'.credential s').1) := by
  obtain ⟨hresult, hsession⟩ := run_alike hk hs hshown hasked
  obtain ⟨sent, hmessages, hcourse⟩ := c.exists_course k s
  obtain ⟨sent', hmessages', hcourse'⟩ := c.exists_course k' s'
  have halike := staged_alike hk hs hshown hasked
  rw [← hcourse.sent_eq, ← hcourse'.sent_eq] at halike
  exact ⟨hresult, hsession, sent, sent', halike, ⟨hmessages, hcourse⟩, hmessages', hcourse'⟩

/-- The secrets and the tokens do not matter, as long as they can be sent. -/
theorem answering_keepsSecrets :
    (keptToken "k").Alike (keptToken "l") ∧ (answering "x" "t").Alike (answering "y" "u") ∧
      askable.ShowsAlike (keptToken "k") (keptToken "l") (answering "x" "t") (answering "y" "u") ∧
      askable.AsksAlike (keptToken "k") (keptToken "l") (answering "x" "t") (answering "y" "u") ∧
      (askable.run (keptToken "k").credential (answering "x" "t")).1 =
        (askable.run (keptToken "l").credential (answering "y" "u")).1 := by
  have hs : (answering "x" "t").Alike (answering "y" "u") :=
    answering_alike ⟨by decide, by decide⟩ ⟨by decide, by decide⟩ ⟨by decide, by decide⟩
      ⟨by decide, by decide⟩
  have hshown : askable.ShowsAlike (keptToken "k") (keptToken "l") (answering "x" "t")
      (answering "y" "u") := by
    constructor
    · intro plan key key' hkey hkey'
      cases hkey.unlocked
      cases hkey'.unlocked
      simp only [AccessToken.Alike]
      decide +kernel
    · intro _ _ _ _ _ _ _ token token' hgrant hgrant'
      have htoken := hgrant.of_token? (p := fun token => Http.isHeaderValue token.bearer)
        (by decide +kernel)
      have htoken' := hgrant'.of_token? (p := fun token => Http.isHeaderValue token.bearer)
        (by decide +kernel)
      exact htoken.trans htoken'.symm
  have hasked : askable.AsksAlike (keptToken "k") (keptToken "l") (answering "x" "t")
      (answering "y" "u") := by
    intro plan key key' entries entries' identity identity' hidentity hidentity' r r' hr hr'
    have hvalid := hidentity.of_identity? hr (p := Http.Request.hasValidUrl) (by decide +kernel)
    have hvalid' := hidentity'.of_identity? hr' (p := Http.Request.hasValidUrl) (by decide +kernel)
    exact hvalid.trans hvalid'.symm
  exact ⟨.fixed _ _, hs, hshown, hasked, (run_keepsSecrets (.fixed _ _) hs hshown hasked).1⟩

/-! ### A tenant that is too long -/

/-- The tenant is the first secret that is asked for. -/
lemma Identifies.tenantId_eq {plan : JobPlan} {key : AccessToken}
    {entries : List (SecretName × SecretValue)} {identity : ClientIdentity}
    (h : c.Identifies k s plan key entries identity) {text : String} (htext : Json.isPlain text = true)
    {rest : List Http.Answer} (hnetwork : (k.asked s).network =
      .scripted (.response ⟨200, .ofText (Json.memberText "value" text)⟩ :: rest)) :
    identity.given.tenantId = text := by
  have hread := h.read
  obtain ⟨more, hnames⟩ : ∃ more, plan.distinctNames = plan.names.tenantId :: more :=
    ⟨_, List.eraseDups_cons⟩
  simp only [JobPlan.secrets] at hread
  rw [hnames, hnetwork] at hread
  obtain ⟨value, others, hvalue, -, rfl⟩ := Vault.exists_of_batch_cons hread
  obtain ⟨r, answer, -, houtcome, hmeaning⟩ := Vault.exists_answer_of_reading hvalue
  cases Http.Network.outcome_of_scripted houtcome
  cases (Vault.meaning_memberText htext _ _).symm.trans hmeaning
  rw [ClientIdentity.given_of_ofSecrets h.identified]
  simp [ClientIdentity.texts, PerField.map, ResolvedSecrets.get?, SecretValue.ofText,
    SecretValue.reveal]

def letters (n : Nat) : String := String.ofList (List.replicate n 'a')

lemma isPlain_letters (n : Nat) : Json.isPlain (letters n) = true := by
  simp only [Json.isPlain, letters]
  rw [String.toList_ofList, List.all_replicate]
  split <;> decide

lemma isBlank_letters {n : Nat} (hn : n ≠ 0) : Text.isBlank (letters n) = false := by
  simp only [Text.isBlank, letters]
  rw [String.toList_ofList, List.all_replicate, if_neg hn]
  decide

lemma trim_letters (n : Nat) : Text.trim (letters n) = letters n := by
  have hdrop : (List.replicate n 'a').dropWhile Text.isBlankChar = List.replicate n 'a' := by
    cases n with
    | zero => rfl
    | succ n => exact List.dropWhile_cons_of_neg (by decide)
  simp only [Text.trim, Text.trimList, Text.trimStartList, Text.trimEndList, Text.dropRightWhile, letters]
  rw [String.toList_ofList, hdrop, List.reverse_replicate, hdrop, List.reverse_replicate]

lemma utf8ByteSize_letters (n : Nat) : (letters n).utf8ByteSize = n := by
  simp only [letters]
  induction n with
  | zero => rfl
  | succ n ih =>
    rw [List.replicate_succ, String.ofList_cons, String.utf8ByteSize_append, ih]
    exact Nat.add_comm 1 n

lemma authority_askable : askable.authorityUrl =
    .ok ⟨"http", some ⟨"", none, .domain "w", none⟩, .segments [""], none, none⟩ := by
  decide +kernel

/-- No token can be asked for in the name of a tenant that is too long. -/
lemma not_grants_of_lengthy {n : Nat} (hn : Http.Request.maxUrlLength < n) {token : String}
    {plan : JobPlan} {key granted : AccessToken} {entries : List (SecretName × SecretValue)}
    {identity : ClientIdentity} :
    ¬ askable.Grants (keptToken "k") (answering (letters n) token) plan key entries identity granted := by
  intro h
  obtain ⟨-, -, hauthority, -, -⟩ := JobPlan.ofConfig_eq_ok_iff.mp h.planned
  have hauthority := Except.ok.inj (hauthority.symm.trans authority_askable)
  have htenant : identity.tenantId = letters n := by
    rw [ClientIdentity.tenantId, h.tenantId_eq (isPlain_letters n) rfl, trim_letters]
  obtain ⟨r, answer, hquestion, -, houtcome, -⟩ :=
    TokenProvider.exists_answer_of_acquisition h.granted
  obtain ⟨endpoint, hurl, rfl⟩ := Option.map_eq_some_iff.mp hquestion
  rw [toOption_eq_some_iff, htenant] at hurl
  obtain ⟨i, rfl⟩ : ∃ i, n = i + 1 := ⟨n - 1, by omega⟩
  have hplain : ∀ c ∈ 'a' :: List.replicate i 'a', Url.IsPlainInPath c := by
    intro c hc
    rw [List.eq_of_mem_replicate (n := i + 1) hc]
    exact Url.isPlainInPath_of_isAlphanum (by decide)
  have hinvalid := TokenEndpoint.hasValidUrl_eq_false_of_lengthy (by rw [hauthority])
    (by rw [hauthority]) (by rw [hauthority]; decide +kernel) hplain
    (hn.trans_eq (utf8ByteSize_letters _).symm) hurl
  have hsendable := Http.Network.carries_of_outcome houtcome
  rw [Http.Network.carries, Http.Request.isSendable, hinvalid] at hsendable
  simp at hsendable

/-- A tenant can be so long that it shows. -/
theorem lengthy_tenant_shows :
    (keptToken "k").Alike (keptToken "k") ∧
      (answering "x" "t").Alike (answering (letters 65535) "t") ∧
      askable.ShowsAlike (keptToken "k") (keptToken "k") (answering "x" "t")
        (answering (letters 65535) "t") ∧
      (askable.run (keptToken "k").credential (answering "x" "t")).1 ≠
        (askable.run (keptToken "k").credential (answering (letters 65535) "t")).1 := by
  refine ⟨.same _, answering_alike ⟨by decide, by decide⟩ ⟨isPlain_letters _, isBlank_letters (by decide)⟩
    ⟨by decide, by decide⟩ ⟨by decide, by decide⟩, ⟨?_, ?_⟩, fun heq => ?_⟩
  · intro plan key key' hkey hkey'
    cases hkey.unlocked
    cases hkey'.unlocked
    rfl
  · intro _ _ _ _ _ _ _ _ _ _ hgrant'
    exact absurd hgrant' (not_grants_of_lengthy (by decide))
  · have hshort : (askable.run (keptToken "k").credential (answering "x" "t")).1 = .ok 200 := by
      decide +kernel
    obtain ⟨sent, -, hcourse⟩ := askable.exists_course (keptToken "k") (answering (letters 65535) "t")
    rw [← heq, hshort] at hcourse
    cases hcourse with
    | attempted hgrant => exact not_grants_of_lengthy (by decide) hgrant

end JobConfig

end Reindex
