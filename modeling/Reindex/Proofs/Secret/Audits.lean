import Reindex.Proofs.Credential.Quiet
import Reindex.Proofs.Secret.Turns

/-!
# Every read is put on record

Of what a batch tells, operators watch for the records of its reads, and there is one for every read, in
their order: a good one for every value, and a bad one for the read that ended the batch.
-/

namespace Reindex

variable {σ : Type}

open Http (Message Network)
open Work (Plain Quiet)

/-- Plain work does not wait, so no time passes. -/
lemma Work.Plain.now_eq {α : Type} {w : Work σ α} (hw : Plain w) (s : Session σ) :
    (w s).2.now = s.now := by
  induction hw generalizing s with
  | bind _ _ ihw ihf => exact (ihf _ _).trans (ihw s)
  | exchange r => exact s.exchanged_now r
  | _ => rfl

/-- A read from a vault, at some time. -/
structure VaultRead extends SecretRead where
  /-- The name of the vault. -/
  store : String
  time : Instant
  /-- The messages that went out: one or none. -/
  sent : List Message

namespace VaultRead

/-- The audit record of a read. -/
def record (read : VaultRead) : AuditRecord :=
  let record : AuditRecord := ⟨"get", read.name.text, read.store, none, read.time⟩
  match read.answer with
  | .ok _ => record
  | .error e => record.withError e.message

end VaultRead

lemma AuditRecord.isOnly_event (a : AuditRecord) : a.event.IsOnly .audit := by
  have hgood : LogEvent.IsOnly .audit ⟨.info, "Secret operation successful", []⟩ := by decide
  have hbad : LogEvent.IsOnly .audit ⟨.warn, "Secret operation failed", []⟩ := by decide
  unfold event
  cases a.failure with
  | none => exact hgood.withFields _
  | some error => exact hbad.withFields _

/-- The record of a read is notable. -/
lemma Session.notable_audited (s : Session σ) (read : VaultRead) :
    (s.record (.logged read.record.event)).notable = s.notable ++ [read.record.event] :=
  s.notable_record_of_notable read.record.isOnly_event.isNotable

namespace Vault

/-! ### One read after the other -/

def readOnce (v : Vault σ) (token : AccessToken) (time : Instant) (n : Network)
    (name : SecretName) : VaultRead :=
  ⟨⟨name, (v.reading token n name).result⟩, v.label, time, (v.reading token n name).sent⟩

/-- The reads that are made when names are read until one of them is refused. -/
def reads (v : Vault σ) (token : AccessToken) (time : Instant) : Network → List SecretName →
    List VaultRead
  | _, [] => []
  | n, name :: rest =>
    v.readOnce token time n name :: match (v.reading token n name).result with
      | .error _ => []
      | .ok _ => v.reads token time (v.reading token n name).network rest

section

variable {v : Vault σ} {token : AccessToken} {n : Network} {name : SecretName}

lemma reads_cons_of_error (time : Instant) (rest : List SecretName) {e : SecretError}
    (h : (v.reading token n name).result = .error e) :
    v.reads token time n (name :: rest) = [v.readOnce token time n name] := by
  rw [reads, h]

lemma reads_cons_of_ok (time : Instant) (rest : List SecretName) {value : SecretValue}
    (h : (v.reading token n name).result = .ok value) :
    v.reads token time n (name :: rest) =
      v.readOnce token time n name ::
        v.reads token time (v.reading token n name).network rest := by
  rw [reads, h]

lemma readOnce_of_result (time : Instant) {answer : Except SecretError SecretValue}
    (h : (v.reading token n name).result = answer) :
    (v.readOnce token time n name).toSecretRead = ⟨name, answer⟩ := by
  rw [readOnce, h]

end

/-- The reads are those that the batch is made of: it comes to what they come to, and sends what they
send. -/
lemma reads_eq_batch (v : Vault σ) (token : AccessToken) (time : Instant) (names : List SecretName) :
    ∀ (n : Network) (found : ResolvedSecrets),
      SecretStore.ReadsInTurn found names
          ((v.reads token time n names).map VaultRead.toSecretRead)
          ((v.batch token n names).result.map fun entries => ⟨found.entries ++ entries⟩) ∧
        (v.batch token n names).sent = (v.reads token time n names).flatMap VaultRead.sent := by
  induction names with
  | nil =>
    intro n found
    exact ⟨@SecretStore.ReadsInTurn.all found _ [] rfl, rfl⟩
  | cons name rest ih =>
    intro n found
    cases hread : (v.reading token n name).result with
    | error e =>
      rw [reads_cons_of_error time rest hread, batch_cons_of_error hread, List.map_singleton,
        readOnce_of_result time hread]
      exact ⟨.refused name rest e, (List.append_nil _).symm⟩
    | ok value =>
      obtain ⟨hrest, hsent⟩ :=
        ih (v.reading token n name).network ⟨found.entries ++ [(name, value)]⟩
      have hgiven := hrest.given
      rw [reads_cons_of_ok time rest hread, batch_cons_of_ok hread, List.map_cons,
        readOnce_of_result time hread, List.flatMap_cons, hsent]
      refine ⟨?_, rfl⟩
      cases hbatch : (v.batch token (v.reading token n name).network rest).result with
      | error e =>
        rw [hbatch] at hgiven
        exact hgiven
      | ok others =>
        rw [hbatch] at hgiven
        dsimp only [Except.map] at hgiven ⊢
        rwa [List.append_assoc] at hgiven

lemma quiet_readWith (v : Vault σ) (token : AccessToken) (name : SecretName) :
    Quiet (v.readWith token name) := by
  unfold readWith
  split
  · exact .pure _
  · apply (Quiet.exchange _).bind
    rintro (fault | answer)
    · exact .pure _
    · exact (Quiet.say (by decide) _).bind fun _ => .pure _

lemma audit_of_value (v : Vault σ) (name : SecretName) (value : SecretValue) (sent : List Message)
    (s : Session σ) : (v.store.audit name none : Work σ Unit) s =
      ((), s.record (.logged (VaultRead.mk ⟨name, .ok value⟩ v.label s.now sent).record.event)) :=
  rfl

lemma audit_of_error (v : Vault σ) (name : SecretName) (e : SecretError) (sent : List Message)
    (s : Session σ) : (v.store.audit name (some e) : Work σ Unit) s =
      ((), s.record (.logged (VaultRead.mk ⟨name, .error e⟩ v.label s.now sent).record.event)) :=
  rfl

/-- With a token at hand, the records of the reads are all that is notable about them. -/
lemma notable_readAll (v : Vault σ) (token : AccessToken) (names : List SecretName) :
    ∀ (found : ResolvedSecrets) (s : Session σ),
      (v.store.readAll found names (some token) s).2.notable =
        s.notable ++ (v.reads token s.now s.network (found.unread names)).map
          fun read => read.record.event := by
  induction names with
  | nil => exact fun _ s => (List.append_nil _).symm
  | cons name rest ih =>
    intro found s
    rw [readAll_some_cons]
    cases hfound : found.contains name.text with
    | true =>
      rw [found.unread_cons_of_contains rest hfound, if_pos rfl]
      simp only [Work.bind_apply, Work.log_apply]
      rw [ih, Session.record_network, Session.record_now, Session.notable_record_of_quiet ?told]
      case told =>
        exact (by decide :
          LogEvent.isNotable ⟨.debug, "Secret already resolved in this batch", []⟩ = false)
    | false =>
      obtain ⟨s₁, hread, hreaches⟩ := v.readWith_apply token name s
      have hquiet := v.quiet_readWith token name s
      rw [hread] at hquiet
      rw [if_neg Bool.false_ne_true]
      simp only [Work.bind_apply, hread]
      cases hresult : (v.reading token s.network name).result with
      | error e =>
        -- What the value would have been does not matter for the names that are left.
        rw [found.unread_cons_of_not_contains (.ofText "") rest hfound,
          reads_cons_of_error _ _ hresult, readOnce, hresult]
        simp only [Work.bind_apply, Work.pure_apply]
        rw [audit_of_error v name e (v.reading token s.network name).sent, Session.notable_audited,
          hquiet, hreaches.now]
        rfl
      | ok value =>
        rw [found.unread_cons_of_not_contains value rest hfound, reads_cons_of_ok _ _ hresult,
          readOnce, hresult]
        simp only [Work.bind_apply]
        rw [audit_of_value v name value (v.reading token s.network name).sent, ih,
          Session.notable_audited, Session.record_network, Session.record_now, hquiet, hreaches.now,
          hreaches.network, found.insert_of_not_contains value hfound, List.append_assoc]
        rfl

/-! ### Batches -/

/-- The reads of a batch. The first one is there even if it ends where the credential is asked. -/
def batchReads (v : Vault σ) (s : Session σ) : List SecretName → List VaultRead
  | [] => []
  | name :: rest =>
    match v.storeAnswer s with
    | .error e => [⟨⟨name, .error (.credential e)⟩, v.label, s.now, []⟩]
    | .ok token => v.reads token s.now (v.storeAsked s).network (name :: rest).eraseDups

/-- The work of `readAll` asks its credential for a token first. It goes on with the token, or puts on
record that there was none. -/
lemma readAll_of_plain {v : Vault σ} (hv : Plain (v.credential.token [scope])) (name : SecretName)
    (rest : List SecretName) (s : Session σ) :
    ∃ s', v.credential.token [scope] (v.requesting s) = (v.storeAnswer s, s') ∧
      s'.network = (v.storeAsked s).network ∧ s'.now = s.now ∧
      v.store.readAll {} (name :: rest) none s = match v.storeAnswer s with
        | .ok token => v.store.readAll {} (name :: rest) (some token) s'
        | .error e =>
          ((.error (.credential e), none), (v.store.audit name (some (.credential e)) s').2) := by
  have hasked : v.credential.token [scope] (v.requesting s) =
      (v.storeAnswer s, (v.storeAsked s).behind (v.requesting s).history) :=
    hv.ignoresPast.apply_eq (v.requesting s)
  refine ⟨_, hasked, rfl, hv.now_eq s.fresh, ?_⟩
  rw [readAll_none_apply, hasked]
  cases v.storeAnswer s <;> rfl

/-- The work of `resolve` is that of `readAll`, and what it says about the batch in the end is quiet. -/
lemma resolve_apply (v : Vault σ) (names : List SecretName) (s : Session σ) :
    (v.resolve names s).1 = (v.store.readAll {} names none s).1.1 ∧
      (v.resolve names s).2.notable = (v.store.readAll {} names none s).2.notable := by
  rw [resolve_eq]
  simp only [Work.bind_apply]
  cases (v.store.readAll {} names none s).1.1 with
  | error e => exact ⟨rfl, rfl⟩
  | ok found => exact ⟨rfl, Quiet.say (by decide) _ _⟩

/-- The reads of a batch are made in turn, and the batch comes to what they come to. -/
lemma readsInTurn_batchReads {v : Vault σ} (hv : Plain (v.credential.token [scope]))
    (names : List SecretName) (s : Session σ) :
    SecretStore.ReadsInTurn {} names.eraseDups
      ((v.batchReads s names).map VaultRead.toSecretRead) (v.resolve names s).1 := by
  rw [(v.resolve_apply names s).1]
  cases names with
  | nil => exact @SecretStore.ReadsInTurn.all {} _ [] rfl
  | cons name rest =>
    obtain ⟨s', -, hnetwork, -, hbatch⟩ := readAll_of_plain hv name rest s
    rw [hbatch, batchReads]
    cases v.storeAnswer s with
    | error e =>
      rw [List.eraseDups_cons]
      exact .refused name _ _
    | ok token =>
      obtain ⟨s'', hread, -⟩ := v.readAll_apply token (name :: rest) {} s'
      obtain ⟨hreads, -⟩ := v.reads_eq_batch token s.now (name :: rest).eraseDups s'.network {}
      dsimp only
      rw [hread, ResolvedSecrets.unread_empty, ← hnetwork]
      exact hreads

/-- The records of its reads are all that is notable about a batch. -/
lemma notable_resolve {v : Vault σ} (hv : Plain (v.credential.token [scope]))
    (hquiet : Quiet (v.credential.token [scope])) (names : List SecretName) (s : Session σ) :
    (v.resolve names s).2.notable =
      s.notable ++ (v.batchReads s names).map fun read => read.record.event := by
  rw [(v.resolve_apply names s).2]
  cases names with
  | nil => exact (List.append_nil _).symm
  | cons name rest =>
    obtain ⟨s', hasked, hnetwork, hnow, hbatch⟩ := readAll_of_plain hv name rest s
    have hrequesting : (v.requesting s).notable = s.notable := Quiet.say (by decide) _ s
    have hnotable := hquiet (v.requesting s)
    rw [hasked, hrequesting] at hnotable
    rw [hbatch, batchReads]
    cases v.storeAnswer s with
    | error e =>
      dsimp only
      rw [audit_of_error v name (.credential e) [], Session.notable_audited, hnotable, hnow]
      rfl
    | ok token =>
      dsimp only
      rw [notable_readAll, hnotable, hnow, hnetwork,
        ResolvedSecrets.unread_empty]

end Vault

end Reindex
