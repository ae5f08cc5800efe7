import Mathlib.Tactic.Common
import Reindex.Proofs.Http.Exchange
import Reindex.Proofs.Session.Work
import Reindex.Secret.Vault

/-!
# Reading from a vault

What reading from a vault comes to, as a function of the network: the messages that go out, the
network that they leave and the result. Several names are read one after the other until one of them
is refused.
-/

namespace Reindex

open Http (Network Request Traffic)

/-- A vault is to blame: it does not give a secret, or it cannot be asked. -/
def SecretError.isOfVault : SecretError → Bool
  | .unavailable .. | .unreachable .. => true
  | _ => false

namespace Vault

variable {σ : Type}

/-- The request for a secret in the vault at an address, if it can be asked for it. -/
def question? (vault : Url) (token : AccessToken) (name : SecretName) : Option Request :=
  (SecretReference.mk vault name).url.toOption.map (request · token)

def reading (v : Vault σ) (token : AccessToken) (n : Network) (name : SecretName) :
    Traffic (Except SecretError SecretValue) :=
  match question? v.url token name with
  | none => ⟨[], n, .error (.unreachable v.url.text .noPath)⟩
  | some r =>
    ⟨(n.exchange r).sent.toList, (n.exchange r).network, match (n.exchange r).outcome with
      | .error fault => .error (.unreachable v.label (.transport fault))
      | .ok answer => meaning v.label name answer⟩

/-- The reads of names one after the other, until one of them is refused. -/
def batch (v : Vault σ) (token : AccessToken) (n : Network) :
    List SecretName → Traffic (Except SecretError (List (SecretName × SecretValue)))
  | [] => ⟨[], n, .ok []⟩
  | name :: rest =>
    match v.reading token n name with
    | ⟨sent, n, .error e⟩ => ⟨sent, n, .error e⟩
    | ⟨sent, n, .ok value⟩ =>
      let others := v.batch token n rest
      ⟨sent ++ others.sent, others.network, others.result.map ((name, value) :: ·)⟩

/-! ### One read -/

lemma readWith_apply (v : Vault σ) (token : AccessToken) (name : SecretName) (s : Session σ) :
    ∃ s', v.readWith token name s = ((v.reading token s.network name).result, s') ∧
      s.Reaches (v.reading token s.network name).sent (v.reading token s.network name).network s' := by
  unfold readWith reading question?
  cases hurl : (SecretReference.mk v.url name).url with
  | error e =>
    simp only [SecretReference.url] at hurl
    split at hurl
    · cases hurl
    · cases hurl
      exact ⟨s, rfl, .refl s⟩
  | ok url =>
    simp only [Except.toOption, Option.map_some, Work.bind_apply, Work.exchange_apply]
    cases (s.network.exchange (request url token)).outcome with
    | error fault => exact ⟨_, rfl, s.reaches_exchanged _⟩
    | ok answer => exact ⟨_, rfl, (s.reaches_exchanged _).said _⟩

/-- A value that is read comes from an answer to the request for it. -/
lemma exists_answer_of_reading {v : Vault σ} {token : AccessToken} {n : Network} {name : SecretName}
    {value : SecretValue} (h : (v.reading token n name).result = .ok value) :
    ∃ r answer, question? v.url token name = some r ∧ (n.exchange r).outcome = .ok answer ∧
      meaning v.label name answer = .ok value := by
  simp only [reading] at h
  cases hq : question? v.url token name with
  | none =>
    rw [hq] at h
    cases h
  | some r =>
    simp only [hq] at h
    cases houtcome : (n.exchange r).outcome with
    | error fault =>
      rw [houtcome] at h
      cases h
    | ok answer =>
      rw [houtcome] at h
      exact ⟨r, answer, rfl, houtcome, h⟩

/-- A read that gives a value sends the request for it. -/
lemma sent_of_result_ok {v : Vault σ} {token : AccessToken} {n : Network} {name : SecretName}
    {value : SecretValue} (h : (v.reading token n name).result = .ok value) :
    (v.reading token n name).sent.map some = [(question? v.url token name).map Request.recorded] := by
  obtain ⟨r, answer, hq, houtcome, -⟩ := exists_answer_of_reading h
  simp only [reading]
  simp only [hq]
  rw [Network.exchange_sent_of_outcome houtcome]
  rfl

/-- A read sends nothing but the request for the secret. -/
lemma sent_reading (v : Vault σ) (token : AccessToken) (n : Network) (name : SecretName) :
    (v.reading token n name).sent = [] ∨
      (v.reading token n name).sent.map some = [(question? v.url token name).map Request.recorded] := by
  simp only [reading]
  cases question? v.url token name with
  | none => exact .inl rfl
  | some r =>
    dsimp only
    rw [Network.exchange_sent]
    split_ifs
    · exact .inr rfl
    · exact .inl rfl

lemma isOfVault_of_meaning {label : String} {name : SecretName} {answer : Http.Response}
    {e : SecretError} (h : meaning label name answer = .error e) : e.isOfVault = true := by
  simp only [meaning] at h
  split at h
  · split at h
    · cases h
    · cases h
      rfl
  · split at h <;> cases h <;> rfl

/-- A read fails because of the vault. -/
lemma isOfVault_of_reading {v : Vault σ} {token : AccessToken} {n : Network} {name : SecretName}
    {e : SecretError} (h : (v.reading token n name).result = .error e) : e.isOfVault = true := by
  simp only [reading] at h
  cases hq : question? v.url token name with
  | none =>
    rw [hq] at h
    cases h
    rfl
  | some r =>
    simp only [hq] at h
    cases houtcome : (n.exchange r).outcome with
    | error fault =>
      rw [houtcome] at h
      cases h
      rfl
    | ok answer =>
      rw [houtcome] at h
      exact isOfVault_of_meaning h

/-! ### One read after the other -/

lemma batch_cons_of_error {v : Vault σ} {token : AccessToken} {n : Network} {name : SecretName}
    {rest : List SecretName} {e : SecretError} (h : (v.reading token n name).result = .error e) :
    v.batch token n (name :: rest) =
      ⟨(v.reading token n name).sent, (v.reading token n name).network, .error e⟩ := by
  rw [batch]
  cases hread : v.reading token n name with
  | mk sent n' result =>
    rw [hread] at h
    cases h
    rfl

lemma batch_cons_of_ok {v : Vault σ} {token : AccessToken} {n : Network} {name : SecretName}
    {rest : List SecretName} {value : SecretValue} (h : (v.reading token n name).result = .ok value) :
    v.batch token n (name :: rest) =
      ⟨(v.reading token n name).sent ++ (v.batch token (v.reading token n name).network rest).sent,
        (v.batch token (v.reading token n name).network rest).network,
        (v.batch token (v.reading token n name).network rest).result.map ((name, value) :: ·)⟩ := by
  rw [batch]
  cases hread : v.reading token n name with
  | mk sent n' result =>
    rw [hread] at h
    cases h
    rfl

lemma exists_of_batch_cons {v : Vault σ} {token : AccessToken} {n : Network} {name : SecretName}
    {rest : List SecretName} {entries : List (SecretName × SecretValue)}
    (h : (v.batch token n (name :: rest)).result = .ok entries) :
    ∃ value others, (v.reading token n name).result = .ok value ∧
      (v.batch token (v.reading token n name).network rest).result = .ok others ∧
      entries = (name, value) :: others := by
  cases hread : (v.reading token n name).result with
  | error e =>
    rw [batch_cons_of_error hread] at h
    cases h
  | ok value =>
    rw [batch_cons_of_ok hread] at h
    dsimp only at h
    cases hrest : (v.batch token (v.reading token n name).network rest).result with
    | error e =>
      rw [hrest] at h
      cases h
    | ok others =>
      rw [hrest] at h
      cases h
      exact ⟨value, others, rfl, rfl, rfl⟩

/-- Where all reads give values, there is one for every name and every name is asked for. -/
lemma batch_of_ok {v : Vault σ} {token : AccessToken} {names : List SecretName} :
    ∀ {n : Network} {entries : List (SecretName × SecretValue)},
      (v.batch token n names).result = .ok entries →
        entries.map Prod.fst = names ∧
          (v.batch token n names).sent.map some =
            names.map fun name => (question? v.url token name).map Request.recorded := by
  induction names with
  | nil =>
    intro n entries h
    cases h
    exact ⟨rfl, rfl⟩
  | cons name rest ih =>
    intro n entries h
    obtain ⟨value, others, hread, hrest, rfl⟩ := exists_of_batch_cons h
    obtain ⟨hnames, hothers⟩ := ih hrest
    rw [batch_cons_of_ok hread, List.map_append, sent_of_result_ok hread, hothers, List.map_cons,
      hnames]
    exact ⟨rfl, rfl⟩

/-- Names are asked for in their order, and none is left out in between. -/
lemma exists_prefix_sent_batch (v : Vault σ) (token : AccessToken) (names : List SecretName) :
    ∀ n : Network, ∃ asked, asked <+: names ∧
      (v.batch token n names).sent.map some =
        asked.map fun name => (question? v.url token name).map Request.recorded := by
  induction names with
  | nil => exact fun n => ⟨[], List.nil_prefix, rfl⟩
  | cons name rest ih =>
    intro n
    cases hread : (v.reading token n name).result with
    | error e =>
      rw [batch_cons_of_error hread]
      rcases v.sent_reading token n name with hsent | hsent
      · exact ⟨[], List.nil_prefix, congrArg _ hsent⟩
      · exact ⟨[name], List.prefix_iff_eq_append.mpr rfl, hsent⟩
    | ok value =>
      rw [batch_cons_of_ok hread]
      obtain ⟨asked, hprefix, hothers⟩ := ih (v.reading token n name).network
      refine ⟨name :: asked, (List.prefix_cons_inj name).mpr hprefix, ?_⟩
      rw [List.map_append, hothers, sent_of_result_ok hread]
      rfl

lemma isOfVault_of_batch {v : Vault σ} {token : AccessToken} {names : List SecretName} :
    ∀ {n : Network} {e : SecretError}, (v.batch token n names).result = .error e →
      e.isOfVault = true := by
  induction names with
  | nil =>
    intro n e h
    cases h
  | cons name rest ih =>
    intro n e h
    cases hread : (v.reading token n name).result with
    | error e' =>
      rw [batch_cons_of_error hread] at h
      cases h
      exact isOfVault_of_reading hread
    | ok value =>
      rw [batch_cons_of_ok hread] at h
      dsimp only at h
      cases hrest : (v.batch token (v.reading token n name).network rest).result with
      | error e' =>
        rw [hrest] at h
        cases h
        exact ih hrest
      | ok others =>
        rw [hrest] at h
        cases h

/-! ### The network -/

lemma isScripted_reading (v : Vault σ) (token : AccessToken) (n : Network) (name : SecretName) :
    (v.reading token n name).network.isScripted = n.isScripted := by
  simp only [reading]
  cases question? v.url token name with
  | none => rfl
  | some r => exact n.isScripted_exchange r

lemma isScripted_batch (v : Vault σ) (token : AccessToken) (names : List SecretName) :
    ∀ n : Network, (v.batch token n names).network.isScripted = n.isScripted := by
  induction names with
  | nil => exact fun _ => rfl
  | cons name rest ih =>
    intro n
    cases hread : (v.reading token n name).result with
    | error e =>
      rw [batch_cons_of_error hread]
      exact v.isScripted_reading token n name
    | ok value =>
      rw [batch_cons_of_ok hread]
      exact (ih _).trans (v.isScripted_reading token n name)

end Vault

end Reindex
