import Mathlib.Data.List.Nodup
import Reindex.Proofs.Credential.Chain
import Reindex.Proofs.Secret.Batch

/-!
# How a batch uses its store and its credential

A store that is watched while a batch is resolved shows that it is asked for every name once, in the
order in which the names occur first, and for no further name after one is refused. A vault whose
credential is watched shows that the credential is asked once, before anything is asked of the vault.
-/

namespace Reindex

variable {σ τ : Type}

lemma nodup_eraseDups {α : Type} [DecidableEq α] (xs : List α) : xs.eraseDups.Nodup := by
  induction hn : xs.length using Nat.strongRecOn generalizing xs with
  | _ n ih =>
    cases xs with
    | nil => exact List.nodup_nil
    | cons x rest =>
      rw [List.eraseDups_cons, List.nodup_cons]
      constructor
      · intro hmem
        have hx := (List.mem_filter.mp (List.mem_eraseDups.mp hmem)).2
        simp at hx
      · refine ih _ ?_ _ rfl
        rw [← hn]
        exact Nat.lt_succ_of_le (List.length_filter_le _ rest)

/-- Where no name occurs twice, the value under a name is the one that stands beside it. -/
lemma ResolvedSecrets.get?_eq_some_iff (found : ResolvedSecrets)
    (h : (found.entries.map Prod.fst).Nodup) (name : SecretName) (value : SecretValue) :
    found.get? name.text = some value ↔ (name, value) ∈ found.entries := by
  constructor
  · exact mem_of_get?
  · intro hmem
    obtain ⟨other, hother⟩ := Option.isSome_iff_exists.mp ((found.contains_iff name).mpr ⟨value, hmem⟩)
    rw [hother]
    have heq := List.inj_on_of_nodup_map h (mem_of_get? hother) hmem rfl
    cases heq
    rfl

/-! ### Stores that are watched -/

/-- One time that a store was asked for a secret. -/
structure SecretRead where
  name : SecretName
  answer : Except SecretError SecretValue

/-- A read that gave a value. -/
def SecretRead.given (entry : SecretName × SecretValue) : SecretRead := ⟨entry.1, .ok entry.2⟩

lemma SecretRead.given_injective : Function.Injective given := by
  rintro ⟨name, value⟩ ⟨name', value'⟩ h
  cases h
  rfl

namespace SecretStore

def watched (store : SecretStore σ τ) : SecretStore (List SecretRead × σ) τ where
  name := store.name
  endpoint := store.endpoint
  read name := fun cell => (store.read name cell).watched fun _ result _ => ⟨name, result.1⟩

lemma watched_read_apply (store : SecretStore σ τ) (name : SecretName) (cell : τ) (s : Session σ)
    (reads : List SecretRead) :
    store.watched.read name cell (s.noted reads) =
      ((store.read name cell s).1,
        (store.read name cell s).2.noted (reads ++ [⟨name, (store.read name cell s).1.1⟩])) := rfl

/-- A store was asked for secrets with these names in turn, behind the secrets in `found`: the reads that
were made, and the result. -/
inductive ReadsInTurn (found : ResolvedSecrets) (names : List SecretName) :
    List SecretRead → Except SecretError ResolvedSecrets → Prop
  /-- All names were read, and their values are added. -/
  | all {entries : List (SecretName × SecretValue)} (h : entries.map Prod.fst = names) :
      ReadsInTurn found names (entries.map .given) (.ok ⟨found.entries ++ entries⟩)
  /-- One of the names was refused, and none behind it was read. -/
  | upTo {entries : List (SecretName × SecretValue)} {name : SecretName} {unread : List SecretName}
      (h : names = entries.map Prod.fst ++ name :: unread) (e : SecretError) :
      ReadsInTurn found names (entries.map .given ++ [⟨name, .error e⟩]) (.error e)

namespace ReadsInTurn

variable {found : ResolvedSecrets} {names : List SecretName} {reads : List SecretRead}
  {result : Except SecretError ResolvedSecrets}

lemma refused (name : SecretName) (names : List SecretName) (e : SecretError) :
    ReadsInTurn found (name :: names) [⟨name, .error e⟩] (.error e) := by
  have hfirst : name :: names = ([] : List (SecretName × SecretValue)).map Prod.fst ++ name :: names :=
    rfl
  exact .upTo hfirst e

/-- A name that was read, and then the others in turn. -/
lemma given {name : SecretName} {value : SecretValue}
    (h : ReadsInTurn ⟨found.entries ++ [(name, value)]⟩ names reads result) :
    ReadsInTurn found (name :: names) (.given (name, value) :: reads) result := by
  cases h with
  | all h =>
    rename_i entries
    rw [List.append_assoc, List.singleton_append, ← List.map_cons]
    apply ReadsInTurn.all
    rw [List.map_cons, h]
  | upTo h e =>
    rename_i entries name' unread
    have hnames : name :: names = ((name, value) :: entries).map Prod.fst ++ name' :: unread := by
      rw [h, List.map_cons, List.cons_append]
    exact .upTo hnames e

end ReadsInTurn

lemma watched_audit_apply (store : SecretStore σ τ) (name : SecretName) (error : Option SecretError)
    (s : Session σ) (reads : List SecretRead) :
    (store.watched.audit name error : Work _ Unit) (s.noted reads) =
      ((), (store.audit name error s).2.noted reads) := rfl

/-- A store that is watched is asked by `readAll` for the names that are not among the secrets yet. -/
lemma readAll_watched (store : SecretStore σ τ) (names : List SecretName) :
    ∀ (found : ResolvedSecrets) (cell : τ) (s : Session σ) (notes : List SecretRead), ∃ reads,
      store.watched.readAll found names cell (s.noted notes) =
        ((store.readAll found names cell s).1,
          (store.readAll found names cell s).2.noted (notes ++ reads)) ∧
      ReadsInTurn found (found.unread names) reads (store.readAll found names cell s).1.1 := by
  induction names with
  | nil =>
    intro found cell s notes
    refine ⟨[], ?_, ?_⟩
    · rw [List.append_nil]
      rfl
    · have hnone : ([] : List (SecretName × SecretValue)).map Prod.fst = [] := rfl
      have hreads := @ReadsInTurn.all found _ _ hnone
      rw [List.append_nil] at hreads
      exact hreads
  | cons name rest ih =>
    intro found cell s notes
    simp only [readAll]
    by_cases hfound : found.contains name.text = true
    · rw [found.unread_cons_of_contains rest hfound, if_pos hfound, if_pos hfound]
      exact ih found cell (s.record (.logged _)) notes
    · rw [if_neg hfound, if_neg hfound]
      have hfound : found.contains name.text = false := Bool.eq_false_iff.mpr hfound
      simp only [Work.cell_bind_apply, watched_read_apply]
      cases hanswer : (store.read name cell s).1.1 with
      | error e =>
        -- What the value would have been does not matter for the names that are left.
        rw [found.unread_cons_of_not_contains (.ofText "") rest hfound]
        exact ⟨[⟨name, .error e⟩], rfl, .refused name _ e⟩
      | ok value =>
        rw [found.unread_cons_of_not_contains value rest hfound]
        simp only [Work.cell_bind_apply, Work.lift_apply, watched_audit_apply]
        rw [found.insert_of_not_contains value hfound]
        obtain ⟨reads, hrest, hreads⟩ := ih ⟨found.entries ++ [(name, value)]⟩
          (store.read name cell s).1.2 (store.audit name none (store.read name cell s).2).2
          (notes ++ [.given (name, value)])
        refine ⟨.given (name, value) :: reads, ?_, hreads.given⟩
        rw [List.append_assoc, List.singleton_append] at hrest
        exact hrest

lemma resolve_watched (store : SecretStore σ τ) (names : List SecretName) (cell : τ)
    (s : Session σ) : ∃ reads,
      store.watched.resolve names cell (s.noted []) =
        ((store.resolve names cell s).1, (store.resolve names cell s).2.noted reads) ∧
      ReadsInTurn {} names.eraseDups reads (store.resolve names cell s).1.1 := by
  obtain ⟨reads, hwatched, hreads⟩ := store.readAll_watched names {} cell s []
  rw [ResolvedSecrets.unread_empty] at hreads
  refine ⟨reads, ?_⟩
  simp only [resolve, Work.cell_bind_apply, hwatched]
  cases hresult : (store.readAll {} names cell s).1.1 with
  | error e =>
    rw [hresult] at hreads
    exact ⟨rfl, hreads⟩
  | ok found =>
    rw [hresult] at hreads
    exact ⟨rfl, hreads⟩

/-- The reads of a batch, and what they come to: the different names are read in turn, so none is read
twice, and the secrets in the result are those that were read. -/
structure ResolvesInTurn (names : List SecretName) (reads : List SecretRead)
    (result : Except SecretError ResolvedSecrets) : Prop where
  inTurn : ReadsInTurn {} names.eraseDups reads result
  once : (reads.map (·.name)).Nodup
  /-- Where there is a result, it has the names that were asked for and no other. -/
  names : ∀ found, result = .ok found → found.entries.map Prod.fst = names.eraseDups
  /-- Where there is a result, the value under a name is the one that was read. -/
  values : ∀ found, result = .ok found → ∀ (name : SecretName) (value : SecretValue),
    found.get? name.text = some value ↔ SecretRead.mk name (.ok value) ∈ reads

lemma ReadsInTurn.resolvesInTurn {names : List SecretName} {reads : List SecretRead}
    {result : Except SecretError ResolvedSecrets} (h : ReadsInTurn {} names.eraseDups reads result) :
    ResolvesInTurn names reads result := by
  have hnames : ∀ entries : List (SecretName × SecretValue),
      (entries.map SecretRead.given).map (·.name) = entries.map Prod.fst := by
    intro entries
    rw [List.map_map]
    rfl
  have honce := nodup_eraseDups names
  cases h with
  | all hall =>
    rename_i entries
    have hdistinct : ((entries.map SecretRead.given).map (·.name)).Nodup := by
      rw [hnames, hall]
      exact honce
    refine ⟨.all hall, hdistinct, ?_, ?_⟩
    · rintro found ⟨⟩
      exact hall
    · rintro found ⟨⟩ name value
      rw [hnames] at hdistinct
      have hget := (ResolvedSecrets.mk entries).get?_eq_some_iff hdistinct name value
      exact hget.trans (List.mem_map_of_injective SecretRead.given_injective).symm
  | upTo hunread e =>
    rename_i entries name unread
    refine ⟨.upTo hunread e, ?_, ?_, ?_⟩
    · rw [hunread, List.append_cons] at honce
      rw [List.map_append, hnames]
      exact honce.of_append_left
    · rintro found ⟨⟩
    · rintro found ⟨⟩

end SecretStore

/-! ### Vaults whose credential is watched -/

section Bearer

open Http (Request Network)

/-- The message that goes out for a request has all of the request's header fields. -/
lemma Http.Request.mem_headers_message {r : Request} {header : String × String}
    (h : header ∈ r.headers) : header ∈ r.message.headers := by
  have huserinfo : header ∈ r.withoutUserinfo.headers := by
    rw [withoutUserinfo_headers]
    exact List.mem_append_right _ h
  simp only [message, List.mem_mergeSort, acceptAny]
  split
  · exact huserinfo
  · exact List.mem_cons_of_mem _ huserinfo

/-- A message that goes to a vault, or asks for a way to it, with a token to show. -/
structure Http.Message.Shows (token : AccessToken) (m : Message) : Prop where
  question : ∃ url, m = (Vault.request url token).recorded
  bearer : m.method ≠ .connect → ("authorization", token.bearer) ∈ m.headers

lemma Http.Message.shows_recorded (url : Url) (token : AccessToken) :
    Shows token (Vault.request url token).recorded where
  question := ⟨url, rfl⟩
  bearer := by
    unfold Request.recorded
    split
    · intro _
      exact Request.mem_headers_message List.mem_cons_self
    · intro h
      exact absurd rfl h

end Bearer

namespace Session

@[simp] lemma noted_network {ρ : Type} (s : Session σ) (notes : List ρ) :
    (s.noted notes).network = s.network := rfl

lemma noted_exchanged {ρ : Type} (s : Session σ) (notes : List ρ) (r : Http.Request) :
    (s.noted notes).exchanged r = (s.exchanged r).noted notes := by
  dsimp only [exchanged, Work.exchange, noted_network]
  cases (s.network.exchange r).sent with
  | none => rfl
  | some m => rfl

end Session

namespace Vault

/-- The vault with its credential being watched. -/
def watched (v : Vault σ) : Vault (List Asking × σ) := ⟨v.url, v.credential.watched 0⟩

lemma watched_readWith_apply (v : Vault σ) (token : AccessToken) (name : SecretName) (s : Session σ)
    (asked : List Asking) :
    v.watched.readWith token name (s.noted asked) =
      ((v.readWith token name s).1, (v.readWith token name s).2.noted asked) := by
  unfold readWith
  rw [watched]
  cases (SecretReference.mk v.url name).url with
  | error e => rfl
  | ok url =>
    simp only [Work.bind_apply, Work.exchange_apply, Session.noted_network, Session.noted_exchanged]
    cases (s.network.exchange (request url token)).outcome with
    | error fault => rfl
    | ok answer => rfl

/-- With a token at hand, `readAll` asks nothing of the credential. -/
lemma watched_readAll_apply (v : Vault σ) (token : AccessToken) (names : List SecretName) :
    ∀ (found : ResolvedSecrets) (s : Session σ) (asked : List Asking),
      v.watched.store.readAll found names (some token) (s.noted asked) =
        ((v.store.readAll found names (some token) s).1,
          (v.store.readAll found names (some token) s).2.noted asked) := by
  induction names with
  | nil => exact fun _ _ _ => rfl
  | cons name rest ih =>
    intro found s asked
    simp only [SecretStore.readAll]
    by_cases hfound : found.contains name.text = true
    · rw [if_pos hfound, if_pos hfound]
      exact ih found (s.record (.logged _)) asked
    · rw [if_neg hfound, if_neg hfound]
      simp only [Work.cell_bind_apply, store_read, read_some, watched_readWith_apply]
      cases (v.readWith token name s).1 with
      | error e => rfl
      | ok value => exact ih (found.insert name value) (v.store.audit name none _).2 asked

/-- All messages of a batch show the token of the batch. -/
lemma shows_of_mem_batch {v : Vault σ} {token : AccessToken} {n : Http.Network}
    {names : List SecretName} {m : Http.Message} (h : m ∈ (v.batch token n names).sent) :
    m.Shows token := by
  obtain ⟨read, -, hsent⟩ := v.exists_prefix_sent_batch token names n
  have hm := List.mem_map_of_mem (f := some) h
  rw [hsent] at hm
  obtain ⟨name, -, hname⟩ := List.mem_map.mp hm
  obtain ⟨r, hr, rfl⟩ := Option.map_eq_some_iff.mp hname
  obtain ⟨url, -, rfl⟩ := Option.map_eq_some_iff.mp hr
  exact Http.Message.shows_recorded url token

/-- The credential was asked for the token of a batch, and only then was anything asked of the vault;
`before` and `after` are the messages that had gone out before and after the batch. -/
structure AsksFirst (before after : List Http.Message) (a : Asking) : Prop where
  scopes : a.scopes = [scope]
  first : a.before = before
  /-- Without a token nothing is asked of the vault, and otherwise that same token is always shown. -/
  rest : ∃ sent, after = a.after ++ sent ∧ ∀ m ∈ sent, ∃ token, a.answer = .ok token ∧ m.Shows token

/-- The session in which the credential is asked for the token of a batch. -/
def requesting (v : Vault σ) (s : Session σ) : Session σ :=
  s.record (.logged ⟨.debug, "Requesting secret store token",
    [("credential", .text v.credential.name), ("vault", .shown v.label)]⟩)

/-- The work of `readAll` on at least one name asks the credential for a token, and goes on by the answer. -/
lemma readAll_none_apply (v : Vault σ) (name : SecretName) (rest : List SecretName) (s : Session σ) :
    v.store.readAll {} (name :: rest) none s =
      match v.credential.token [scope] (v.requesting s) with
      | (.ok token, s') => v.store.readAll {} (name :: rest) (some token) s'
      | (.error e, s') =>
        ((.error (.credential e), none), (v.store.audit name (some (.credential e)) s').2) := by
  rw [readAll_none_cons]
  simp only [Work.bind_apply, Work.log_apply]
  unfold requesting
  generalize v.credential.token [scope] _ = answer
  obtain ⟨answer, s'⟩ := answer
  cases answer with
  | error e => rfl
  | ok token => rfl

/-- The work of `readAll` asks its credential once, before anything is asked of the vault. -/
lemma readAll_watched (v : Vault σ) (name : SecretName) (rest : List SecretName) (s : Session σ) :
    v.watched.store.readAll {} (name :: rest) none (s.noted []) =
        ((v.store.readAll {} (name :: rest) none s).1,
          (v.store.readAll {} (name :: rest) none s).2.noted
            [v.credential.asking 0 [scope] (v.requesting s)]) ∧
      AsksFirst s.messages (v.store.readAll {} (name :: rest) none s).2.messages
        (v.credential.asking 0 [scope] (v.requesting s)) := by
  have hfirst : (v.requesting s).messages = s.messages := s.messages_record_logged _
  have hwatched : v.watched.credential.token [scope] (v.watched.requesting (s.noted [])) =
      ((v.credential.token [scope] (v.requesting s)).1,
        (v.credential.token [scope] (v.requesting s)).2.noted
          [v.credential.asking 0 [scope] (v.requesting s)]) := rfl
  rw [readAll_none_apply, readAll_none_apply, hwatched]
  cases hanswer : v.credential.token [scope] (v.requesting s) with
  | mk answer s' =>
    have hasking : v.credential.asking 0 [scope] (v.requesting s) =
        ⟨0, [scope], s.messages, answer, s'.messages⟩ := by
      rw [Credential.asking, hanswer, hfirst]
    rw [hasking]
    cases answer with
    | error e =>
      refine ⟨rfl, rfl, rfl, [], ?_, ?_⟩
      · obtain ⟨event, haudit⟩ := v.store.audit_apply name (some (.credential e)) s'
        dsimp only
        rw [haudit, List.append_nil]
        exact s'.messages_record_logged event
      · intro m hm
        cases hm
    | ok token =>
      refine ⟨v.watched_readAll_apply token (name :: rest) {} s' _, rfl, rfl, ?_⟩
      obtain ⟨s'', hread, hreaches⟩ := v.readAll_apply token (name :: rest) {} s'
      dsimp only
      rw [hread]
      refine ⟨_, hreaches.messages, ?_⟩
      intro m hm
      exact ⟨token, rfl, shows_of_mem_batch hm⟩

lemma resolve_watched (v : Vault σ) (names : List SecretName) (s : Session σ) : ∃ asked,
    v.watched.resolve names (s.noted []) =
      ((v.resolve names s).1, (v.resolve names s).2.noted asked) ∧
    (names = [] → asked = [] ∧ (v.resolve names s).2.messages = s.messages) ∧
    (names ≠ [] → ∃ a, asked = [a] ∧ AsksFirst s.messages (v.resolve names s).2.messages a) := by
  cases names with
  | nil =>
    refine ⟨[], rfl, ?_, ?_⟩
    · intro _
      exact ⟨rfl, s.messages_record_logged _⟩
    · intro h
      exact absurd rfl h
  | cons name rest =>
    obtain ⟨hwatched, hasks⟩ := v.readAll_watched name rest s
    refine ⟨[v.credential.asking 0 [scope] (v.requesting s)], ?_⟩
    rw [resolve_eq, resolve_eq]
    simp only [Work.bind_apply, hwatched]
    cases hresult : (v.store.readAll {} (name :: rest) none s).1.1 with
    | error e =>
      refine ⟨rfl, ?_, ?_⟩
      · intro h
        cases h
      · intro _
        exact ⟨_, rfl, hasks⟩
    | ok found =>
      refine ⟨rfl, ?_, ?_⟩
      · intro h
        cases h
      · intro _
        refine ⟨_, rfl, ?_⟩
        simp only [Work.bind_apply, Work.log_apply, Work.pure_apply, Session.messages_record_logged]
        exact hasks

/-- Batches, whatever their store or their credential does. A store is asked for the different names of
a batch in turn, up to the first that is refused. For a batch from a vault, the credential is asked
once, for the vault and before it, or not at all if there are no names; all that goes to the vault shows
the token that it gave. -/
theorem resolve_inTurn :
    (∀ (τ : Type) (store : SecretStore σ τ) (names : List SecretName) (cell : τ) (s : Session σ),
      ∃ reads, store.watched.resolve names cell (s.noted []) =
          ((store.resolve names cell s).1, (store.resolve names cell s).2.noted reads) ∧
        SecretStore.ResolvesInTurn names reads (store.resolve names cell s).1.1) ∧
    ∀ (v : Vault σ) (names : List SecretName) (s : Session σ), ∃ asked,
      v.watched.resolve names (s.noted []) =
        ((v.resolve names s).1, (v.resolve names s).2.noted asked) ∧
      (names = [] → asked = [] ∧ (v.resolve names s).2.messages = s.messages) ∧
      (names ≠ [] → ∃ a, asked = [a] ∧ AsksFirst s.messages (v.resolve names s).2.messages a) := by
  constructor
  · intro τ store names cell s
    obtain ⟨reads, hwatched, hreads⟩ := store.resolve_watched names cell s
    exact ⟨reads, hwatched, hreads.resolvesInTurn⟩
  · intro v names s
    exact v.resolve_watched names s

end Vault

end Reindex
