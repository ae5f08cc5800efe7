import Reindex.Proofs.Secret.Reading
import Reindex.Proofs.Session.Relation

/-!
# Batches of names

A batch is read from a vault with a token that the credential gives when the first name is read. Names
that are repeated are passed over, so the batch comes to what its different names come to.
-/

namespace Reindex

/-! ### Names that are repeated -/

lemma SecretName.ext_text {name other : SecretName} (h : name.text = other.text) : name = other := by
  cases name
  cases other
  cases h
  rfl

/-- To leave something out of a list does not change which of its items are repeated. -/
lemma eraseDups_filter {α : Type} [DecidableEq α] (p : α → Bool) (xs : List α) :
    (xs.filter p).eraseDups = xs.eraseDups.filter p := by
  induction hn : xs.length using Nat.strongRecOn generalizing xs with
  | _ n ih =>
    cases xs with
    | nil => rfl
    | cons x rest =>
      have ih := ih _ (by rw [← hn]; exact Nat.lt_succ_of_le (List.length_filter_le _ rest))
        (rest.filter fun y => !y == x) rfl
      rw [List.eraseDups_cons, List.filter_cons, List.filter_cons, ← ih, List.filter_filter]
      cases hx : p x with
      | true =>
        rw [if_pos rfl, if_pos rfl, List.eraseDups_cons, List.filter_filter]
        simp only [Bool.and_comm]
      | false =>
        rw [if_neg Bool.false_ne_true, if_neg Bool.false_ne_true]
        congr 1
        refine List.filter_congr fun y hy => ?_
        by_cases hyx : y = x
        · rw [hyx, hx, Bool.false_and]
        · simp [hyx]

namespace ResolvedSecrets

/-- The names of a batch that have yet to be read, each of them once. -/
def unread (found : ResolvedSecrets) (names : List SecretName) : List SecretName :=
  names.eraseDups.filter fun name => !found.contains name.text

lemma contains_iff (found : ResolvedSecrets) (name : SecretName) :
    found.contains name.text = true ↔ ∃ value, (name, value) ∈ found.entries := by
  rw [contains, get?, Option.isSome_map, List.find?_isSome]
  constructor
  · rintro ⟨⟨other, value⟩, hmem, htext⟩
    obtain rfl : other = name := SecretName.ext_text (of_decide_eq_true htext)
    exact ⟨value, hmem⟩
  · rintro ⟨value, hmem⟩
    exact ⟨_, hmem, decide_eq_true rfl⟩

lemma mem_of_get? {found : ResolvedSecrets} {name : SecretName} {value : SecretValue}
    (h : found.get? name.text = some value) : (name, value) ∈ found.entries := by
  obtain ⟨⟨other, value'⟩, hfind, rfl⟩ := Option.map_eq_some_iff.mp h
  have htext := List.find?_some hfind
  obtain rfl : other = name := SecretName.ext_text (of_decide_eq_true htext)
  exact List.mem_of_find?_eq_some hfind

lemma insert_of_not_contains {found : ResolvedSecrets} {name : SecretName} (value : SecretValue)
    (h : found.contains name.text = false) :
    found.insert name value = ⟨found.entries ++ [(name, value)]⟩ := by
  rw [insert, List.filter_eq_self.mpr]
  rintro ⟨other, v⟩ hmem
  refine decide_eq_true fun htext => ?_
  obtain rfl : other = name := SecretName.ext_text htext
  rw [(found.contains_iff other).mpr ⟨v, hmem⟩] at h
  cases h

/-- Where nothing has been read, the names that have yet to be read are all names without the repetitions. -/
lemma unread_empty (names : List SecretName) :
    ({} : ResolvedSecrets).unread names = names.eraseDups :=
  List.filter_eq_self.mpr fun _ _ => rfl

lemma unread_cons_of_contains {found : ResolvedSecrets} {name : SecretName} (rest : List SecretName)
    (h : found.contains name.text = true) : found.unread (name :: rest) = found.unread rest := by
  rw [unread, List.eraseDups_cons, List.filter_cons, h, Bool.not_true, if_neg Bool.false_ne_true,
    eraseDups_filter, List.filter_filter]
  refine List.filter_congr fun other _ => ?_
  by_cases heq : other = name
  · rw [heq, h, Bool.not_true, Bool.false_and]
  · simp [heq]

lemma unread_cons_of_not_contains {found : ResolvedSecrets} {name : SecretName}
    (value : SecretValue) (rest : List SecretName) (h : found.contains name.text = false) :
    found.unread (name :: rest) =
      name :: (ResolvedSecrets.mk (found.entries ++ [(name, value)])).unread rest := by
  rw [unread, List.eraseDups_cons, List.filter_cons, h, Bool.not_false, if_pos rfl,
    eraseDups_filter, List.filter_filter]
  congr 1
  refine List.filter_congr fun other _ => ?_
  have hcontains : (ResolvedSecrets.mk (found.entries ++ [(name, value)])).contains other.text =
      (found.contains other.text || other == name) := by
    rw [Bool.eq_iff_iff, Bool.or_eq_true, contains_iff, contains_iff, beq_iff_eq]
    constructor
    · rintro ⟨v, hmem⟩
      rcases List.mem_append.mp hmem with hmem | hmem
      · exact .inl ⟨v, hmem⟩
      · cases List.mem_singleton.mp hmem
        exact .inr rfl
    · rintro (⟨v, hmem⟩ | rfl)
      · exact ⟨v, List.mem_append_left _ hmem⟩
      · exact ⟨value, List.mem_append_right _ List.mem_cons_self⟩
  rw [hcontains, Bool.not_or]

end ResolvedSecrets

lemma SecretStore.audit_apply {σ τ : Type} (store : SecretStore σ τ) (name : SecretName)
    (error : Option SecretError) (s : Session σ) :
    ∃ e, (store.audit name error : Work σ Unit) s = ((), s.record (.logged e)) := ⟨_, rfl⟩

namespace Vault

variable {σ : Type}

lemma storeToken_some (v : Vault σ) (token : AccessToken) (s : Session σ) :
    v.storeToken (some token) s = ((.ok token, some token), s) := rfl

lemma read_some (v : Vault σ) (token : AccessToken) (name : SecretName) (s : Session σ) :
    v.read name (some token) s =
      (((v.readWith token name s).1, some token), (v.readWith token name s).2) := rfl

lemma store_read (v : Vault σ) : v.store.read = v.read := rfl

/-! ### A batch as plain work -/

/-- With a token at hand, `readAll` passes over the first name, or reads it and puts that on record. -/
lemma readAll_some_cons (v : Vault σ) (token : AccessToken) (found : ResolvedSecrets)
    (name : SecretName) (rest : List SecretName) :
    v.store.readAll found (name :: rest) (some token) =
      if found.contains name.text then
        Work.log ⟨.debug, "Secret already resolved in this batch",
          [("secret_name", .shown name.text)]⟩ >>= fun _ => v.store.readAll found rest (some token)
      else v.readWith token name >>= fun
        | .ok value => v.store.audit name none >>= fun _ =>
          v.store.readAll (found.insert name value) rest (some token)
        | .error e => v.store.audit name (some e) >>= fun _ => pure (.error e, some token) := by
  funext s
  rw [SecretStore.readAll]
  split
  · rfl
  · simp only [Work.cell_bind_apply, store_read, read_some, Work.bind_apply]
    cases (v.readWith token name s).1 with
    | error e => rfl
    | ok value => rfl

/-- Without a token at hand, `readAll` asks for one. -/
lemma readAll_none_cons (v : Vault σ) (name : SecretName) (rest : List SecretName) :
    v.store.readAll {} (name :: rest) none =
      Work.log ⟨.debug, "Requesting secret store token",
          [("credential", .text v.credential.name), ("vault", .shown v.label)]⟩ >>= fun _ =>
        v.credential.token [scope] >>= fun
          | .ok token => v.store.readAll {} (name :: rest) (some token)
          | .error e => v.store.audit name (some (.credential e)) >>= fun _ =>
            pure (.error (.credential e), none) := by
  funext s
  have hcontains : ¬ ({} : ResolvedSecrets).contains name.text = true := Bool.false_ne_true
  simp only [SecretStore.readAll, if_neg hcontains, Work.cell_bind_apply, store_read, read, storeToken,
    Work.get_apply, Work.say_apply, Work.lift_apply, Work.bind_apply, Work.log_apply]
  generalize v.credential.token [scope] _ = answer
  obtain ⟨answer, s'⟩ := answer
  cases answer with
  | error e => rfl
  | ok token => rfl

lemma resolve_eq (v : Vault σ) (names : List SecretName) :
    v.resolve names = v.store.readAll {} names none >>= fun result =>
      match result.1 with
      | .error e => pure (.error e)
      | .ok found => Work.log ⟨.info, "Resolved secrets", [("store", .text v.store.name),
          ("endpoint", .text v.store.endpoint), ("count", .number found.size)]⟩ >>= fun _ =>
        pure (.ok found) := by
  funext s
  simp only [resolve, SecretStore.resolve]
  simp only [Work.bind_apply, StateT.run, Work.cell_bind_apply]
  generalize v.store.readAll {} names none s = read
  obtain ⟨⟨result, cell⟩, s'⟩ := read
  cases result with
  | error e => rfl
  | ok found => rfl

/-! ### What a batch comes to -/

/-- With the token at hand, `readAll` comes to what the batch of the unread names comes to, and sends what
that batch sends. -/
lemma readAll_apply (v : Vault σ) (token : AccessToken) (names : List SecretName) :
    ∀ (found : ResolvedSecrets) (s : Session σ), ∃ s',
      v.store.readAll found names (some token) s =
        (((v.batch token s.network (found.unread names)).result.map fun entries =>
          ⟨found.entries ++ entries⟩, some token), s') ∧
      s.Reaches (v.batch token s.network (found.unread names)).sent
        (v.batch token s.network (found.unread names)).network s' := by
  induction names with
  | nil =>
    intro found s
    refine ⟨s, ?_, .refl s⟩
    show ((Except.ok found, some token), s) = ((.ok ⟨found.entries ++ []⟩, some token), s)
    rw [List.append_nil]
  | cons name rest ih =>
    intro found s
    simp only [SecretStore.readAll]
    cases hfound : found.contains name.text with
    | true =>
      rw [found.unread_cons_of_contains rest hfound, if_pos rfl]
      obtain ⟨s', hs', hreaches⟩ := ih found (s.record (.logged _))
      exact ⟨s', hs', hreaches.of_said⟩
    | false =>
      obtain ⟨s₁, hread, hreaches⟩ := v.readWith_apply token name s
      rw [if_neg Bool.false_ne_true]
      simp only [Work.cell_bind_apply, store_read, read_some, hread]
      cases hresult : (v.reading token s.network name).result with
      | error e =>
        -- What the value would have been does not matter for the names that are left.
        rw [found.unread_cons_of_not_contains (.ofText "") rest hfound, batch_cons_of_error hresult]
        obtain ⟨event, haudit⟩ := v.store.audit_apply name (some e) s₁
        refine ⟨s₁.record (.logged event), ?_, hreaches.said event⟩
        simp only [Work.cell_bind_apply, Work.lift_apply, haudit]
        rfl
      | ok value =>
        rw [found.unread_cons_of_not_contains value rest hfound, batch_cons_of_ok hresult]
        obtain ⟨event, haudit⟩ := v.store.audit_apply name none s₁
        obtain ⟨s', hs', hreaches'⟩ := ih ⟨found.entries ++ [(name, value)]⟩
          (s₁.record (.logged event))
        rw [Session.record_network, hreaches.network] at hs' hreaches'
        refine ⟨s', ?_, hreaches.trans hreaches'.of_said⟩
        simp only [Work.cell_bind_apply, Work.lift_apply, haudit]
        rw [found.insert_of_not_contains value hfound, hs']
        cases (v.batch token (v.reading token s.network name).network _).result with
        | error e => rfl
        | ok others =>
          dsimp only [Except.map]
          rw [List.append_assoc]
          rfl

/-! ### The token for the vault -/

/-- What the credential answers when it is asked for a token for the vault. -/
def storeAnswer (v : Vault σ) (s : Session σ) : Except CredentialError AccessToken :=
  (v.credential.token [scope] s.fresh).1

/-- The session after the credential was asked, without what was there before. -/
def storeAsked (v : Vault σ) (s : Session σ) : Session σ :=
  (v.credential.token [scope] s.fresh).2

/-- Without a token at hand, `storeToken` asks the credential for one. -/
lemma storeToken_none (v : Vault σ) (hv : Work.IgnoresPast (v.credential.token [scope]))
    (s : Session σ) : ∃ past, v.storeToken none s =
      (match v.storeAnswer s with
        | .error e => (.error (.credential e), none)
        | .ok token => (.ok token, some token), (v.storeAsked s).behind past) ∧
      Session.messagesIn past = s.messages := by
  have hask : ∃ event, v.storeToken none s =
      (match (v.credential.token [scope] (s.record (.logged event))).1 with
        | .error e => (.error (.credential e), none)
        | .ok token => (.ok token, some token),
      (v.credential.token [scope] (s.record (.logged event))).2) := by
    refine ⟨⟨.debug, "Requesting secret store token",
      [("credential", .text v.credential.name), ("vault", .shown v.label)]⟩, ?_⟩
    simp only [storeToken]
    simp only [Work.cell_bind_apply, Work.get_apply, Work.say_apply, Work.lift_apply]
    cases (v.credential.token [scope] _).1 <;> rfl
  obtain ⟨event, hask⟩ := hask
  refine ⟨(s.record (.logged event)).history, ?_, s.messages_record_logged event⟩
  rw [hask, hv.apply_eq (s.record (.logged event))]
  rfl

/-- With the token that the credential gives, `readAll` goes on to read the names. -/
lemma readAll_none_of_ok {v : Vault σ} (hv : Work.IgnoresPast (v.credential.token [scope]))
    {s : Session σ} {token : AccessToken} (h : v.storeAnswer s = .ok token) (name : SecretName)
    (rest : List SecretName) : ∃ past,
      v.store.readAll {} (name :: rest) none s =
        v.store.readAll {} (name :: rest) (some token) ((v.storeAsked s).behind past) ∧
      Session.messagesIn past = s.messages := by
  obtain ⟨past, htoken, hpast⟩ := v.storeToken_none hv s
  refine ⟨past, ?_, hpast⟩
  rw [h] at htoken
  have hread : v.read name none s = v.read name (some token) ((v.storeAsked s).behind past) := by
    simp only [read]
    simp only [Work.cell_bind_apply, htoken, storeToken_some]
  simp only [SecretStore.readAll]
  rw [if_neg (show ¬ ({} : ResolvedSecrets).contains name.text = true from Bool.false_ne_true)]
  simp only [Work.cell_bind_apply, store_read, hread]

/-- Nothing is read by `readAll` if the credential gives no token. -/
lemma readAll_none_of_error {v : Vault σ} (hv : Work.IgnoresPast (v.credential.token [scope]))
    {s : Session σ} {e : CredentialError} (h : v.storeAnswer s = .error e) (name : SecretName)
    (rest : List SecretName) : ∃ s',
      v.store.readAll {} (name :: rest) none s = ((.error (.credential e), none), s') ∧
      s'.messages = s.messages ++ (v.storeAsked s).messages := by
  obtain ⟨past, htoken, hpast⟩ := v.storeToken_none hv s
  rw [h] at htoken
  have hread : v.read name none s =
      ((.error (.credential e), none), (v.storeAsked s).behind past) := by
    simp only [read]
    simp only [Work.cell_bind_apply, htoken]
    rfl
  obtain ⟨event, haudit⟩ := v.store.audit_apply name (some (.credential e))
    ((v.storeAsked s).behind past)
  refine ⟨((v.storeAsked s).behind past).record (.logged event), ?_, ?_⟩
  · simp only [SecretStore.readAll]
    rw [if_neg (show ¬ ({} : ResolvedSecrets).contains name.text = true from Bool.false_ne_true)]
    simp only [Work.cell_bind_apply, store_read, hread, Work.lift_apply, haudit]
    rfl
  · rw [Session.messages_record_logged, Session.messages_behind, hpast]

/-! ### The whole batch -/

/-- The work of `resolve` adds nothing to that of `readAll` but what it says about the batch in the end. -/
lemma resolve_of_readAll {v : Vault σ} {names : List SecretName} {s s' : Session σ}
    {result : Except SecretError ResolvedSecrets} {cell : Option AccessToken}
    (h : v.store.readAll {} names none s = ((result, cell), s')) :
    ∃ s'', v.resolve names s = (result, s'') ∧ s'.Reaches [] s'.network s'' := by
  simp only [resolve, SecretStore.resolve]
  simp only [Work.bind_apply, StateT.run, Work.cell_bind_apply, h]
  cases result with
  | error e => exact ⟨s', rfl, .refl s'⟩
  | ok found => exact ⟨_, rfl, (Session.Reaches.refl s').said _⟩

lemma resolve_of_error {v : Vault σ} (hv : Work.IgnoresPast (v.credential.token [scope]))
    {s : Session σ} {e : CredentialError} (h : v.storeAnswer s = .error e) {names : List SecretName}
    (hne : names ≠ []) : ∃ s', v.resolve names s = (.error (.credential e), s') ∧
      s'.messages = s.messages ++ (v.storeAsked s).messages := by
  obtain ⟨name, rest, rfl⟩ := List.exists_cons_of_ne_nil hne
  obtain ⟨s', hread, hmessages⟩ := readAll_none_of_error hv h name rest
  obtain ⟨s'', hresolve, hreaches⟩ := resolve_of_readAll hread
  refine ⟨s'', hresolve, ?_⟩
  rw [hreaches.messages, List.append_nil, hmessages]

/-- The work of `resolve` comes to what the batch of the names without the repetitions comes to, once there
is a token. -/
lemma resolve_of_ok {v : Vault σ} (hv : Work.IgnoresPast (v.credential.token [scope]))
    {s : Session σ} {token : AccessToken} (h : v.storeAnswer s = .ok token) {names : List SecretName}
    (hne : names ≠ []) : ∃ s', v.resolve names s =
        ((v.batch token (v.storeAsked s).network names.eraseDups).result.map .mk, s') ∧
      s'.messages = s.messages ++ ((v.storeAsked s).messages ++
        (v.batch token (v.storeAsked s).network names.eraseDups).sent) ∧
      s'.network = (v.batch token (v.storeAsked s).network names.eraseDups).network ∧
      s'.now = (v.storeAsked s).now := by
  obtain ⟨name, rest, rfl⟩ := List.exists_cons_of_ne_nil hne
  obtain ⟨past, hread, hpast⟩ := readAll_none_of_ok hv h name rest
  obtain ⟨s', hrest, hreaches⟩ :=
    v.readAll_apply token (name :: rest) {} ((v.storeAsked s).behind past)
  obtain ⟨s'', hresolve, hreaches'⟩ := resolve_of_readAll (hread.trans hrest)
  have hboth := hreaches.trans hreaches'
  rw [ResolvedSecrets.unread_empty, List.append_nil] at hboth
  refine ⟨s'', ?_, ?_, hboth.network.trans ?_, hboth.now⟩
  · rw [hresolve, ResolvedSecrets.unread_empty]
    rfl
  · rw [hboth.messages, Session.messages_behind, hpast, List.append_assoc]
    rfl
  · rw [hreaches.network, ResolvedSecrets.unread_empty]
    rfl

end Vault

end Reindex
