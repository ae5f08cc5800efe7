import Reindex.Proofs.Http.Secrets
import Reindex.Proofs.Session.Relation

/-!
# Sessions that differ in their secrets

Two sessions are alike if whoever looks at them from outside cannot tell which secrets are in them: the
same was said but for the times in it, messages went out to the same places in between, and the
networks will give the same answers but for secrets. Pieces of work are alike if they keep it that
way.
-/

namespace Reindex

variable {σ α β γ δ : Type}

/-- The names of the fields that tell a time. -/
def LogEvent.timeFields : List String :=
  ["timestamp", "expires_at", "duration_ms", "total_duration_ms"]

/-- The event without the times in it. -/
def LogEvent.withoutTimes (e : LogEvent) : LogEvent :=
  { e with fields := e.fields.filter fun f => !timeFields.contains f.1 }

/-- Two occurrences that differ in times and secrets only. -/
inductive Occurrence.Alike : Occurrence → Occurrence → Prop
  | sent {m m' : Http.Message} (h : m.Alike m') : Alike (.sent m) (.sent m')
  | logged {e e' : LogEvent} (h : e.withoutTimes = e'.withoutTimes) : Alike (.logged e) (.logged e')
  | waited (time : Span) : Alike (.waited time) (.waited time)
  | printed (text : String) : Alike (.printed text) (.printed text)

/-- Two sessions that differ in times and secrets only. -/
structure Session.Alike (s s' : Session σ) : Prop where
  network : s.network.SameButSecrets s'.network
  files : s.files = s'.files
  /-- The same has happened but for times and secrets, in the same order. -/
  history : List.Forall₂ Occurrence.Alike s.history s'.history

/-- Two sessions that are alike and that nothing but talk tells from `s` and `s'`. -/
def Session.AlikeBehind (s s' s₁ s₁' : Session σ) : Prop :=
  s₁.Alike s₁' ∧ s₁.fresh = s.fresh ∧ s₁'.fresh = s'.fresh

namespace Session.Alike

variable {s s' : Session σ}

lemma record (h : s.Alike s') {o o' : Occurrence} (ho : o.Alike o') :
    (s.record o).Alike (s'.record o') where
  network := h.network
  files := h.files
  history := List.rel_append h.history (.cons ho .nil)

lemma fresh (h : s.Alike s') : s.fresh.Alike s'.fresh where
  network := h.network
  files := h.files
  history := .nil

/-- In two sessions that are alike as many messages went out, and to the same places. -/
lemma messages (h : s.Alike s') : List.Forall₂ Http.Message.Alike s.messages s'.messages := by
  refine List.rel_filterMap ?_ h.history
  intro o o' ho
  cases ho with
  | sent h => exact .some h
  | _ => exact .none

/-- The messages between two sessions and two later ones go to the same places. -/
lemma sent {s₁ s₁' : Session σ} {sent sent' : List Http.Message} (h : s.Alike s')
    (h₁ : s₁.Alike s₁') (hsent : s₁.messages = s.messages ++ sent)
    (hsent' : s₁'.messages = s'.messages ++ sent') : List.Forall₂ Http.Message.Alike sent sent' := by
  have hall := h₁.messages
  rw [hsent, hsent'] at hall
  have hdrop := List.forall₂_drop_append _ _ _ hall
  rwa [← h.messages.length_eq, List.drop_left] at hdrop

end Session.Alike

namespace Work

/-- Begun in sessions that are alike, the pieces of work end in such sessions, and their results are
related by `Q`. -/
abbrev Alike (Q : α → β → Prop) (w : Work σ α) (w' : Work σ β) : Prop :=
  Related Session.Alike Session.Alike Q w w'

namespace Alike

lemma log {e e' : LogEvent} (h : e.withoutTimes = e'.withoutTimes) :
    Alike Eq (Work.log e : Work σ Unit) (Work.log e') :=
  fun _ _ hs => ⟨rfl, hs.record (.logged h)⟩

/-- Logging events that differ in times only leaves sessions that are alike behind `s` and `s'`. -/
lemma log_behind {s s' : Session σ} {e e' : LogEvent} (h : e.withoutTimes = e'.withoutTimes) :
    Related (Session.AlikeBehind s s') (Session.AlikeBehind s s') Eq (Work.log e) (Work.log e') :=
  fun _ _ hs => ⟨rfl, hs.1.record (.logged h), hs.2.1, hs.2.2⟩

/-- The work of `now` may give different times in sessions that are alike. -/
lemma now : Alike (fun _ _ => True) (Work.now : Work σ Instant) Work.now :=
  fun _ _ hs => ⟨trivial, hs⟩

lemma readFile (path : String) : Alike Eq (Work.readFile path : Work σ _) (Work.readFile path) :=
  fun _ _ hs => ⟨congrArg (Files.read · path) hs.files, hs⟩

lemma exchange {r r' : Http.Request} (h : r.Alike r') :
    Alike (Agree Http.Response.SameButSecrets) (Work.exchange r : Work σ _) (Work.exchange r') := by
  intro s s' hs
  have hexchange := hs.network.exchange h
  refine ⟨hexchange.outcome, ?_, ?_, ?_⟩
  · rw [exchange_apply, exchange_apply, Session.exchanged_network, Session.exchanged_network]
    exact hexchange.network
  · rw [exchange_apply, exchange_apply, Session.exchanged_files, Session.exchanged_files]
    exact hs.files
  · rw [exchange_apply, exchange_apply, Session.exchanged_history, Session.exchanged_history]
    have hsent := hexchange.sent
    apply List.rel_append hs.history
    revert hsent
    generalize (s.network.exchange r).sent = sent, (s'.network.exchange r').sent = sent'
    intro hsent
    cases hsent with
    | none => exact .nil
    | some hmessage => exact .cons (.sent hmessage) .nil

/-- Work that does not look back has the results that it has behind any other sessions. -/
lemma behind {Q : α → α → Prop} {w w' : Work σ α} (hw : Alike Q w w') (hpast : IgnoresPast w)
    (hpast' : IgnoresPast w') (s s' : Session σ) :
    Related (Session.AlikeBehind s s') Session.Alike
      (fun a b => Q a b ∧ a = (w s.fresh).1 ∧ b = (w' s'.fresh).1) w w' := by
  rintro s₁ s₁' ⟨hs, hfresh, hfresh'⟩
  obtain ⟨hresult, hsession⟩ := hw s₁ s₁' hs
  refine ⟨⟨hresult, ?_, ?_⟩, hsession⟩
  · rw [hpast.apply_eq s₁, hfresh]
  · rw [hpast'.apply_eq s₁', hfresh']

end Alike

end Work

end Reindex
