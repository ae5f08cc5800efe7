import Mathlib.Data.List.Forall2
import Reindex.Proofs.Http.Codes
import Reindex.Proofs.Session.Relation

/-!
# Sessions that differ in the codes of errors

In two sessions whose networks differ in the values in codes, the same happens, except that a chain of
credentials says in so many words why one of its members is unavailable. Where no chain is asked, the
very same happens. Pieces of work that do the same and come to related results are put together from
such pieces.
-/

namespace Reindex

open Redaction (IsPlainValue)

variable {σ α β γ δ : Type} {chained : Prop}

/-- The event in which a chain says that a member is unavailable because its endpoint refuses it, by a code
with a value. -/
def CredentialChain.codeEvent (member source value : String) (code : Option String) : LogEvent :=
  unavailableEvent member (.unavailable source (.token (.refused ("password=" ++ value) code)))

/-- Two occurrences are the same, or a chain says why a member is unavailable, with different values in
the code. The latter cannot be unless a chain is asked. -/
inductive Occurrence.SameButCodes (chained : Prop) : Occurrence → Occurrence → Prop
  | same (o : Occurrence) : SameButCodes chained o o
  | unavailable (hchained : chained) (member source : String) {v w : String} (code : Option String)
      (hv : IsPlainValue v.toList) (hw : IsPlainValue w.toList) :
      SameButCodes chained (.logged (CredentialChain.codeEvent member source v code))
        (.logged (CredentialChain.codeEvent member source w code))

/-- Two sessions that differ in the values of codes only: those that a network may still send, and
those that a chain has talked about. -/
structure Session.SameButCodes (chained : Prop) (s s' : Session σ) : Prop where
  network : s.network.SameButCodes s'.network
  files : s.files = s'.files
  now : s.now = s'.now
  history : List.Forall₂ (Occurrence.SameButCodes chained) s.history s'.history

namespace Session.SameButCodes

variable {s s' : Session σ}

lemma record (h : s.SameButCodes chained s') {o o' : Occurrence} (ho : o.SameButCodes chained o') :
    (s.record o).SameButCodes chained (s'.record o') where
  network := h.network
  files := h.files
  now := h.now
  history := List.rel_append h.history (.cons ho .nil)

end Session.SameButCodes

namespace Work

/-- Begun in sessions that differ in the values of codes, the pieces of work end in such sessions, and
their results are related by `Q`. -/
abbrev SameButCodes (chained : Prop) (Q : α → β → Prop) (w : Work σ α) (w' : Work σ β) : Prop :=
  Related (Session.SameButCodes chained) (Session.SameButCodes chained) Q w w'

namespace SameButCodes

lemma log (e : LogEvent) : SameButCodes chained Eq (Work.log e : Work σ Unit) (Work.log e) :=
  fun _ _ hs => ⟨rfl, hs.record (.same _)⟩

lemma log_of {e e' : LogEvent} (h : (Occurrence.logged e).SameButCodes chained (.logged e')) :
    SameButCodes chained Eq (Work.log e : Work σ Unit) (Work.log e') :=
  fun _ _ hs => ⟨rfl, hs.record h⟩

lemma print (text : String) : SameButCodes chained Eq (Work.print text : Work σ Unit) (Work.print text) :=
  fun _ _ hs => ⟨rfl, hs.record (.same _)⟩

lemma now : SameButCodes chained Eq (Work.now : Work σ Instant) Work.now := fun _ _ hs => ⟨hs.now, hs⟩

lemma readFile (path : String) :
    SameButCodes chained Eq (Work.readFile path : Work σ _) (Work.readFile path) :=
  fun _ _ hs => ⟨congrArg (Files.read · path) hs.files, hs⟩

lemma exchange (r : Http.Request) :
    SameButCodes chained (Agree Http.Response.SameButCodes) (Work.exchange r : Work σ _) (Work.exchange r) := by
  intro s s' hs
  have hexchange := hs.network.exchange r
  rw [exchange_apply, exchange_apply]
  refine ⟨hexchange.outcome, ?_, ?_, ?_, ?_⟩
  · rw [Session.exchanged_network, Session.exchanged_network]
    exact hexchange.network
  · rw [Session.exchanged_files, Session.exchanged_files]
    exact hs.files
  · rw [Session.exchanged_now, Session.exchanged_now]
    exact hs.now
  · rw [Session.exchanged_history, Session.exchanged_history, hexchange.sent]
    apply List.rel_append hs.history
    exact List.forall₂_same.mpr fun o _ => .same o

/-- Pieces of work that come to the same result, followed by the same work for that result. -/
lemma bind_eq {Q : γ → δ → Prop} {w w' : Work σ α} {f : α → Work σ γ} {f' : α → Work σ δ}
    (hw : SameButCodes chained Eq w w') (hf : ∀ a, SameButCodes chained Q (f a) (f' a)) :
    SameButCodes chained Q (w >>= f) (w' >>= f') := by
  apply hw.bind
  rintro a _ rfl
  exact hf a

end SameButCodes

end Work

end Reindex
