import Reindex.Proofs.Http.Exchange
import Reindex.Proofs.Session.Work

/-!
# Two pieces of work side by side

`Work.Related` compares two pieces of work: begun in related sessions, they end in related sessions
and with related results. What relates the sessions in the end may be something else than in the
beginning. It is proved piece by piece, since doing one thing after the other keeps it.

Work that does not look back is related to itself when one of the two sessions has a past that the
other has not. Such work only adds to the history, and what it adds does not depend on the past. All
work that is put together from requests, files, the time and events is of this kind.
-/

namespace Reindex

variable {σ α β γ δ : Type}

namespace Work

/-- Begun in sessions related by `R`, the pieces of work end in sessions related by `R'`, and their
results are related by `Q`. -/
def Related (R R' : Session σ → Session σ → Prop) (Q : α → β → Prop) (w : Work σ α)
    (w' : Work σ β) : Prop :=
  ∀ s s', R s s' → Q (w s).1 (w' s').1 ∧ R' (w s).2 (w' s').2

namespace Related

variable {R R' R'' : Session σ → Session σ → Prop} {P : α → β → Prop} {Q : γ → δ → Prop}

lemma pure {a : α} {b : β} (h : P a b) :
    Related R R P (Pure.pure a : Work σ α) (Pure.pure b : Work σ β) :=
  fun _ _ hs => ⟨h, hs⟩

lemma bind {w : Work σ α} {w' : Work σ β} {f : α → Work σ γ} {f' : β → Work σ δ}
    (hw : Related R R' P w w') (hf : ∀ a b, P a b → Related R' R'' Q (f a) (f' b)) :
    Related R R'' Q (w >>= f) (w' >>= f') := by
  intro s s' hs
  obtain ⟨hresult, hsession⟩ := hw s s' hs
  exact hf _ _ hresult _ _ hsession

/-- Two pieces of work without a result to speak of, each followed by another one. -/
lemma seq {w w' : Work σ Unit} {v : Work σ γ} {v' : Work σ δ} (hw : Related R R' Eq w w')
    (hv : Related R' R'' Q v v') : Related R R'' Q (w >>= fun _ => v) (w' >>= fun _ => v') :=
  hw.bind fun _ _ _ => hv

lemma mono {P' : α → β → Prop} {w : Work σ α} {w' : Work σ β} (hw : Related R R' P w w')
    (hP : ∀ a b, P a b → P' a b) : Related R R' P' w w' :=
  fun s s' hs => ⟨hP _ _ (hw s s' hs).1, (hw s s' hs).2⟩

end Related

end Work

/-! ### The past -/

namespace Session

/-- The session with a past before its history. -/
def behind (s : Session σ) (past : List Occurrence) : Session σ :=
  { s with history := past ++ s.history }

/-- The session without its history. -/
def fresh (s : Session σ) : Session σ := { s with history := [] }

lemma fresh_behind (s : Session σ) : s.fresh.behind s.history = s := by
  rw [behind, fresh, List.append_nil]

lemma behind_record (s : Session σ) (past : List Occurrence) (o : Occurrence) :
    (s.behind past).record o = (s.record o).behind past := by
  rw [record, record, behind, behind, List.append_assoc]

lemma messages_behind (s : Session σ) (past : List Occurrence) :
    (s.behind past).messages = messagesIn past ++ s.messages :=
  List.filterMap_append

/-- One session has everything that the other has, and a past before it. -/
def IsBehind (past : List Occurrence) (s s' : Session σ) : Prop := s' = s.behind past

end Session

namespace Work

/-- The work does not look back: the same happens whatever has happened before. -/
def IgnoresPast (w : Work σ α) : Prop :=
  ∀ past, Related (Session.IsBehind past) (Session.IsBehind past) Eq w w

namespace IgnoresPast

lemma pure (a : α) : IgnoresPast (Pure.pure a : Work σ α) := fun _ => Related.pure rfl

lemma bind {w : Work σ α} {f : α → Work σ β} (hw : IgnoresPast w) (hf : ∀ a, IgnoresPast (f a)) :
    IgnoresPast (w >>= f) := by
  intro past
  apply (hw past).bind
  rintro a _ rfl
  exact hf a past

lemma log (e : LogEvent) : IgnoresPast (Work.log e : Work σ Unit) := by
  rintro past s _ rfl
  exact ⟨rfl, s.behind_record past (.logged e)⟩

lemma now : IgnoresPast (Work.now : Work σ Instant) := by
  rintro past s _ rfl
  exact ⟨rfl, rfl⟩

lemma readFile (path : String) : IgnoresPast (Work.readFile path : Work σ _) := by
  rintro past s _ rfl
  exact ⟨rfl, rfl⟩

lemma exchange (r : Http.Request) : IgnoresPast (Work.exchange r : Work σ _) := by
  rintro past s _ rfl
  refine ⟨rfl, ?_⟩
  dsimp only [Session.IsBehind, Work.exchange, Session.behind]
  cases (s.network.exchange r).sent with
  | none => rfl
  | some m => exact Session.behind_record { s with network := _ } past (.sent m)

/-- Work that does not look back can be done without the history. -/
lemma apply_eq {w : Work σ α} (hw : IgnoresPast w) (s : Session σ) :
    w s = ((w s.fresh).1, (w s.fresh).2.behind s.history) := by
  obtain ⟨hresult, hsession⟩ := hw s.history s.fresh s s.fresh_behind.symm
  exact Prod.ext hresult.symm hsession

end IgnoresPast

/-! ### Plain work -/

/-- Work that is put together from events, the time, files and requests. -/
inductive Plain : {α : Type} → Work σ α → Prop
  | pure {α : Type} (a : α) : Plain (Pure.pure a)
  | bind {α β : Type} {w : Work σ α} {f : α → Work σ β} (hw : Plain w) (hf : ∀ a, Plain (f a)) :
      Plain (w >>= f)
  | log (e : LogEvent) : Plain (Work.log e)
  | now : Plain Work.now
  | readFile (path : String) : Plain (Work.readFile path)
  | exchange (r : Http.Request) : Plain (Work.exchange r)

namespace Plain

lemma ignoresPast {w : Work σ α} (hw : Plain w) : IgnoresPast w := by
  induction hw with
  | pure a => exact .pure a
  | bind _ _ ihw ihf => exact .bind ihw ihf
  | log e => exact .log e
  | now => exact .now
  | readFile path => exact .readFile path
  | exchange r => exact .exchange r

/-- Plain work does not change whether a network gives answers. -/
lemma isScripted {w : Work σ α} (hw : Plain w) (s : Session σ) :
    (w s).2.network.isScripted = s.network.isScripted := by
  induction hw generalizing s with
  | bind _ _ ihw ihf => exact (ihf _ _).trans (ihw s)
  | exchange r => exact (congrArg _ (s.exchanged_network r)).trans (s.network.isScripted_exchange r)
  | _ => rfl

end Plain

end Work

end Reindex
