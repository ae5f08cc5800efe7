import Reindex.Proofs.Http.Readings
import Reindex.Proofs.Session.Relation

/-!
# Work that makes of answers what is read of them

Such work does the same in two sessions whose networks are read alike: it comes to the same result, and
it leaves the same history behind. It is enough that each request is followed by the same work, whichever
of two responses that are read alike comes back.
-/

namespace Reindex

variable {σ α β : Type}

/-- Two sessions are the same but for answers that are read alike. -/
structure Session.ReadAlike (s s' : Session σ) : Prop where
  network : s.network.ReadAlike s'.network
  files : s.files = s'.files
  now : s.now = s'.now
  history : s.history = s'.history

lemma Session.ReadAlike.record {s s' : Session σ} (hs : s.ReadAlike s') (o : Occurrence) :
    (s.record o).ReadAlike (s'.record o) where
  network := hs.network
  files := hs.files
  now := hs.now
  history := by rw [record_history, record_history, hs.history]

lemma Session.ReadAlike.pause {s s' : Session σ} (hs : s.ReadAlike s') (time : Span) :
    (s.pause time).ReadAlike (s'.pause time) where
  network := hs.network
  files := hs.files
  now := congrArg (Instant.add · time) hs.now
  history := (hs.record (.waited time)).history

namespace Work

/-- The work makes of answers only what is read of them. -/
def OnlyReads (w : Work σ α) : Prop := Related Session.ReadAlike Session.ReadAlike Eq w w

namespace OnlyReads

lemma pure (a : α) : OnlyReads (Pure.pure a : Work σ α) := Related.pure rfl

lemma bind {w : Work σ α} {f : α → Work σ β} (hw : OnlyReads w) (hf : ∀ a, OnlyReads (f a)) :
    OnlyReads (w >>= f) := by
  apply Related.bind hw
  rintro a _ rfl
  exact hf a

lemma log (e : LogEvent) : OnlyReads (Work.log e : Work σ Unit) := fun _ _ hs => ⟨rfl, hs.record _⟩

lemma print (text : String) : OnlyReads (Work.print text : Work σ Unit) := fun _ _ hs => ⟨rfl, hs.record _⟩

lemma now : OnlyReads (Work.now : Work σ Instant) := fun _ _ hs => ⟨hs.now, hs⟩

lemma readFile (path : String) : OnlyReads (Work.readFile path : Work σ _) :=
  fun _ _ hs => ⟨congrArg (Files.read · path) hs.files, hs⟩

/-- A request makes of its answer only what is read of it, if what follows is the same for responses that
are read alike. -/
lemma exchange_bind (r : Http.Request) {f : Except Http.TransportFault Http.Response → Work σ α}
    (hf : ∀ outcome, OnlyReads (f outcome))
    (halike : ∀ {a a' : Http.Response}, a.ReadAlike a' → f (.ok a) = f (.ok a')) :
    OnlyReads (Work.exchange r >>= f) := by
  intro s s' hs
  have hexchange := hs.network.exchange r
  have hsession : (s.exchanged r).ReadAlike (s'.exchanged r) := by
    constructor
    · rw [Session.exchanged_network, Session.exchanged_network]
      exact hexchange.network
    · rw [Session.exchanged_files, Session.exchanged_files]
      exact hs.files
    · rw [Session.exchanged_now, Session.exchanged_now]
      exact hs.now
    · rw [Session.exchanged_history, Session.exchanged_history, hexchange.sent, hs.history]
  have hfollowed : f (s'.network.exchange r).outcome = f (s.network.exchange r).outcome := by
    rcases hexchange.outcome.eq_error_or_eq_ok with ⟨fault, h, h'⟩ | ⟨a, a', h, h', ha⟩
    · rw [h, h']
    · rw [h, h', halike ha]
  simp only [bind_apply, exchange_apply, hfollowed]
  exact hf _ _ _ hsession

end OnlyReads

end Work

end Reindex
