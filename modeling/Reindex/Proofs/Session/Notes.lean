import Reindex.Proofs.Session.Work

/-!
# Work that is watched

To tell how the parts that are plugged in are used, notes are kept beside their state. A part that is
watched does what it always does; whenever it is done, a note of what it was asked and what it answered
is added. Nothing but the watched parts can get at the notes.
-/

namespace Reindex

variable {σ ρ α : Type}

namespace Session

/-- The session with notes beside the state of the parts. -/
def noted (s : Session σ) (notes : List ρ) : Session (List ρ × σ) where
  network := s.network
  files := s.files
  now := s.now
  history := s.history
  parts := (notes, s.parts)

/-- The session without the notes. -/
def unnoted (s : Session (List ρ × σ)) : Session σ where
  network := s.network
  files := s.files
  now := s.now
  history := s.history
  parts := s.parts.2

end Session

/-- The work, and a note of how it went: in which session it began, what came of it and in which
session it ended. -/
def Work.watched (w : Work σ α) (note : Session σ → α → Session σ → ρ) : Work (List ρ × σ) α :=
  fun s =>
    let (result, s') := w s.unnoted
    (result, s'.noted (s.parts.1 ++ [note s.unnoted result s']))

@[simp] lemma Work.watched_apply (w : Work σ α) (note : Session σ → α → Session σ → ρ)
    (s : Session σ) (notes : List ρ) :
    w.watched note (s.noted notes) =
      ((w s).1, (w s).2.noted (notes ++ [note s (w s).1 (w s).2])) := rfl

end Reindex
