import Mathlib.Tactic.Common
import Reindex.Session.Basic

/-!
# Pieces of work, applied to a session

A piece of work is a function of a session, and so are the pieces that keep a state of their own in a
cell. The lemmas say what the parts that work is made of do to a session, field by field, so that
nothing else has to look into them. Saying something leaves the messages and the network alone.
-/

namespace Reindex

variable {σ τ α β : Type}

namespace Session

@[simp] lemma record_network (s : Session σ) (o : Occurrence) : (s.record o).network = s.network := rfl

@[simp] lemma record_now (s : Session σ) (o : Occurrence) : (s.record o).now = s.now := rfl

@[simp] lemma record_history (s : Session σ) (o : Occurrence) :
    (s.record o).history = s.history ++ [o] := rfl

@[simp] lemma pause_history (s : Session σ) (time : Span) :
    (s.pause time).history = s.history ++ [.waited time] := rfl

@[simp] lemma messages_record_logged (s : Session σ) (e : LogEvent) :
    (s.record (.logged e)).messages = s.messages := by
  simp [messages]

@[simp] lemma messages_record_printed (s : Session σ) (text : String) :
    (s.record (.printed text)).messages = s.messages := by
  simp [messages]

@[simp] lemma messages_pause (s : Session σ) (time : Span) : (s.pause time).messages = s.messages := by
  simp [messages]

def messagesIn (history : List Occurrence) : List Http.Message :=
  history.filterMap fun
    | .sent m => some m
    | _ => none

lemma messages_of_history {s s' : Session σ} {added : List Occurrence}
    (h : s'.history = s.history ++ added) : s'.messages = s.messages ++ messagesIn added := by
  rw [messages, h, List.filterMap_append]
  rfl

def exchanged (s : Session σ) (r : Http.Request) : Session σ :=
  ((Work.exchange r : Work σ _) s).2

@[simp] lemma exchanged_network (s : Session σ) (r : Http.Request) :
    (s.exchanged r).network = (s.network.exchange r).network := by
  dsimp only [exchanged, Work.exchange]
  cases (s.network.exchange r).sent <;> rfl

lemma exchanged_history (s : Session σ) (r : Http.Request) :
    (s.exchanged r).history =
      s.history ++ ((s.network.exchange r).sent.map Occurrence.sent).toList := by
  dsimp only [exchanged, Work.exchange]
  cases (s.network.exchange r).sent with
  | none => exact (List.append_nil _).symm
  | some m => rfl

@[simp] lemma exchanged_messages (s : Session σ) (r : Http.Request) :
    (s.exchanged r).messages = s.messages ++ (s.network.exchange r).sent.toList := by
  rw [messages_of_history (s.exchanged_history r)]
  cases (s.network.exchange r).sent <;> rfl

@[simp] lemma exchanged_now (s : Session σ) (r : Http.Request) : (s.exchanged r).now = s.now := by
  dsimp only [exchanged, Work.exchange]
  cases (s.network.exchange r).sent <;> rfl

@[simp] lemma exchanged_files (s : Session σ) (r : Http.Request) : (s.exchanged r).files = s.files := by
  dsimp only [exchanged, Work.exchange]
  cases (s.network.exchange r).sent <;> rfl

/-! ### From one session to a later one -/

/-- The session `s'` is reached from `s` without waiting; in between the messages `sent` went out, and
they left the network `n`. -/
structure Reaches (s : Session σ) (sent : List Http.Message) (n : Http.Network) (s' : Session σ) :
    Prop where
  messages : s'.messages = s.messages ++ sent
  network : s'.network = n
  now : s'.now = s.now

namespace Reaches

variable {s s' s'' : Session σ} {sent more : List Http.Message} {n n' : Http.Network}

lemma refl (s : Session σ) : s.Reaches [] s.network s := ⟨(List.append_nil _).symm, rfl, rfl⟩

lemma trans (h : s.Reaches sent n s') (h' : s'.Reaches more n' s'') :
    s.Reaches (sent ++ more) n' s'' where
  messages := by rw [h'.messages, h.messages, List.append_assoc]
  network := h'.network
  now := h'.now.trans h.now

lemma said (h : s.Reaches sent n s') (e : LogEvent) : s.Reaches sent n (s'.record (.logged e)) where
  messages := by rw [messages_record_logged, h.messages]
  network := h.network
  now := h.now

/-- An event that was said before the messages went out does not matter. -/
lemma of_said {e : LogEvent} (h : (s.record (.logged e)).Reaches sent n s') : s.Reaches sent n s' where
  messages := by rw [h.messages, messages_record_logged]
  network := h.network
  now := h.now

end Reaches

lemma reaches_exchanged (s : Session σ) (r : Http.Request) :
    s.Reaches (s.network.exchange r).sent.toList (s.network.exchange r).network (s.exchanged r) :=
  ⟨s.exchanged_messages r, s.exchanged_network r, s.exchanged_now r⟩

end Session

namespace Work

@[simp] lemma pure_apply (a : α) (s : Session σ) : (pure a : Work σ α) s = (a, s) := rfl

@[simp] lemma bind_apply (w : Work σ α) (f : α → Work σ β) (s : Session σ) :
    (w >>= f) s = f (w s).1 (w s).2 := rfl

@[simp] lemma log_apply (e : LogEvent) (s : Session σ) :
    (log e : Work σ Unit) s = ((), s.record (.logged e)) := rfl

@[simp] lemma now_apply (s : Session σ) : (now : Work σ Instant) s = (s.now, s) := rfl

@[simp] lemma readFile_apply (path : String) (s : Session σ) :
    (readFile path : Work σ _) s = (s.files.read path, s) := rfl

@[simp] lemma exchange_apply (r : Http.Request) (s : Session σ) :
    (exchange r : Work σ _) s = ((s.network.exchange r).outcome, s.exchanged r) := rfl

/-! ### Work with a cell -/

@[simp] lemma cell_bind_apply (w : StateT τ (Work σ) α) (f : α → StateT τ (Work σ) β) (cell : τ)
    (s : Session σ) : (w >>= f) cell s = f (w cell s).1.1 (w cell s).1.2 (w cell s).2 := rfl

@[simp] lemma say_apply (e : LogEvent) (cell : τ) (s : Session σ) :
    (say e : StateT τ (Work σ) Unit) cell s = (((), cell), s.record (.logged e)) := rfl

@[simp] lemma lift_apply (w : Work σ α) (cell : τ) (s : Session σ) :
    (liftM w : StateT τ (Work σ) α) cell s = (((w s).1, cell), (w s).2) := rfl

@[simp] lemma get_apply (cell : τ) (s : Session σ) :
    (get : StateT τ (Work σ) τ) cell s = ((cell, cell), s) := rfl

end Work

end Reindex
