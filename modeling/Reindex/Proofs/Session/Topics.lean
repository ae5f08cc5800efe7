import Reindex.Proofs.Session.Work

/-!
# What operators watch for

Some of the events that the program tells of are watched for: errors, records of secrets that were to be
read, failed attempts, responses, and a check that is turned off. Everything else is talk, and work that
does no more than talk is quiet.
-/

namespace Reindex

variable {σ α β : Type}

/-- The topics that operators watch for. -/
inductive Topic where
  /-- Something went wrong that ends the program. -/
  | error
  /-- A secret was to be read. -/
  | audit
  /-- An attempt failed, in a way that may be retried. -/
  | failedAttempt
  /-- The target has answered. -/
  | response
  /-- Certificates are not checked. -/
  | insecure
  deriving DecidableEq, Repr

namespace Topic

def all : List Topic := [.error, .audit, .failedAttempt, .response, .insecure]

lemma mem_all (t : Topic) : t ∈ all := by
  cases t <;> decide

/-- The beginnings of the messages on a topic, unless it is recognized by the level. -/
def headings : Topic → List String
  | .error => []
  | .audit => ["Secret operation successful", "Secret operation failed"]
  | .failedAttempt => ["attempt failed"]
  | .response => ["Response code: "]
  | .insecure => ["TLS certificate verification is disabled for the target request"]

/-- The text and the messages on the topic begin in different ways. -/
def differsFrom (t : Topic) (heading : String) : Bool :=
  t.headings.all fun other =>
    !heading.toList.isPrefixOf other.toList && !other.toList.isPrefixOf heading.toList

end Topic

namespace LogEvent

/-! ### Topics -/

def isOn (t : Topic) (e : LogEvent) : Bool :=
  match t with
  | .error => e.level = .error
  | .audit => e.message = "Secret operation successful" || e.message = "Secret operation failed"
  | .failedAttempt => e.message = "attempt failed"
  | .response => "Response code: ".toList.isPrefixOf e.message.toList
  | .insecure => e.message = "TLS certificate verification is disabled for the target request"

/-- The event is one that operators watch for. -/
def isNotable (e : LogEvent) : Bool := Topic.all.any fun t => e.isOn t

/-- The event is on this topic and on no other. -/
def IsOnly (t : Topic) (e : LogEvent) : Prop := ∀ other, e.isOn other = decide (other = t)

instance (t : Topic) (e : LogEvent) : Decidable (e.IsOnly t) :=
  decidable_of_iff (∀ other ∈ Topic.all, e.isOn other = decide (other = t))
    ⟨fun h other => h other other.mem_all, fun h other _ => h other⟩

lemma isNotable_of_isOn {t : Topic} {e : LogEvent} (h : e.isOn t = true) : e.isNotable = true :=
  List.any_eq_true.mpr ⟨t, t.mem_all, h⟩

lemma IsOnly.isNotable {t : Topic} {e : LogEvent} (h : e.IsOnly t) : e.isNotable = true :=
  isNotable_of_isOn ((h t).trans (decide_eq_true rfl))

/-- The topic of an event does not depend on its fields. -/
lemma IsOnly.withFields {t : Topic} {level : LogLevel} {message : String}
    (h : IsOnly t ⟨level, message, []⟩) (fields : List (String × LogValue)) :
    IsOnly t ⟨level, message, fields⟩ := by
  intro other
  rw [← h other]
  cases other <;> rfl

/-- A message that begins in a way of its own is not on a topic. -/
lemma isOn_append_eq_false {t : Topic} {heading : String} (ht : t ≠ .error)
    (h : t.differsFrom heading = true) (level : LogLevel) (rest : String)
    (fields : List (String × LogValue)) : isOn t ⟨level, heading ++ rest, fields⟩ = false := by
  have hdiffers : ∀ other ∈ t.headings, ¬ heading.toList <+: other.toList ∧
      ¬ other.toList <+: heading.toList := by
    intro other hother
    have hne := List.all_eq_true.mp h other hother
    rw [Bool.and_eq_true, Bool.not_eq_true', Bool.not_eq_true'] at hne
    rw [← List.isPrefixOf_iff_prefix, ← List.isPrefixOf_iff_prefix, hne.1, hne.2]
    exact ⟨Bool.false_ne_true, Bool.false_ne_true⟩
  have hne : ∀ other ∈ t.headings, heading ++ rest ≠ other := by
    intro other hother heq
    exact (hdiffers other hother).1 ⟨rest.toList, by rw [← String.toList_append, heq]⟩
  cases t with
  | error => exact absurd rfl ht
  | audit =>
    exact Bool.or_eq_false_iff.mpr ⟨decide_eq_false (hne _ List.mem_cons_self),
      decide_eq_false (hne _ (List.mem_cons_of_mem _ List.mem_cons_self))⟩
  | failedAttempt => exact decide_eq_false (hne _ List.mem_cons_self)
  | insecure => exact decide_eq_false (hne _ List.mem_cons_self)
  | response =>
    have hother := hdiffers "Response code: " List.mem_cons_self
    rw [isOn, Bool.eq_false_iff, ne_eq, List.isPrefixOf_iff_prefix, String.toList_append]
    intro hprefix
    rcases List.prefix_or_prefix_of_prefix hprefix (List.prefix_append _ _) with hprefix | hprefix
    · exact hother.2 hprefix
    · exact hother.1 hprefix

/-- A message that begins in a way of its own is none of those that are watched for. -/
lemma isNotable_append {level : LogLevel} {heading : String} (hlevel : level ≠ .error)
    (h : Topic.all.all (fun t => t.differsFrom heading) = true) (rest : String)
    (fields : List (String × LogValue)) :
    isNotable ⟨level, heading ++ rest, fields⟩ = false := by
  rw [isNotable, List.any_eq_false]
  intro t ht
  rw [Bool.not_eq_true]
  by_cases hterror : t = .error
  · subst hterror
    exact decide_eq_false hlevel
  · exact isOn_append_eq_false hterror (List.all_eq_true.mp h t ht) level rest fields

end LogEvent

/-! ### Quiet work -/

/-- The events of a session that operators watch for. -/
def Session.notable (s : Session σ) : List LogEvent := s.events.filter LogEvent.isNotable

namespace Session

lemma notable_record_logged (s : Session σ) (e : LogEvent) :
    (s.record (.logged e)).notable = s.notable ++ [e].filter LogEvent.isNotable := by
  simp only [notable, events, record_history, List.filterMap_append, List.filter_append]
  rfl

lemma notable_record_of_notable {e : LogEvent} (h : e.isNotable = true) (s : Session σ) :
    (s.record (.logged e)).notable = s.notable ++ [e] := by
  rw [notable_record_logged, List.filter_cons_of_pos h, List.filter_nil]

lemma notable_record_of_quiet {e : LogEvent} (h : e.isNotable = false) (s : Session σ) :
    (s.record (.logged e)).notable = s.notable := by
  rw [notable_record_logged, List.filter_cons_of_neg (by simp [h]), List.filter_nil, List.append_nil]

@[simp] lemma notable_pause (s : Session σ) (time : Span) : (s.pause time).notable = s.notable := by
  simp [notable, events]

@[simp] lemma notable_exchanged (s : Session σ) (r : Http.Request) :
    (s.exchanged r).notable = s.notable := by
  rw [notable, events, exchanged_history, List.filterMap_append]
  cases (s.network.exchange r).sent with
  | none => exact congrArg _ (List.append_nil _)
  | some m => exact congrArg _ (List.append_nil _)

end Session

namespace Work

/-- The work tells of nothing that operators watch for. -/
def Quiet (w : Work σ α) : Prop := ∀ s, (w s).2.notable = s.notable

namespace Quiet

lemma pure (a : α) : Quiet (Pure.pure a : Work σ α) := fun _ => rfl

lemma bind {w : Work σ α} {f : α → Work σ β} (hw : Quiet w) (hf : ∀ a, Quiet (f a)) :
    Quiet (w >>= f) := fun s => (hf _ _).trans (hw s)

lemma log {e : LogEvent} (h : e.isNotable = false) : Quiet (Work.log e : Work σ Unit) :=
  Session.notable_record_of_quiet h

/-- A message that operators do not watch for is quiet, whatever its fields are. -/
lemma say {level : LogLevel} {message : String} (h : LogEvent.isNotable ⟨level, message, []⟩ = false)
    (fields : List (String × LogValue)) :
    Quiet (Work.log ⟨level, message, fields⟩ : Work σ Unit) := log h

lemma now : Quiet (Work.now : Work σ Instant) := fun _ => rfl

lemma readFile (path : String) : Quiet (Work.readFile path : Work σ _) := fun _ => rfl

lemma exchange (r : Http.Request) : Quiet (Work.exchange r : Work σ _) := fun s =>
  s.notable_exchanged r

end Quiet

end Work

end Reindex
