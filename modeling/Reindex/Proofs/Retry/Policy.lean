import Reindex.Proofs.Json.Numbers
import Reindex.Proofs.Json.Records
import Reindex.Proofs.Yaml.Entry
import Reindex.Proofs.Yaml.Reading
import Reindex.Retry.Policy

/-!
# Policies that are changed, written and read

A policy is changed step by step. Every step has a number of attempts and a wait that it would set, if
its text tells any; it fails if there are none or if the attempts are zero, and then nothing changes.
Whatever the steps were, the policy is read again from what is written of it.
-/

namespace Reindex.RetryPolicy

open Text

variable {p q : RetryPolicy} {n : UInt32} {d : Span}

/-! ### Policies of two numbers -/

lemma toOption_create_eq_some_iff :
    (create n d).toOption = some p ↔ p.maxAttempts = n ∧ p.delay = d := by
  unfold create
  split
  · rw [Except.toOption, Option.some.injEq]
    constructor
    · rintro rfl
      exact ⟨rfl, rfl⟩
    · rintro ⟨rfl, rfl⟩
      rfl
  · rename_i hzero
    refine iff_of_false nofun ?_
    rintro ⟨rfl, -⟩
    exact hzero p.maxAttempts_pos

/-- A field that may be left out stands for a number, as it is written or by default. -/
inductive IsCount {β : Type} (spells : β → Nat → Prop) (default : Nat) : Option β → Nat → Prop
  | absent : IsCount spells default none default
  | given {field : β} {k : Nat} (h : spells field k) : IsCount spells default (some field) k

/-- Two fields stand for a number of attempts and for the milliseconds of a wait, each below its bound. -/
structure AreCounts {β : Type} (spells : Nat → β → Nat → Prop) (attempts delay : Option β) (n : UInt32)
    (d : Span) : Prop where
  attempts : IsCount (spells (2 ^ 32)) 5 attempts n.toNat
  delay : ∃ ms : UInt64, d = .ofMillis ms ∧ IsCount (spells (2 ^ 64)) 4000 delay ms.toNat

lemma isCount_iff {β : Type} {read : β → Option Nat} {default k : Nat} {field : Option β} :
    IsCount (fun field k => read field = some k) default field k ↔
      ∃ number, count? read field = some number ∧ number.getD default = k := by
  cases field with
  | none =>
    constructor
    · rintro ⟨⟩
      exact ⟨none, rfl, rfl⟩
    · rintro ⟨number, ⟨⟩, rfl⟩
      exact .absent
  | some field =>
    constructor
    · rintro (_ | h)
      exact ⟨some k, congrArg (Option.map some) h, rfl⟩
    · rintro ⟨number, hnumber, rfl⟩
      obtain ⟨k, hk, rfl⟩ := Option.map_eq_some_iff.mp hnumber
      exact .given hk

/-- Numbers below their bounds make the policy that has them. -/
lemma ofFields?_eq_some_iff {attempts delay : Option Nat} (hattempts : ∀ k ∈ attempts, k < 2 ^ 32)
    (hdelay : ∀ k ∈ delay, k < 2 ^ 64) : ofFields? attempts delay = some p ↔
      attempts.getD 5 = p.maxAttempts.toNat ∧
        ∃ ms : UInt64, p.delay = .ofMillis ms ∧ delay.getD 4000 = ms.toNat := by
  have hn : ((attempts.map UInt32.ofNat).getD defaultMaxAttempts).toNat = attempts.getD 5 := by
    cases attempts with
    | none => rfl
    | some k => exact UInt32.toNat_ofNat_of_lt' (hattempts k rfl)
  have hd : ((delay.map UInt64.ofNat).getD defaultDelayMs).toNat = delay.getD 4000 := by
    cases delay with
    | none => rfl
    | some k => exact UInt64.toNat_ofNat_of_lt' (hdelay k rfl)
  rw [ofFields?, toOption_create_eq_some_iff, ← hn, ← hd, UInt32.toNat_inj, eq_comm]
  refine and_congr_right fun _ => ⟨fun h => ⟨_, h, rfl⟩, ?_⟩
  rintro ⟨ms, hms, hsame⟩
  rw [hms, UInt64.toNat_inj.mp hsame]

/-- A field that is read as a number or left out has the number that is read of it, or none. -/
lemma eq_bind_of_count? {β : Type} {read : β → Option Nat} {field : Option β} {number : Option Nat}
    (h : count? read field = some number) : number = field.bind read := by
  cases field with
  | none =>
    cases h
    rfl
  | some field =>
    obtain ⟨value, hvalue, rfl⟩ := Option.map_eq_some_iff.mp h
    exact hvalue.symm

lemma lt_of_count? {β : Type} {read : β → Option Nat} {bound : Nat}
    (hread : ∀ field k, read field = some k → k < bound) {field : Option β} {number : Option Nat}
    (h : count? read field = some number) : ∀ k ∈ number, k < bound := by
  rintro k hk
  rw [eq_bind_of_count? h] at hk
  obtain ⟨field, -, hfield⟩ := Option.bind_eq_some_iff.mp hk
  exact hread field k hfield

/-- Two fields make the policy that they stand for. -/
lemma ofCounts_eq_some_iff {β : Type} (read : Nat → β → Option Nat)
    (hread : ∀ bound field k, read bound field = some k → k < bound) (attempts delay : Option β) :
    ((count? (read UInt32.size) attempts).bind fun attempts =>
      (count? (read UInt64.size) delay).bind fun delay => ofFields? attempts delay) = some p ↔
      AreCounts (fun bound field k => read bound field = some k) attempts delay p.maxAttempts
        p.delay := by
  rw [Option.bind_eq_some_iff]
  constructor
  · rintro ⟨a, ha, h⟩
    obtain ⟨b, hb, h⟩ := Option.bind_eq_some_iff.mp h
    obtain ⟨hattempts, ms, hms, hdelay⟩ := (ofFields?_eq_some_iff (lt_of_count? (hread _) ha)
      (lt_of_count? (hread _) hb)).mp h
    exact ⟨isCount_iff.mpr ⟨a, ha, hattempts⟩, ms, hms, isCount_iff.mpr ⟨b, hb, hdelay⟩⟩
  · rintro ⟨hattempts, ms, hms, hdelay⟩
    obtain ⟨a, ha, hattempts⟩ := isCount_iff.mp hattempts
    obtain ⟨b, hb, hdelay⟩ := isCount_iff.mp hdelay
    have hpolicy := (ofFields?_eq_some_iff (lt_of_count? (hread _) ha)
      (lt_of_count? (hread _) hb)).mpr ⟨hattempts, ms, hms, hdelay⟩
    exact ⟨a, ha, Option.bind_eq_some_iff.mpr ⟨b, hb, hpolicy⟩⟩

/-! ### What texts say -/

/-- A number of JSON below a bound. -/
def SpellsInJson (bound : Nat) (j : Json) (k : Nat) : Prop :=
  k < bound ∧ ∃ zeros, j = .number (paddedDigits zeros k)

/-- A JSON text tells how many attempts there are to be and how long the wait is. -/
def SaysInJson (text : String) (n : UInt32) (d : Span) : Prop :=
  ∃ j attempts delay, Json.readText? text = some j ∧
    Json.MayHave "max-attempts" attempts "delay-ms" delay j ∧ AreCounts SpellsInJson attempts delay n d

/-- A YAML text tells how many attempts there are to be and how long the wait is. The text may be empty, and
its numbers need not be decimal. -/
def SaysInYaml (text : String) (n : UInt32) (d : Span) : Prop :=
  ∃ doc attempts delay, Yaml.read? text = some doc ∧
    Yaml.Decoder.fields ["max-attempts", "delay-ms"] doc.node doc.node = some [attempts, delay] ∧
    AreCounts (fun bound field k => Yaml.Decoder.natBelow bound doc.node field = some k) attempts delay
      n d

lemma numberBelow?_eq_some_iff {bound : Nat} {j : Json} {k : Nat} :
    numberBelow? bound j = some k ↔ SpellsInJson bound j k := by
  constructor
  · intro h
    unfold numberBelow? at h
    split at h
    · obtain ⟨hdigits, hbound⟩ := Option.filter_eq_some_iff.mp h
      obtain ⟨zeros, rfl⟩ := digits?_eq_some_iff.mp hdigits
      exact ⟨of_decide_eq_true hbound, zeros, rfl⟩
    · cases h
  · rintro ⟨hbound, zeros, rfl⟩
    exact Option.filter_eq_some_iff.mpr ⟨digits?_eq_some_iff.mpr ⟨zeros, rfl⟩, decide_eq_true hbound⟩

lemma ofJsonText?_eq_some_iff {text : String} :
    ofJsonText? text = some p ↔ SaysInJson text p.maxAttempts p.delay := by
  have hread : ∀ bound j k, numberBelow? bound j = some k → k < bound :=
    fun bound j k h => (numberBelow?_eq_some_iff.mp h).1
  have hcounts : ∀ attempts delay, ((count? (numberBelow? UInt32.size) attempts).bind fun attempts =>
        (count? (numberBelow? UInt64.size) delay).bind fun delay => ofFields? attempts delay) = some p ↔
      AreCounts SpellsInJson attempts delay p.maxAttempts p.delay := by
    intro attempts delay
    rw [ofCounts_eq_some_iff numberBelow? hread]
    simp only [numberBelow?_eq_some_iff]
  rw [ofJsonText?, Option.bind_eq_some_iff]
  constructor
  · rintro ⟨j, hj, h⟩
    obtain ⟨fields, hfields, h⟩ := Option.bind_eq_some_iff.mp h
    match fields, hfields, h with
    | [attempts, delay], hfields, h =>
      exact ⟨j, attempts, delay, hj, Json.fields?_eq_pair.mp hfields, (hcounts _ _).mp h⟩
  · rintro ⟨j, attempts, delay, hj, hfields, h⟩
    refine ⟨j, hj, Option.bind_eq_some_iff.mpr ⟨_, Json.fields?_eq_pair.mpr hfields, ?_⟩⟩
    exact (hcounts _ _).mpr h

lemma lt_of_natBelow {bound : Nat} {root field : Yaml.Node} {k : Nat}
    (h : Yaml.Decoder.natBelow bound root field = some k) : k < bound := by
  unfold Yaml.Decoder.natBelow Yaml.Decoder.plain at h
  split at h
  · exact of_decide_eq_true (Option.filter_eq_some_iff.mp h).2
  · cases h

lemma ofYamlText?_eq_some_iff {text : String} :
    ofYamlText? text = some p ↔ SaysInYaml text p.maxAttempts p.delay := by
  have hcounts := fun doc : Yaml.Document => ofCounts_eq_some_iff (p := p)
    (fun bound field => Yaml.Decoder.natBelow bound doc.node field) fun _ _ _ h => lt_of_natBelow h
  rw [ofYamlText?, Option.bind_eq_some_iff]
  simp only [Yaml.Document.decode?_eq]
  constructor
  · rintro ⟨doc, hdoc, h⟩
    obtain ⟨fields, hfields, h⟩ := Option.bind_eq_some_iff.mp h
    match fields, hfields, h with
    | [attempts, delay], hfields, h =>
      exact ⟨doc, attempts, delay, hdoc, hfields, (hcounts _ _ _).mp h⟩
  · rintro ⟨doc, attempts, delay, hdoc, hfields, h⟩
    exact ⟨doc, hdoc, Option.bind_eq_some_iff.mpr ⟨_, hfields, (hcounts _ _ _).mpr h⟩⟩

/-! ### Steps -/

/-- A step that gives a policy. -/
inductive Step where
  | default
  | single
  | create (maxAttempts : UInt32) (ms : UInt64)
  | withMaxAttempts (maxAttempts : UInt32)
  | withDelayMs (ms : UInt64)
  | ofJson (text : String)
  | ofYaml (text : String)

/-- The policy that a step gives, if it does not fail. -/
def Step.next? (p : RetryPolicy) : Step → Option RetryPolicy
  | .default => some .default
  | .single => some .single
  | .create n ms => (RetryPolicy.create n (.ofMillis ms)).toOption
  | .withMaxAttempts n => (p.withMaxAttempts n).toOption
  | .withDelayMs ms => some (p.withDelayMs ms)
  | .ofJson text => ofJsonText? text
  | .ofYaml text => ofYamlText? text

/-- The policy behind a sequence of steps. Before them it is the usual one, and steps that fail leave it
as it is. -/
def after (steps : List Step) : RetryPolicy :=
  steps.foldl (fun p step => (step.next? p).getD p) .default

/-- The attempts and the wait that a step would set. -/
inductive Asks (p : RetryPolicy) : Step → UInt32 → Span → Prop
  | default : Asks p .default 5 (.ofMillis 4000)
  | single : Asks p .single 1 0
  | create (n : UInt32) (ms : UInt64) : Asks p (.create n ms) n (.ofMillis ms)
  | withMaxAttempts (n : UInt32) : Asks p (.withMaxAttempts n) n p.delay
  | withDelayMs (ms : UInt64) : Asks p (.withDelayMs ms) p.maxAttempts (.ofMillis ms)
  | ofJson {text : String} {n : UInt32} {d : Span} (h : SaysInJson text n d) : Asks p (.ofJson text) n d
  | ofYaml {text : String} {n : UInt32} {d : Span} (h : SaysInYaml text n d) : Asks p (.ofYaml text) n d

/-- A step gives the policy that it asks for. -/
lemma Step.next?_eq_some_iff {step : Step} :
    step.next? p = some q ↔ Asks p step q.maxAttempts q.delay := by
  obtain ⟨n, d, hpos⟩ := q
  constructor
  · intro h
    cases step with
    | default =>
      cases h
      exact .default
    | single =>
      cases h
      exact .single
    | create n ms =>
      obtain ⟨rfl, rfl⟩ := toOption_create_eq_some_iff.mp h
      exact .create _ _
    | withMaxAttempts n =>
      obtain ⟨rfl, rfl⟩ := toOption_create_eq_some_iff.mp h
      exact .withMaxAttempts _
    | withDelayMs ms =>
      cases h
      exact .withDelayMs _
    | ofJson text => exact .ofJson (ofJsonText?_eq_some_iff.mp h)
    | ofYaml text => exact .ofYaml (ofYamlText?_eq_some_iff.mp h)
  · intro h
    cases h with
    | default => rfl
    | single => rfl
    | create => exact toOption_create_eq_some_iff.mpr ⟨rfl, rfl⟩
    | withMaxAttempts => exact toOption_create_eq_some_iff.mpr ⟨rfl, rfl⟩
    | withDelayMs => rfl
    | ofJson h => exact ofJsonText?_eq_some_iff.mpr h
    | ofYaml h => exact ofYamlText?_eq_some_iff.mpr h

/-- A step fails if it asks for no attempts, or for nothing. -/
lemma Step.next?_eq_none_iff {step : Step} :
    step.next? p = none ↔ ∀ n d, Asks p step n d → n = 0 := by
  rw [Option.eq_none_iff_forall_ne_some]
  constructor
  · intro hnone n d h
    by_contra hne
    have hpos : 0 < n := UInt32.pos_iff_ne_zero.mpr hne
    exact hnone ⟨n, d, hpos⟩ (next?_eq_some_iff.mpr h)
  · intro hzero q hq
    have hnone := hzero _ _ (next?_eq_some_iff.mp hq)
    exact UInt32.pos_iff_ne_zero.mp q.maxAttempts_pos hnone

lemma after_append (steps : List Step) (step : Step) :
    after (steps ++ [step]) = (step.next? (after steps)).getD (after steps) := by
  rw [after, List.foldl_append]
  rfl

/-! ### Waits in milliseconds -/

/-- The wait of a policy is a number of milliseconds that fits into 64 bits. -/
def IsInMillis (p : RetryPolicy) : Prop := ∃ ms : UInt64, p.delay = .ofMillis ms

lemma IsInMillis.delay_eq (h : p.IsInMillis) : p.delay = .ofMillis p.delayMs := by
  obtain ⟨ms, hms⟩ := h
  rw [delayMs, hms, Span.millis_ofMillis]

/-- Steps that are given milliseconds ask for milliseconds. -/
lemma Asks.isInMillis {step : Step} (hp : p.IsInMillis) (h : Asks p step q.maxAttempts q.delay) :
    q.IsInMillis := by
  obtain ⟨n, d, hpos⟩ := q
  cases h with
  | default => exact ⟨4000, rfl⟩
  | single => exact ⟨0, rfl⟩
  | create n ms => exact ⟨ms, rfl⟩
  | withMaxAttempts n => exact hp
  | withDelayMs ms => exact ⟨ms, rfl⟩
  | ofJson h =>
    obtain ⟨_, _, _, _, _, _, ms, hms, _⟩ := h
    exact ⟨ms, hms⟩
  | ofYaml h =>
    obtain ⟨_, _, _, _, _, _, ms, hms, _⟩ := h
    exact ⟨ms, hms⟩

/-- The wait stays a number of milliseconds. The induction is on the last step. -/
lemma isInMillis_after (steps : List Step) : (after steps).IsInMillis := by
  induction steps using List.reverseRecOn with
  | nil => exact ⟨4000, rfl⟩
  | append_singleton steps step ih =>
    rw [after_append]
    cases hnext : step.next? (after steps) with
    | none => exact ih
    | some q => exact (Step.next?_eq_some_iff.mp hnext).isInMillis ih

/-! ### Written policies -/

/-- The fields of a policy are written as a text that is read as the same policy. If one of the fields is
left out, the usual number stands in for it, and the other one is the same. -/
structure Recovers {β : Type} (fields : List (String × β)) (write : List (String × β) → String)
    (read : String → Option RetryPolicy) (p : RetryPolicy) : Prop where
  keys : fields.map Prod.fst = ["max-attempts", "delay-ms"]
  whole : read (write fields) = some p
  withoutAttempts : ∃ q, read (write (fields.filter fun f => f.1 ≠ "max-attempts")) = some q ∧
    q.maxAttempts = 5 ∧ q.delay = p.delay
  withoutDelay : ∃ q, read (write (fields.filter fun f => f.1 ≠ "delay-ms")) = some q ∧
    q.maxAttempts = p.maxAttempts ∧ q.delay = .ofMillis 4000

/-- A policy is recovered if the text of its fields tells its numbers, and the texts without one of the
fields tell the usual number instead. -/
lemma recovers_of_tells {β : Type} {fields : List (String × β)} {write : List (String × β) → String}
    {read : String → Option RetryPolicy} {tells : String → UInt32 → Span → Prop}
    (hread : ∀ text q, read text = some q ↔ tells text q.maxAttempts q.delay)
    (hkeys : fields.map Prod.fst = ["max-attempts", "delay-ms"])
    (hwhole : tells (write fields) p.maxAttempts p.delay)
    (hattempts : tells (write (fields.filter fun f => f.1 ≠ "max-attempts")) 5 p.delay)
    (hdelay : tells (write (fields.filter fun f => f.1 ≠ "delay-ms")) p.maxAttempts (.ofMillis 4000)) :
    p.Recovers fields write read where
  keys := hkeys
  whole := (hread _ _).mpr hwhole
  withoutAttempts := ⟨⟨5, p.delay, by decide⟩, (hread _ _).mpr hattempts, rfl, rfl⟩
  withoutDelay := ⟨⟨p.maxAttempts, .ofMillis 4000, p.maxAttempts_pos⟩, (hread _ _).mpr hdelay, rfl, rfl⟩

lemma areCounts_of_spells {β : Type} (spells : Nat → β → Nat → Prop) (node : Nat → β)
    (h : ∀ bound k, k < bound → spells bound (node k) k) (hp : p.IsInMillis) :
    AreCounts spells (some (node p.maxAttempts.toNat)) (some (node p.delayMs.toNat)) p.maxAttempts
        p.delay ∧
      AreCounts spells none (some (node p.delayMs.toNat)) 5 p.delay ∧
      AreCounts spells (some (node p.maxAttempts.toNat)) none p.maxAttempts (.ofMillis 4000) := by
  have hn := h (2 ^ 32) p.maxAttempts.toNat p.maxAttempts.toNat_lt
  have hd := h (2 ^ 64) p.delayMs.toNat p.delayMs.toNat_lt
  exact ⟨⟨.given hn, _, hp.delay_eq, .given hd⟩, ⟨.absent, _, hp.delay_eq, .given hd⟩,
    ⟨.given hn, _, rfl, .absent⟩⟩

lemma recovers_json (hp : p.IsInMillis) : p.Recovers p.toJson Json.writeNumbers ofJsonText? := by
  obtain ⟨hwhole, hattempts, hdelay⟩ := areCounts_of_spells SpellsInJson
    (fun k => .number (Nat.toDigits 10 k)) (fun bound k hk => ⟨hk, 0, rfl⟩) hp
  have htells : ∀ {members : List (String × Nat)} {attempts delay : Option Json} {n d},
      (∀ m ∈ members, Json.isPlain m.1 = true) →
      (Json.object (members.map Json.numberMember)).fields? fieldNames = some [attempts, delay] →
      AreCounts SpellsInJson attempts delay n d → SaysInJson (Json.writeNumbers members) n d :=
    fun hplain hfields hcounts =>
      ⟨_, _, _, Json.readText?_writeNumbers hplain, Json.fields?_eq_pair.mp hfields, hcounts⟩
  have hplain : ∀ m ∈ p.toJson, Json.isPlain m.1 = true := by
    simp only [toJson, List.forall_mem_cons]
    exact ⟨by decide, by decide, nofun⟩
  refine recovers_of_tells (fun _ _ => ofJsonText?_eq_some_iff) rfl (htells hplain ?_ hwhole)
    (htells (fun m hm => hplain m (List.mem_of_mem_filter hm)) ?_ hattempts)
    (htells (fun m hm => hplain m (List.mem_of_mem_filter hm)) ?_ hdelay)
  all_goals rfl

lemma recovers_yaml (hp : p.IsInMillis) : p.Recovers p.toYaml Yaml.write ofYamlText? := by
  have htells : ∀ {fields : List (String × Yaml.Value)} {attempts delay : Option Yaml.Node} {n d},
      fields ≠ [] → (∀ key ∈ Yaml.fieldKeys fields, Yaml.IsKey key) →
      Yaml.fieldDepth fields < Yaml.maxDepth →
      (∀ root, Yaml.Decoder.fields fieldNames root (Yaml.Value.record fields).node =
        some [attempts, delay]) →
      (∀ root, AreCounts (fun bound field k => Yaml.Decoder.natBelow bound root field = some k) attempts
        delay n d) →
      SaysInYaml (Yaml.write fields) n d :=
    fun hne hkeys hdepth hfields hcounts =>
      ⟨_, _, _, Yaml.read?_write hne hkeys hdepth, hfields _, hcounts _⟩
  have hcounts := fun root => areCounts_of_spells
    (fun bound field k => Yaml.Decoder.natBelow bound root field = some k)
    (fun k => (Yaml.Value.number k).node)
    (fun bound _ hk => Yaml.Decoder.natBelow_node root bound hk) hp
  have hkey : ∀ key ∈ ["max-attempts", "delay-ms"], Yaml.IsKey key := by decide +kernel
  have hdepth : 0 < Yaml.maxDepth := by decide
  have hattemptsKey : ∀ key ∈ ["max-attempts"], Yaml.IsKey key :=
    fun key h => hkey key (List.mem_cons.mpr (.inl (List.mem_singleton.mp h)))
  have hdelayKey : ∀ key ∈ ["delay-ms"], Yaml.IsKey key :=
    fun key h => hkey key (List.mem_cons_of_mem _ h)
  refine recovers_of_tells (fun _ _ => ofYamlText?_eq_some_iff) rfl
    (htells (List.cons_ne_nil _ _) hkey hdepth ?whole fun root => (hcounts root).1)
    (htells (List.cons_ne_nil _ _) hdelayKey hdepth ?withoutAttempts fun root => (hcounts root).2.1)
    (htells (List.cons_ne_nil _ _) hattemptsKey hdepth ?withoutDelay fun root => (hcounts root).2.2)
  case whole => exact fun root => Yaml.Decoder.fields_node root rfl (by decide)
  case withoutAttempts =>
    intro root
    show Yaml.Decoder.fields fieldNames root (Yaml.Value.record [("delay-ms", _)]).node = _
    rw [Yaml.Value.node]
    rfl
  case withoutDelay =>
    intro root
    show Yaml.Decoder.fields fieldNames root (Yaml.Value.record [("max-attempts", _)]).node = _
    rw [Yaml.Value.node]
    rfl

/-- Policies that are changed step by step. Whatever the steps were, there is at least one attempt. The
next step gives the attempts and the wait that it asks for; it fails if it asks for no attempts or for
nothing, and leaves the policy as it is. The policy is recovered from what is written of it in JSON and
in YAML, and so is one of its fields without the other; no milliseconds are lost. -/
theorem after_valid (steps : List Step) :
    1 ≤ (after steps).maxAttempts ∧
    (∀ step,
      (step.next? (after steps) = none ↔ ∀ n d, Asks (after steps) step n d → n = 0) ∧
      (step.next? (after steps) = none → after (steps ++ [step]) = after steps) ∧
      ∀ q, step.next? (after steps) = some q →
        after (steps ++ [step]) = q ∧ Asks (after steps) step q.maxAttempts q.delay) ∧
    (after steps).Recovers (after steps).toJson Json.writeNumbers ofJsonText? ∧
    (after steps).Recovers (after steps).toYaml Yaml.write ofYamlText? ∧
    (after steps).delay = .ofMillis (after steps).delayMs := by
  have hmillis := isInMillis_after steps
  refine ⟨(after steps).one_le_maxAttempts, fun step => ⟨step.next?_eq_none_iff, ?_, ?_⟩,
    recovers_json hmillis, recovers_yaml hmillis, hmillis.delay_eq⟩
  · intro h
    rw [after_append, h]
    rfl
  · intro q h
    refine ⟨?_, Step.next?_eq_some_iff.mp h⟩
    rw [after_append, h]
    rfl

/-- No attempts are asked for in vain, and the next step goes on from the policy there was. -/
theorem after_valid_three :
    after [.create 3 10, .withMaxAttempts 0] = after [.create 3 10] ∧
      after [.create 3 10, .withDelayMs 7] = ⟨3, .ofMillis 7, by decide⟩ := by
  obtain ⟨-, hstep, -⟩ := after_valid [.create 3 10]
  have hzero : ∀ n d, Asks (after [.create 3 10]) (.withMaxAttempts 0) n d → n = 0 := by
    rintro n d ⟨⟩
    rfl
  exact ⟨(hstep (.withMaxAttempts 0)).2.1 ((hstep _).1.mpr hzero),
    ((hstep (.withDelayMs 7)).2.2 ⟨3, .ofMillis 7, by decide⟩ rfl).1⟩

end Reindex.RetryPolicy
