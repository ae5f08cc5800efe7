/-!
# Spans of time

A span of time is counted in whole seconds, which take up to 64 bits, and the nanoseconds behind them.
Where a number stands for a span, it counts milliseconds. There are multiples of a span that are too long to
be a span.
-/

namespace Reindex

/-- The sum, if it fits into 64 bits. -/
def add64? (a b : UInt64) : Option UInt64 :=
  if a.toNat + b.toNat < UInt64.size then some (a + b) else none

/-- The product, if it fits into 64 bits. -/
def mul64? (a b : UInt64) : Option UInt64 :=
  if a.toNat * b.toNat < UInt64.size then some (a * b) else none

theorem toNat_of_add64? {a b c : UInt64} (h : add64? a b = some c) :
    c.toNat = a.toNat + b.toNat := by
  simp only [add64?, Option.ite_none_right_eq_some, Option.some.injEq] at h
  obtain ⟨hfits, rfl⟩ := h
  rw [UInt64.toNat_add, Nat.mod_eq_of_lt hfits]

theorem toNat_of_mul64? {a b c : UInt64} (h : mul64? a b = some c) :
    c.toNat = a.toNat * b.toNat := by
  simp only [mul64?, Option.ite_none_right_eq_some, Option.some.injEq] at h
  obtain ⟨hfits, rfl⟩ := h
  rw [UInt64.toNat_mul, Nat.mod_eq_of_lt hfits]

theorem add64?_eq_none_iff {a b : UInt64} :
    add64? a b = none ↔ UInt64.size ≤ a.toNat + b.toNat := by
  simp [add64?]

theorem mul64?_eq_none_iff {a b : UInt64} :
    mul64? a b = none ↔ UInt64.size ≤ a.toNat * b.toNat := by
  simp [mul64?]

/-- The nanoseconds in a second. -/
def nanosInSecond : Nat := 1000000000

/-- A span of time: whole seconds, and the nanoseconds behind them. -/
structure Span where
  seconds : UInt64
  nanos : UInt32
  nanos_lt : nanos.toNat < nanosInSecond
  deriving DecidableEq, Repr

namespace Span

/-- The nanoseconds in a span. -/
def toNanos (s : Span) : Nat := s.seconds.toNat * nanosInSecond + s.nanos.toNat

/-- The whole milliseconds in a span. -/
def toNat (s : Span) : Nat := s.seconds.toNat * 1000 + s.nanos.toNat / 1000000

/-- The whole milliseconds in a span, as far as 64 bits hold them. -/
def millis (s : Span) : UInt64 := .ofNat s.toNat

theorem toNat_nanosOfMillis (ms : UInt64) :
    ((ms % 1000).toUInt32 * 1000000).toNat = ms.toNat % 1000 * 1000000 := by
  simp
  omega

/-- The span of so many milliseconds. -/
def ofMillis (ms : UInt64) : Span where
  seconds := ms / 1000
  nanos := (ms % 1000).toUInt32 * 1000000
  nanos_lt := by
    rw [toNat_nanosOfMillis, nanosInSecond]
    omega

instance : Coe UInt64 Span := ⟨ofMillis⟩

/-- No time at all. -/
instance : OfNat Span 0 := ⟨ofMillis 0⟩

theorem toNat_partOfSecond (n : UInt64) :
    (n % .ofNat nanosInSecond).toUInt32.toNat = n.toNat % nanosInSecond := by
  simp [nanosInSecond]
  omega

/-- A span that is so many times as long, if there is one. The nanoseconds are multiplied on their own,
and the whole seconds among them are added to the others. -/
def times? (s : Span) (n : UInt32) : Option Span := do
  let nanos := s.nanos.toUInt64 * n.toUInt64
  let seconds ← mul64? s.seconds n.toUInt64
  return {
    seconds := ← add64? seconds (nanos / .ofNat nanosInSecond)
    nanos := (nanos % .ofNat nanosInSecond).toUInt32
    nanos_lt := by
      rw [toNat_partOfSecond]
      exact Nat.mod_lt _ (by decide) }

/-! ### What spans amount to -/

/-- There is no longer span. -/
theorem toNanos_lt (s : Span) : s.toNanos < UInt64.size * nanosInSecond := by
  have hseconds := s.seconds.toNat_lt
  have hnanos := s.nanos_lt
  simp only [toNanos, nanosInSecond, UInt64.size] at *
  omega

theorem toNanos_injective {s t : Span} (h : s.toNanos = t.toNanos) : s = t := by
  have hs := s.nanos_lt
  have ht := t.nanos_lt
  simp only [toNanos, nanosInSecond] at *
  have hseconds : s.seconds = t.seconds := UInt64.toNat_inj.mp (by omega)
  have hnanos : s.nanos = t.nanos := UInt32.toNat_inj.mp (by omega)
  cases s
  cases t
  cases hseconds
  cases hnanos
  rfl

theorem toNanos_ofMillis (ms : UInt64) : (ofMillis ms).toNanos = ms.toNat * 1000000 := by
  simp only [toNanos, ofMillis, toNat_nanosOfMillis, UInt64.toNat_div, nanosInSecond]
  simp only [UInt64.reduceToNat]
  omega

@[simp] theorem toNanos_zero : (0 : Span).toNanos = 0 := rfl

theorem toNanos_eq_zero_iff {s : Span} : s.toNanos = 0 ↔ s = 0 :=
  ⟨fun h => toNanos_injective h, fun h => by rw [h]; rfl⟩

theorem toNat_eq (s : Span) : s.toNat = s.toNanos / 1000000 := by
  simp only [toNat, toNanos, nanosInSecond]
  omega

/-- The milliseconds of a span are those that it was made of. -/
theorem toNat_ofMillis (ms : UInt64) : (ofMillis ms).toNat = ms.toNat := by
  rw [toNat_eq, toNanos_ofMillis, Nat.mul_div_cancel _ (by decide)]

@[simp] theorem millis_ofMillis (ms : UInt64) : (ofMillis ms).millis = ms := by
  rw [millis, toNat_ofMillis, UInt64.ofNat_toNat]

/-- Less than a second, multiplied by 32 bits, fits into 64 bits. -/
theorem toNat_nanos_mul (s : Span) (n : UInt32) :
    (s.nanos.toUInt64 * n.toUInt64).toNat = s.nanos.toNat * n.toNat := by
  have hfits : s.nanos.toNat * n.toNat < 2 ^ 32 * 2 ^ 32 :=
    Nat.mul_lt_mul'' s.nanos.toNat_lt n.toNat_lt
  rw [UInt64.toNat_mul, UInt32.toNat_toUInt64, UInt32.toNat_toUInt64,
    Nat.mod_eq_of_lt (Nat.lt_of_lt_of_eq hfits (by decide))]

theorem toNanos_mul (s : Span) (n : UInt32) : s.toNanos * n.toNat =
    s.seconds.toNat * n.toNat * nanosInSecond + s.nanos.toNat * n.toNat := by
  rw [toNanos, Nat.add_mul, Nat.mul_right_comm]

theorem toNanos_of_times? {s t : Span} {n : UInt32} (h : s.times? n = some t) :
    t.toNanos = s.toNanos * n.toNat := by
  simp only [times?, Option.bind_eq_bind, Option.bind_eq_some_iff, Option.pure_def,
    Option.some.injEq] at h
  obtain ⟨product, hproduct, sum, hsum, rfl⟩ := h
  have hproduct := toNat_of_mul64? hproduct
  have hsum := toNat_of_add64? hsum
  rw [UInt64.toNat_div, toNat_nanos_mul] at hsum
  rw [toNanos_mul, toNanos, toNat_partOfSecond, toNat_nanos_mul, hsum, hproduct]
  simp only [UInt32.toNat_toUInt64, nanosInSecond, UInt64.reduceOfNat, UInt64.reduceToNat]
  omega

/-- Where there is no span that is so many times as long, none could be. -/
theorem le_of_times?_eq_none {s : Span} {n : UInt32} (h : s.times? n = none) :
    UInt64.size * nanosInSecond ≤ s.toNanos * n.toNat := by
  rw [toNanos_mul]
  simp only [times?, Option.bind_eq_bind, Option.bind_eq_none_iff] at h
  cases hproduct : mul64? s.seconds n.toUInt64 with
  | none =>
    rw [mul64?_eq_none_iff, UInt32.toNat_toUInt64] at hproduct
    exact Nat.le_trans (Nat.mul_le_mul_right _ hproduct) (Nat.le_add_right _ _)
  | some product =>
    cases hsum : add64? product (s.nanos.toUInt64 * n.toUInt64 / .ofNat nanosInSecond) with
    | none =>
      rw [add64?_eq_none_iff, UInt64.toNat_div, toNat_nanos_mul, toNat_of_mul64? hproduct,
        UInt32.toNat_toUInt64] at hsum
      simp only [nanosInSecond, UInt64.reduceOfNat, UInt64.reduceToNat] at *
      omega
    | some sum => cases h product hproduct sum hsum

end Span

end Reindex
