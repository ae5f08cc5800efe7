import Mathlib.Tactic.Common
import Reindex.Instant

/-!
# The years of the calendar

The calendar is bounded by its first and its last second. These are where the first of its years begins
and where the last of them ends, so an instant is in the calendar if the year of its date is.
-/

namespace Reindex.Instant

/-- The year of an instant. -/
def year (t : Instant) : Int := (dateOfDays (t.seconds / 86400)).year

/-- An instant has a date, from the first year of the calendar to the last one. -/
def IsDated (t : Instant) : Prop := -262143 ≤ t.year ∧ t.year ≤ 262142

/-- The year that a day of a span of 400 years is in if years begin with March. -/
def yearFromMarch (day : Nat) : Nat := (day - day / 1460 + day / 36524 - day / 146096) / 365

/-- The year that a day of a span of 400 years is in. For the last two months from March on it is the
next one. -/
def yearInSpan (day : Nat) : Nat :=
  let y := yearFromMarch day
  let m := (5 * (day - (365 * y + y / 4 - y / 100)) + 2) / 153
  y + if (if m < 10 then m + 3 else m - 9) ≤ 2 then 1 else 0

lemma year_dateOfDays (days : Int) : (dateOfDays days).year =
    (days + 719468) / 146097 * 400 + yearInSpan ((days + 719468) % 146097).toNat := by
  unfold dateOfDays yearInSpan yearFromMarch
  dsimp only
  generalize ((days + 719468) % 146097).toNat = day
  split_ifs <;> omega

lemma yearInSpan_le {day : Nat} (h : day < 146097) : yearInSpan day ≤ 400 := by
  unfold yearInSpan yearFromMarch
  dsimp only
  split_ifs <;> omega

/-- A day of a span of 400 years is in the year 257 of the span or in a later one from the day 93808 on. The
year from March tells this, but for the days of one such year. -/
lemma le_yearInSpan_iff {day : Nat} (h : day < 146097) : 257 ≤ yearInSpan day ↔ 93808 ≤ day := by
  have hyear : yearFromMarch day = (day - day / 1460 + day / 36524 - day / 146096) / 365 := rfl
  unfold yearInSpan
  dsimp only
  rcases Nat.lt_trichotomy (yearFromMarch day) 256 with hlt | heq | hgt
  · split_ifs <;> omega
  · rw [heq] at hyear ⊢
    split_ifs <;> omega
  · split_ifs <;> omega

/-- A day of a span of 400 years is in the year 142 of the span or in an earlier one up to the day 52169. -/
lemma yearInSpan_le_iff {day : Nat} (h : day < 146097) : yearInSpan day ≤ 142 ↔ day ≤ 52169 := by
  have hyear : yearFromMarch day = (day - day / 1460 + day / 36524 - day / 146096) / 365 := rfl
  unfold yearInSpan
  dsimp only
  rcases Nat.lt_trichotomy (yearFromMarch day) 142 with hlt | heq | hgt
  · split_ifs <;> omega
  · rw [heq] at hyear ⊢
    split_ifs <;> omega
  · split_ifs <;> omega

/-- The first day of the calendar is the day 93808 of a span of 400 years, and the last one the day
52169 of another. -/
lemma isInCalendar_iff (t : Instant) : t.isInCalendar = true ↔ t.IsDated := by
  have hday : ((t.seconds / 86400 + 719468) % 146097).toNat < 146097 := by omega
  have hspan := yearInSpan_le hday
  have hfirst := le_yearInSpan_iff hday
  have hlast := yearInSpan_le_iff hday
  rw [isInCalendar, Bool.and_eq_true, decide_eq_true_eq, decide_eq_true_eq, firstSecond, lastSecond,
    IsDated, year, year_dateOfDays]
  omega

end Reindex.Instant
