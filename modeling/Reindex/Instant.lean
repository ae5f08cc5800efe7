import Reindex.Span
import Reindex.Text.Numeral

/-!
# Instants

Points in time, counted in nanoseconds from the beginning of 1970, and how they are written. The
calendar reaches from the year -262143 to the year 262142.
-/

namespace Reindex

structure Instant where
  /-- Nanoseconds since the beginning of 1970. -/
  nanos : Int
  deriving DecidableEq, Repr

namespace Instant

open Text

def nanosPerSecond : Int := 1000000000

/-- The instant that many seconds after the beginning of 1970. -/
def ofSeconds (s : Int) : Instant := ⟨s * nanosPerSecond⟩

/-- Whole seconds since the beginning of 1970. -/
def seconds (t : Instant) : Int := t.nanos / nanosPerSecond

/-- The first second of the calendar. -/
def firstSecond : Int := -8334601228800

/-- The last second of the calendar. -/
def lastSecond : Int := 8210266876799

/-- The instant is in the calendar. -/
def isInCalendar (t : Instant) : Bool := firstSecond ≤ t.seconds && t.seconds ≤ lastSecond

/-- The instant that many seconds later, if it is in the calendar. -/
def addSeconds? (t : Instant) (s : Int) : Option Instant :=
  let later : Instant := ⟨t.nanos + s * nanosPerSecond⟩
  if later.isInCalendar then some later else none

/-- The instant that much later. -/
def add (t : Instant) (time : Span) : Instant := ⟨t.nanos + time.toNanos⟩

/-! ### The calendar -/

structure Date where
  /-- The year; the year before the year 1 is the year 0. -/
  year : Int
  month : Nat
  day : Nat

/-- The date that many days after the beginning of 1970. Years are counted from March, so that the
leap day is the last of its year, and in spans of 400 years, which all have the same length. -/
def dateOfDays (days : Int) : Date :=
  let z := days + 719468
  let era := z / 146097
  let dayOfEra := (z % 146097).toNat
  let yearOfEra := (dayOfEra - dayOfEra / 1460 + dayOfEra / 36524 - dayOfEra / 146096) / 365
  let dayOfYear := dayOfEra - (365 * yearOfEra + yearOfEra / 4 - yearOfEra / 100)
  let m := (5 * dayOfYear + 2) / 153
  let day := dayOfYear - (153 * m + 2) / 5 + 1
  let month := if m < 10 then m + 3 else m - 9
  let year := (yearOfEra : Int) + era * 400 + (if month ≤ 2 then 1 else 0)
  ⟨year, month, day⟩

/-- A year: four digits, or a sign and at least four where that is not enough. -/
def yearText (year : Int) : String :=
  if 0 ≤ year && year ≤ 9999 then padded 4 year.toNat
  else if year < 0 then "-" ++ padded 4 year.natAbs
  else "+" ++ padded 4 year.toNat

/-- The part of a second, in as many groups of three digits as it needs. -/
def fractionText (nanos : Nat) : String :=
  if nanos = 0 then ""
  else if nanos % 1000000 = 0 then "." ++ padded 3 (nanos / 1000000)
  else if nanos % 1000 = 0 then "." ++ padded 6 (nanos / 1000)
  else "." ++ padded 9 nanos

/-- Date and time, with something in between. -/
def dateTimeText (t : Instant) (between : String) : String :=
  let s := t.seconds
  let date := dateOfDays (s / 86400)
  let ofDay := (s % 86400).toNat
  yearText date.year ++ "-" ++ padded 2 date.month ++ "-" ++ padded 2 date.day ++ between ++
    padded 2 (ofDay / 3600) ++ ":" ++ padded 2 (ofDay / 60 % 60) ++ ":" ++ padded 2 (ofDay % 60) ++
    fractionText (t.nanos % nanosPerSecond).toNat

/-- What developers see of an instant. -/
def inspect (t : Instant) : String := t.dateTimeText "T" ++ "Z"

def text (t : Instant) : String := t.dateTimeText " " ++ " UTC"

end Instant

end Reindex
