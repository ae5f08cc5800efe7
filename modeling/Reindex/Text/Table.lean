import Reindex.Text.Numeral

/-!
# Tables of code points

A large table about characters is kept as a text of rows with blanks between them. A row names a
range of code points, in hexadecimal, as in `c0-d6`, or every second one of a range, as in
`100-12e/2`; a range of one is just its code point. Behind a colon a row may say something about its
code points, as numbers with periods between them.
-/

namespace Reindex.Text

/-- A row: some code points, and what is said about them. -/
structure Row where
  first : Nat
  last : Nat
  /-- How far it is from one to the next. -/
  step : Nat
  values : List Nat
  deriving DecidableEq, Repr

namespace Row

/-- What is before a character and what is behind it. -/
def cutAt (c : Char) (cs : List Char) : List Char × List Char :=
  (cs.takeWhile (· ≠ c), (cs.dropWhile (· ≠ c)).drop 1)

def number (cs : List Char) : Nat := cs.foldl (fun n c => 16 * n + (hexDigit? c).getD 0) 0

def read (cs : List Char) : Row :=
  let (place, values) := cutAt ':' cs
  let (range, step) := cutAt '/' place
  let (first, last) := cutAt '-' range
  ⟨number first, number (if last.isEmpty then first else last),
    if step.isEmpty then 1 else number step, ((values.splitOn '.').filter (· ≠ [])).map number⟩

/-- The row is about a code point. -/
def holds (r : Row) (n : Nat) : Bool := r.first ≤ n && n ≤ r.last && (n - r.first) % r.step == 0

end Row

abbrev Table := List Row

namespace Table

def read (text : String) : Table :=
  ((text.toList.splitOnP fun c => c = ' ' || c = '\n').filter (· ≠ [])).map Row.read

def row? (t : Table) (n : Nat) : Option Row := t.find? (·.holds n)

/-- Some row is about a code point. -/
def holds (t : Table) (n : Nat) : Bool := t.any (·.holds n)

end Table

end Reindex.Text
