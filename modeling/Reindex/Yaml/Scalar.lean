import Reindex.Text.Numeral
import Reindex.Yaml.Token

/-!
# Scalars as written

The text of a scalar from its presentation. Plain and quoted scalars may run over several lines: a
single line break becomes a space, further breaks are kept, blanks around breaks vanish. Block
scalars keep their lines, less the indentation, and say in their header what becomes of the breaks
at their end.
-/

namespace Reindex.Yaml

open Reindex.Text

/-! ### Runs of blanks and breaks inside a scalar -/

/-- The blanks and breaks since the last character of a scalar. -/
structure Gap where
  /-- Blanks before any break, last first. -/
  blanks : List Char
  /-- A break has been seen, or a line was joined to the next by a backslash. -/
  broken : Bool
  /-- The first break; none behind a backslash. -/
  first : List Char
  further : List Char

def Gap.none : Gap := ⟨[], false, [], []⟩

/-- A line joined to the next by a backslash. -/
def Gap.joined : Gap := ⟨[], true, [], []⟩

/-- The gap with one more blank; blanks behind a break do not count. -/
def Gap.blank (g : Gap) (c : Char) : Gap :=
  if g.broken then g else { g with blanks := c :: g.blanks }

def Gap.break (g : Gap) (c : Char) : Gap :=
  if g.broken then { g with further := c :: g.further } else ⟨[], true, [c], []⟩

/-- What a gap contributes to the text, last first. -/
def Gap.text (g : Gap) : List Char :=
  if !g.broken then g.blanks
  else if g.first = ['\n'] then if g.further.isEmpty then [' '] else g.further
  else g.further ++ g.first

/-! ### Plain scalars -/

/-- A plain scalar ends before these characters. -/
def endsPlain (flow : Bool) (c : Char) (rest : List Char) : Bool :=
  (c = ':' && atBlank rest) ||
    (flow && (c = ',' || c = '[' || c = ']' || c = '\x7b' || c = '\x7d'))

/-- In a flow collection a colon in a plain scalar cannot be followed by an indicator. -/
def isStrayColon (flow : Bool) (c : Char) (rest : List Char) : Bool :=
  flow && c = ':' &&
    (match rest with
      | d :: _ => d = ',' || d = '?' || d = '[' || d = ']' || d = '\x7b' || d = '\x7d'
      | [] => false)

/-- What scanning a scalar yields: its text, what follows it, and whether it ended behind a line
break. -/
structure Scanned where
  text : List Char
  rest : List Char
  /-- The scan went over a line break after the last character. -/
  broken : Bool

/-- A plain scalar. `indent` is the least column of its further lines, `acc` the text so far with
its last character first, `column` the current column, which counts only behind a break, `fresh`
that a gap has just ended. -/
def plain? (flow : Bool) (indent : Nat) (acc : List Char) (g : Gap) (column : Nat) (fresh : Bool) :
    List Char → Option Scanned
  | [] => some ⟨acc.reverse, [], g.broken⟩
  | c :: rest =>
    if isBlank c then
      if g.broken && column < indent && c = '\t' then none
      else plain? flow indent acc (g.blank c) (column + 1) true rest
    else if isBreak c then plain? flow indent acc (g.break c) 0 true rest
    else if g.broken && !flow && column < indent then some ⟨acc.reverse, c :: rest, true⟩
    else if g.broken && column = 0 && atAnyMarker (c :: rest) then
      some ⟨acc.reverse, c :: rest, true⟩
    else if fresh && c = '#' then some ⟨acc.reverse, c :: rest, g.broken⟩
    else if isStrayColon flow c rest then none
    else if endsPlain flow c rest then some ⟨acc.reverse, c :: rest, g.broken⟩
    else plain? flow indent (c :: (g.text ++ acc)) .none (column + 1) false rest

/-! ### Quoted scalars -/

/-- A single-quoted scalar from behind its opening quote. `first` tells that the current line has
just begun. -/
def singleQuoted? (acc : List Char) (g : Gap) (first : Bool) : List Char → Option Scanned
  | [] => none
  | c :: rest =>
    if isBlank c then singleQuoted? acc (g.blank c) false rest
    else if isBreak c then singleQuoted? acc (g.break c) true rest
    else if first && atAnyMarker (c :: rest) then none
    else if c = '\'' then
      match rest with
      | '\'' :: more => singleQuoted? ('\'' :: (g.text ++ acc)) .none false more
      | _ => some ⟨(g.text ++ acc).reverse, rest, false⟩
    else singleQuoted? (c :: (g.text ++ acc)) .none false rest

/-- The character that a backslash and a letter stand for. -/
def letterEscape? (c : Char) : Option Char :=
  if c = '0' then some '\x00'
  else if c = 'a' then some '\x07'
  else if c = 'b' then some '\x08'
  else if c = 't' || c = '\t' then some '\t'
  else if c = 'n' then some '\n'
  else if c = 'v' then some '\x0b'
  else if c = 'f' then some '\x0c'
  else if c = 'r' then some '\r'
  else if c = 'e' then some '\x1b'
  else if c = ' ' || c = '"' || c = '/' || c = '\\' then some c
  else if c = 'N' then some '\u0085'
  else if c = '_' then some '\u00a0'
  else if c = 'L' then some '\u2028'
  else if c = 'P' then some '\u2029'
  else none

/-- The number of hexadecimal digits behind a backslash and a letter. -/
def escapeLength? (c : Char) : Option Nat :=
  if c = 'x' then some 2 else if c = 'u' then some 4 else if c = 'U' then some 8 else none

/-- The value of hexadecimal digits. -/
def hexValue? (acc : Nat) : List Char → Option Nat
  | [] => some acc
  | c :: rest =>
    match hexDigit? c with
    | some d => hexValue? (acc * 16 + d) rest
    | none => none

/-- The character with the given number, if there is one. -/
def charOf? (n : Nat) : Option Char := if n.isValidChar then some (Char.ofNat n) else none

/-- A double-quoted scalar from behind its opening quote. -/
def doubleQuoted? (acc : List Char) (g : Gap) (first : Bool) (cs : List Char) : Option Scanned :=
  match cs with
  | [] => none
  | c :: rest =>
    if isBlank c then doubleQuoted? acc (g.blank c) false rest
    else if isBreak c then doubleQuoted? acc (g.break c) true rest
    else if first && atAnyMarker (c :: rest) then none
    else if c = '"' then some ⟨(g.text ++ acc).reverse, rest, false⟩
    else if c = '\\' then
      match rest with
      | [] => none
      | e :: more =>
        if isBreak e then doubleQuoted? (g.text ++ acc) .joined true more
        else
          match escapeLength? e with
          | some n =>
            if more.length < n then none
            else
              match (hexValue? 0 (more.take n)).bind charOf? with
              | some d => doubleQuoted? (d :: (g.text ++ acc)) .none false (more.drop n)
              | none => none
          | none =>
            match letterEscape? e with
            | some d => doubleQuoted? (d :: (g.text ++ acc)) .none false more
            | none => none
    else doubleQuoted? (c :: (g.text ++ acc)) .none false rest
termination_by cs.length
decreasing_by all_goals (simp only [List.length_cons, List.length_drop]; omega)

/-! ### Block scalars -/

/-- What becomes of the breaks at the end of a block scalar. -/
inductive Chomping where
  | strip
  | clip
  | keep
  deriving DecidableEq, Repr

/-- The chomping that an indicator asks for. -/
def chomping? (c : Char) : Option Chomping :=
  if c = '-' then some .strip else if c = '+' then some .keep else none

/-- The header of a block scalar: chomping, the indentation if it is given, and the rest. -/
def blockHeader? (cs : List Char) : Option (Chomping × Option Nat × List Char) :=
  let step? (c : Char) : Option Nat := (digit? c).filter (· ≠ 0)
  match cs with
  | [] => some (.clip, none, [])
  | c :: rest =>
    match chomping? c with
    | some ch =>
      match rest with
      | d :: more =>
        if d.isDigit then (step? d).map fun n => (ch, some n, more) else some (ch, none, rest)
      | [] => some (ch, none, rest)
    | none =>
      if c.isDigit then
        (step? c).map fun n =>
          match rest with
          | d :: more =>
            match chomping? d with
            | some ch => (ch, some n, more)
            | none => (.clip, some n, rest)
          | [] => (.clip, some n, rest)
      else some (.clip, none, cs)

/-- Blanks and a comment up to the end of the line, and the line break; none if anything else
stands there. -/
def dropLineEnd? (cs : List Char) : Option (List Char) :=
  let cs := cs.dropWhile isBlank
  let cs := if cs.head? = some '#' then cs.dropWhile (!isBreak ·) else cs
  match cs with
  | [] => some []
  | c :: rest => if isBreak c then some rest else none

/-- A line and its break; the last line may have none. -/
abbrev Line := List Char × Option Char

def linesOf : List Char → List Line
  | [] => [([], none)]
  | c :: rest =>
    if isBreak c then ([], some c) :: linesOf rest
    else
      match linesOf rest with
      | (text, brk) :: more => (c :: text, brk) :: more
      | [] => [([c], none)]

def ofLines (ls : List Line) : List Char := ls.flatMap fun l => l.1 ++ l.2.toList

/-- The indentation of a block scalar whose header gives none: that of its first line that is not
empty, or that of the longest empty one before it, and at least `least`. A tab in its place is an
error. -/
def findIndent? (least : Nat) (longest : Nat) : List Line → Option Nat
  | [] => some (max longest least)
  | (text, brk) :: more =>
    let spaces := (text.takeWhile (· = ' ')).length
    let longest := max longest spaces
    match text.drop spaces with
    | [] => if brk.isNone then some (max longest least) else findIndent? least longest more
    | c :: _ => if c = '\t' then none else some (max longest least)

structure Block where
  text : List Char
  last : List Char
  /-- The empty lines behind it, last first. -/
  empties : List Char
  blank : Bool

/-- The block with one more line; a folded block joins lines by a space unless one of them begins
with a blank. -/
def Block.line (b : Block) (folded : Bool) (text : List Char) (brk : Option Char) : Block :=
  let blank := match text with
    | c :: _ => isBlank c
    | [] => false
  let joint :=
    if folded && b.last = ['\n'] && !b.blank && !blank then
      if b.empties.isEmpty then [' '] else b.empties
    else b.empties ++ b.last
  ⟨text.reverse ++ joint ++ b.text, brk.toList, [], blank⟩

/-- The lines of a block scalar, and the lines behind it. -/
def blockLines? (folded : Bool) (indent : Nat) (b : Block) : List Line → Option (Block × List Line)
  | [] => some (b, [])
  | (text, brk) :: more =>
    let spaces := min indent (text.takeWhile (· = ' ')).length
    match text.drop spaces with
    | [] =>
      match brk with
      | some c => blockLines? folded indent { b with empties := c :: b.empties } more
      | none => some (b, more)
    | c :: tail =>
      if spaces < indent then
        if c = '\t' then none else some (b, (text, brk) :: more)
      else blockLines? folded indent (b.line folded (c :: tail) brk) more

/-- A block scalar from behind its indicator; `parent` is the indentation of the block it is
in, if there is one. -/
def block? (folded : Bool) (parent : Option Nat) (cs : List Char) : Option Scanned := do
  let (chomping, step, cs) ← blockHeader? cs
  let cs ← dropLineEnd? cs
  let lines := linesOf cs
  let indent ← match step with
    | some n => some (parent.getD 0 + n)
    | none => findIndent? (match parent with
        | some p => p + 1
        | none => 1) 0 lines
  let (b, rest) ← blockLines? folded indent ⟨[], [], [], false⟩ lines
  let tail := match chomping with
    | .strip => []
    | .clip => b.last
    | .keep => b.empties ++ b.last
  return ⟨(tail ++ b.text).reverse, ofLines rest, true⟩

end Reindex.Yaml
