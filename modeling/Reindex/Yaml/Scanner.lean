import Reindex.Yaml.Scalar

/-!
# Scanning YAML

From a text to tokens. The scanner keeps the position, the indentation of the blocks that are open,
the number of flow collections that are open, and for each of those the place where a key could have
begun: whether something was a key is known only at the colon behind it, and the tokens that
announce the key are then put in front of it.
-/

namespace Reindex.Yaml

open Reindex.Text

structure Place where
  /-- The number of characters before it. -/
  index : Nat
  line : Nat
  /-- The number of characters before it on its line. -/
  column : Nat
  deriving DecidableEq, Repr

def Place.next (p : Place) (c : Char) : Place :=
  if isBreak c then ⟨p.index + 1, p.line + 1, 0⟩ else ⟨p.index + 1, p.line, p.column + 1⟩

/-- A place where a key may have begun. -/
structure KeyStart where
  /-- There must be a key here, since the block has no other entry at this place. -/
  required : Bool
  token : Nat
  place : Place
  deriving DecidableEq, Repr

/-- The scanner between two tokens. -/
structure Scanner where
  rest : List Char
  place : Place
  /-- The columns of the open blocks, innermost first. -/
  indents : List Nat
  /-- For each open flow collection, innermost first, and at the end for the blocks around them: the
  place where a key may have begun. -/
  keys : List (Option KeyStart)
  keyAllowed : Bool
  tokens : Array Token

namespace Scanner

/-- The scanner at the start of a text. -/
def start (cs : List Char) : Scanner := ⟨cs, ⟨0, 0, 0⟩, [], [none], true, #[]⟩

/-- The place is inside a flow collection. -/
def inFlow (s : Scanner) : Bool := 1 < s.keys.length

/-- Move behind the first `n` characters. -/
def skip (s : Scanner) (n : Nat) : Scanner :=
  { s with rest := s.rest.drop n, place := (s.rest.take n).foldl Place.next s.place }

/-- Move to where only `rest` is still to come. -/
def moveTo (s : Scanner) (rest : List Char) : Scanner := s.skip (s.rest.length - rest.length)

def push (s : Scanner) (t : Token) : Scanner := { s with tokens := s.tokens.push t }

/-! ### Keys -/

/-- A key begun at `k` cannot extend to the place `p`: it has to be on one line and no longer than
1024 characters. -/
def KeyStart.isStale (k : KeyStart) (p : Place) : Bool :=
  k.place.line < p.line || k.place.index + 1024 < p.index

/-- Forget the places of keys that cannot extend to here; none if one of them was required. -/
def dropStale? (s : Scanner) : Option Scanner :=
  let stale (k : Option KeyStart) : Bool := k.any (KeyStart.isStale · s.place)
  if s.keys.any fun k => stale k && k.any (·.required) then none
  else some { s with keys := s.keys.map fun k => if stale k then none else k }

/-- Forget the place of the current key; none if it was required. -/
def dropKey? (s : Scanner) : Option Scanner :=
  match s.keys with
  | some k :: more => if k.required then none else some { s with keys := none :: more }
  | _ => some s

/-- Note that a key may begin here, if one is allowed. -/
def saveKey? (s : Scanner) : Option Scanner :=
  if s.keyAllowed then do
    let required := !s.inFlow && s.indents.head? = some s.place.column
    let s ← s.dropKey?
    return { s with keys := some ⟨required, s.tokens.size, s.place⟩ :: s.keys.drop 1 }
  else some s

/-! ### Indentation -/

/-- Close the blocks whose column is beyond `column`; `none` closes all. -/
def unroll (s : Scanner) (column : Option Nat) : Scanner :=
  if s.inFlow then s
  else
    let closing := s.indents.takeWhile fun i => column.all (· < i)
    { s with
      indents := s.indents.drop closing.length
      tokens := s.tokens ++ (closing.map fun _ => Token.blockEnd).toArray }

/-- Open a block at `column` unless one is open there; its start goes in front of token `index`. -/
def roll (s : Scanner) (column : Nat) (index : Nat) (start : Token) : Scanner :=
  if s.inFlow || s.indents.head?.any (column ≤ ·) then s
  else
    { s with
      indents := column :: s.indents
      tokens := s.tokens.insertIdxIfInBounds index start }

/-! ### Between tokens -/

/-- Move over blanks, comments and line breaks. Tabs count as blanks only where no key can
begin. -/
def toNext (s : Scanner) : Scanner :=
  go s.inFlow s.keyAllowed s.place s.rest s
where
  /-- The same, with the changing parts of the scanner apart. -/
  go (flow keyAllowed : Bool) (p : Place) (cs : List Char) (s : Scanner) : Scanner :=
    match cs with
    | [] => { s with rest := [], place := p, keyAllowed := keyAllowed }
    | c :: rest =>
      if c = ' ' || (c = '\t' && (flow || !keyAllowed)) || (c = '\uFEFF' && p.column = 0) then
        go flow keyAllowed (p.next c) rest s
      else if c = '#' then comment flow keyAllowed p (c :: rest) s
      else if isBreak c then go flow (keyAllowed || !flow) (p.next c) rest s
      else { s with rest := c :: rest, place := p, keyAllowed := keyAllowed }
  comment (flow keyAllowed : Bool) (p : Place) (cs : List Char) (s : Scanner) : Scanner :=
    match cs with
    | [] => { s with rest := [], place := p, keyAllowed := keyAllowed }
    | c :: rest =>
      if isBreak c then go flow (keyAllowed || !flow) (p.next c) rest s
      else comment flow keyAllowed (p.next c) rest s

/-! ### Directives -/

def version? (cs : List Char) : Option (Token × List Char) := do
  let number? (cs : List Char) : Option (Nat × List Char) := do
    let run := cs.takeWhile Char.isDigit
    if run.length > 9 then none
    else return (← digits? run, cs.dropWhile Char.isDigit)
  let (major, cs) ← number? (cs.dropWhile isBlank)
  match cs with
  | '.' :: cs =>
    let (minor, cs) ← number? cs
    return (.versionDirective major minor, cs)
  | _ => none

/-- A handle of tags: an exclamation mark, name characters, and an exclamation mark unless there
are no name characters or `strict` is off. -/
def tagHandle? (strict : Bool) (cs : List Char) : Option (List Char × List Char) :=
  match cs with
  | '!' :: rest =>
    let name := rest.takeWhile isNameChar
    match rest.dropWhile isNameChar with
    | '!' :: more => some ('!' :: name ++ ['!'], more)
    | more => if strict && !name.isEmpty then none else some ('!' :: name, more)
  | _ => none

/-- A character of tags. Inside angle brackets a comma and brackets are such, too. -/
def isTagChar (verbatim : Bool) (c : Char) : Bool :=
  isNameChar c ||
    [';', '/', '?', ':', '@', '&', '=', '+', '$', '.', '!', '~', '*', '\'', '(', ')'].contains c ||
    (verbatim && (c = ',' || c = '[' || c = ']'))

/-- Octets written as `%XX`, which together must be a character. -/
def tagEscape? (cs : List Char) : Option (Char × List Char) :=
  let octet? (cs : List Char) : Option (Nat × List Char) :=
    match cs with
    | '%' :: a :: b :: rest =>
      match hexDigit? a, hexDigit? b with
      | some x, some y => some (x * 16 + y, rest)
      | _, _ => none
    | _ => none
  let tail? (acc : Nat) (cs : List Char) : Option (Nat × List Char) := do
    let (n, rest) ← octet? cs
    if 0x80 ≤ n ∧ n < 0xC0 then return (acc * 64 + (n - 0x80), rest) else none
  do
    let (n, cs) ← octet? cs
    if n < 0x80 then return (Char.ofNat n, cs)
    else if 0xC0 ≤ n ∧ n < 0xE0 then
      let (n, cs) ← tail? (n - 0xC0) cs
      return (← charOf? n, cs)
    else if 0xE0 ≤ n ∧ n < 0xF0 then
      let (n, cs) ← tail? (n - 0xE0) cs
      let (n, cs) ← tail? n cs
      return (← charOf? n, cs)
    else if 0xF0 ≤ n ∧ n < 0xF8 then
      let (n, cs) ← tail? (n - 0xF0) cs
      let (n, cs) ← tail? n cs
      let (n, cs) ← tail? n cs
      return (← charOf? n, cs)
    else none

/-- The longest text of tag characters; the fuel is the length of the text. -/
def tagText? (verbatim : Bool) : Nat → List Char → Option (List Char × List Char)
  | 0, cs => some ([], cs)
  | fuel + 1, cs =>
    match cs with
    | [] => some ([], [])
    | c :: rest =>
      if c = '%' then do
        let (d, rest) ← tagEscape? cs
        let (text, rest) ← tagText? verbatim fuel rest
        return (d :: text, rest)
      else if isTagChar verbatim c then do
        let (text, rest) ← tagText? verbatim fuel rest
        return (c :: text, rest)
      else some ([], cs)

/-- A text of tag characters that is not empty. -/
def tagRest? (verbatim : Bool) (cs : List Char) : Option (List Char × List Char) := do
  let (text, rest) ← tagText? verbatim cs.length cs
  if text.isEmpty then none else return (text, rest)

/-- The handle and prefix behind `%TAG`. -/
def tagDirective? (cs : List Char) : Option (Token × List Char) := do
  let (handle, cs) ← tagHandle? true (cs.dropWhile isBlank)
  match cs with
  | c :: _ =>
    if isBlank c then
      let (meaning, cs) ← tagRest? true (cs.dropWhile isBlank)
      if atBlank cs then return (.tagDirective handle meaning, cs) else none
    else none
  | [] => none

/-- A directive from behind its percent sign. -/
def directive? (cs : List Char) : Option (Token × List Char) := do
  let name := cs.takeWhile isNameChar
  let cs := cs.dropWhile isNameChar
  if !atBlank cs then none
  else
    let (t, cs) ← if name = "YAML".toList then version? cs
      else if name = "TAG".toList then tagDirective? cs
      else none
    return (t, ← dropLineEnd? cs)

/-! ### Single tokens -/

/-- A token of one character that is no part of a key. -/
def mark (s : Scanner) (t : Token) (keyAllowed : Bool) : Option Scanner := do
  let s ← s.dropKey?
  return { s.skip 1 with keyAllowed := keyAllowed } |>.push t

def document? (s : Scanner) (t : Token) : Option Scanner := do
  let s ← (s.unroll none).dropKey?
  return { s.skip 3 with keyAllowed := false } |>.push t

/-- The start of a flow collection. -/
def openFlow? (s : Scanner) (t : Token) : Option Scanner := do
  let s ← s.saveKey?
  return { s.skip 1 with keys := none :: s.keys, keyAllowed := true } |>.push t

def closeFlow? (s : Scanner) (t : Token) : Option Scanner := do
  let s ← s.dropKey?
  let keys := if s.inFlow then s.keys.drop 1 else s.keys
  return { s.skip 1 with keys := keys, keyAllowed := false } |>.push t

def blockEntry? (s : Scanner) : Option Scanner :=
  if s.inFlow then s.mark .blockEntry true
  else if !s.keyAllowed then none
  else (s.roll s.place.column s.tokens.size .blockSequenceStart).mark .blockEntry true

def key? (s : Scanner) : Option Scanner :=
  if s.inFlow then s.mark .key false
  else if !s.keyAllowed then none
  else (s.roll s.place.column s.tokens.size .blockMappingStart).mark .key true

def value? (s : Scanner) : Option Scanner :=
  match s.keys with
  | some k :: more =>
    let s := { s with tokens := s.tokens.insertIdxIfInBounds k.token .key, keys := none :: more }
    let s := s.roll k.place.column k.token .blockMappingStart
    some ({ s.skip 1 with keyAllowed := false }.push .value)
  | _ =>
    if s.inFlow then some ({ s.skip 1 with keyAllowed := false }.push .value)
    else if !s.keyAllowed then none
    else
      let s := s.roll s.place.column s.tokens.size .blockMappingStart
      some ({ s.skip 1 with keyAllowed := true }.push .value)

def name? (s : Scanner) (token : List Char → Token) : Option Scanner := do
  let s ← s.saveKey?
  let cs := s.rest.drop 1
  let name := cs.takeWhile isNameChar
  let rest := cs.dropWhile isNameChar
  let ends := atBlank rest ||
    (match rest with
      | c :: _ => ['?', ':', ',', ']', '\x7d', '%', '@', '\x60'].contains c
      | [] => true)
  if name.isEmpty || !ends then none
  else return { s.moveTo rest with keyAllowed := false } |>.push (token name)

def tagParts? (cs : List Char) : Option (Token × List Char) :=
  match cs with
  | '!' :: '<' :: cs => do
    let (text, cs) ← tagRest? true cs
    match cs with
    | '>' :: cs => return (.tag [] text, cs)
    | _ => none
  | _ => do
    let (handle, cs) ← tagHandle? false cs
    if 2 ≤ handle.length && handle.getLast? = some '!' then
      let (text, cs) ← tagRest? false cs
      return (.tag handle text, cs)
    else
      let (text, cs) ← tagText? false cs.length cs
      let text := handle.drop 1 ++ text
      return (if text.isEmpty then .tag [] ['!'] else .tag ['!'] text, cs)

def tag? (s : Scanner) : Option Scanner := do
  let s ← s.saveKey?
  let (t, rest) ← tagParts? s.rest
  let ends := atBlank rest || (s.inFlow && rest.head? = some ',')
  if ends then return { s.moveTo rest with keyAllowed := false } |>.push t else none

def scalar? (s : Scanner) (plain : Bool) (scan : Scanner → Option Scanned) : Option Scanner := do
  let s ← s.saveKey?
  let r ← scan s
  return { s.moveTo r.rest with keyAllowed := r.broken } |>.push (.scalar r.text plain)

def blockScalar? (s : Scanner) (folded : Bool) : Option Scanner := do
  let s ← s.dropKey?
  let r ← block? folded s.indents.head? (s.rest.drop 1)
  return { s.moveTo r.rest with keyAllowed := true } |>.push (.scalar r.text false)

/-- The least column of the further lines of a plain scalar. -/
def plainIndent (s : Scanner) : Nat :=
  match s.indents with
  | i :: _ => i + 1
  | [] => 0

/-- A character that begins no plain scalar, wherever it stands. -/
def isIndicator (c : Char) : Bool :=
  ['-', '?', ':', ',', '[', ']', '\x7b', '\x7d', '#', '&', '*', '!', '|', '>', '\'', '"', '%', '@',
    '\x60'].contains c

/-- A plain scalar may begin with `c` before `rest`. -/
def beginsPlain (flow : Bool) (c : Char) (rest : List Char) : Bool :=
  !(isBlank c || isIndicator c) ||
    (c = '-' && !(match rest with
      | d :: _ => isBlank d
      | [] => false)) ||
    (!flow && (c = '?' || c = ':') && !atBlank rest)

/-- The next token, from character `c` on, which is no blank and no break. -/
def token? (s : Scanner) (c : Char) (rest : List Char) : Option Scanner :=
  let first := s.place.column = 0
  if first && c = '%' then do
    let s ← (s.unroll none).dropKey?
    let (t, rest) ← directive? rest
    return { s.moveTo rest with keyAllowed := false } |>.push t
  else if first && atMarker '-' (c :: rest) then s.document? .documentStart
  else if first && atMarker '.' (c :: rest) then s.document? .documentEnd
  else if c = '[' then s.openFlow? .flowSequenceStart
  else if c = '\x7b' then s.openFlow? .flowMappingStart
  else if c = ']' then s.closeFlow? .flowSequenceEnd
  else if c = '\x7d' then s.closeFlow? .flowMappingEnd
  else if c = ',' then s.mark .flowEntry true
  else if c = '-' && atBlank rest then s.blockEntry?
  else if c = '?' && (s.inFlow || atBlank rest) then s.key?
  else if c = ':' && (s.inFlow || atBlank rest) then s.value?
  else if c = '*' then s.name? .alias
  else if c = '&' then s.name? .anchor
  else if c = '!' then s.tag?
  else if c = '|' && !s.inFlow then s.blockScalar? false
  else if c = '>' && !s.inFlow then s.blockScalar? true
  else if c = '\'' then s.scalar? false fun s => singleQuoted? [] .none false (s.rest.drop 1)
  else if c = '"' then s.scalar? false fun s => doubleQuoted? [] .none false (s.rest.drop 1)
  else if beginsPlain s.inFlow c rest then
    s.scalar? true fun s => plain? s.inFlow s.plainIndent [] .none s.place.column false s.rest
  else none

/-- Scan on to the end of the text; each token takes at least one character. -/
def finish? (s : Scanner) : Nat → Option (Array Token)
  | 0 => none
  | fuel + 1 => do
    let s ← s.toNext.dropStale?
    let s := s.unroll (some s.place.column)
    match s.rest with
    | [] =>
      let s ← (s.unroll none).dropKey?
      return s.tokens
    | c :: rest => (← s.token? c rest).finish? fuel

end Scanner

def tokens? (cs : List Char) : Option (List Token) :=
  if cs.all isAllowed then
    let cs := normalLines cs
    ((Scanner.start cs).finish? (cs.length + 1)).map Array.toList
  else none

end Reindex.Yaml
