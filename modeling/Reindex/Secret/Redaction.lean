import Reindex.Text.Blank
import Reindex.Text.WordChar

/-!
# Redaction

Texts from outside may repeat secrets. Four kinds of passages are replaced before such a text is
shown: web tokens, bearer tokens, values behind the names of secrets, and long runs of Base64
characters. Each kind is replaced throughout the text before the next one is looked for. Capitals
and small letters are alike in the second and third kind.
-/

namespace Reindex.Redaction

open Text

/-- A passage that is to be replaced: its length and what takes its place. -/
structure Hit where
  /-- The number of characters, at least one. -/
  length : Nat
  replacement : List Char

/-- A kind of passage: given the character in front, the passage that begins here if one does. -/
abbrev Matcher := Option Char → List Char → Option Hit

/-- Replace every passage of a kind, from left to right. The first `skip` characters are part of a
passage that has been replaced already. -/
def replaceFrom (m : Matcher) : (skip : Nat) → (before : Option Char) → List Char → List Char
  | _, _, [] => []
  | skip + 1, _, c :: rest => replaceFrom m skip (some c) rest
  | 0, before, c :: rest =>
    match m before (c :: rest) with
    | some hit => hit.replacement ++ replaceFrom m (hit.length - 1) (some c) rest
    | none => c :: replaceFrom m 0 (some c) rest

/-- Replace every passage of a kind. -/
def replaceAll (m : Matcher) (cs : List Char) : List Char := replaceFrom m 0 none cs

/-! ### Characters -/

/-- A letter, a digit, a hyphen or an underscore. -/
def isTokenChar (c : Char) : Bool := c.isAlphanum || c = '-' || c = '_'

/-- The characters that are capital or small forms of one of the letters `k` and `s`. -/
def isLetterForm (c : Char) : Bool := c = '\u017F' || c = '\u212A'

/-- A character of a bearer token. -/
def isBearerChar (c : Char) : Bool :=
  c.isAlphanum || isLetterForm c || ['-', '.', '_', '~', '+', '/'].contains c

def isBase64Char (c : Char) : Bool := c.isAlphanum || c = '+' || c = '/'

/-- A character of the value behind the name of a secret. -/
def isValueChar (c : Char) : Bool := !isBlankChar c && !(['&', ',', ';'].contains c)

/-- A character is a form of a small letter or other character. -/
def isFormOf (small c : Char) : Bool :=
  c.toLower = small || (small = 's' && c = '\u017F') || (small = 'k' && c = '\u212A')

/-- No word reaches from the character in front to what begins here. -/
def isWordStart (before : Option Char) : Bool := !before.any isWordChar

/-- What is behind a word, whatever the case of its letters. -/
def behindWord? : (word : List Char) → List Char → Option (List Char)
  | [], cs => some cs
  | _ :: _, [] => none
  | w :: word, c :: rest => if isFormOf w c then behindWord? word rest else none

/-! ### The four kinds -/

/-- Web tokens: three parts with dots in between, of which the last may be empty. -/
def webToken : Matcher := fun _ cs =>
  match cs with
  | 'e' :: 'y' :: 'J' :: rest =>
    let head := rest.takeWhile isTokenChar
    match rest.dropWhile isTokenChar with
    | '.' :: rest =>
      let body := rest.takeWhile isTokenChar
      match rest.dropWhile isTokenChar with
      | '.' :: rest =>
        let signature := rest.takeWhile isTokenChar
        if head.isEmpty || body.isEmpty then none
        else some ⟨5 + head.length + body.length + signature.length, "[REDACTED_JWT]".toList⟩
      | _ => none
    | _ => none
  | _ => none

/-- Bearer tokens behind the word that announces them. -/
def bearer : Matcher := fun before cs =>
  if !isWordStart before then none
  else match behindWord? "bearer".toList cs with
    | none => none
    | some rest =>
      let gap := rest.takeWhile isBlankChar
      let rest := rest.dropWhile isBlankChar
      let token := rest.takeWhile isBearerChar
      let padding := (rest.dropWhile isBearerChar).takeWhile (· = '=')
      if gap.isEmpty || token.isEmpty then none
      else some ⟨6 + gap.length + token.length + padding.length, "Bearer [REDACTED]".toList⟩

def sensitiveWords : List String :=
  ["client_secret", "client_assertion", "access_token", "password", "secret", "token", "key"]

/-- A value behind a given name and an equals sign or a colon. -/
def valueOf (word : List Char) (cs : List Char) : Option Hit :=
  match behindWord? word cs with
  | none => none
  | some rest =>
    match rest.dropWhile isBlankChar with
    | sign :: afterSign =>
      if sign = '=' || sign = ':' then
        let value := (afterSign.dropWhile isBlankChar).takeWhile isValueChar
        let front := cs.length - (afterSign.dropWhile isBlankChar).length
        if value.isEmpty then none
        else some ⟨front + value.length, cs.take front ++ "[REDACTED]".toList⟩
      else none
    | [] => none

/-- Values behind the names of secrets. -/
def sensitivePair : Matcher := fun before cs =>
  if !isWordStart before then none
  else sensitiveWords.findSome? fun word => valueOf word.toList cs

/-- Runs of at least 48 characters of Base64. -/
def longBase64 : Matcher := fun _ cs =>
  let run := cs.takeWhile isBase64Char
  let padding := ((cs.dropWhile isBase64Char).takeWhile (· = '=')).take 2
  if run.length < 48 then none
  else some ⟨run.length + padding.length, "[REDACTED_BASE64]".toList⟩

/-- All kinds, in the order in which they are replaced. -/
def kinds : List Matcher := [webToken, bearer, sensitivePair, longBase64]

/-- Replace all that must not be seen. -/
def redactList (cs : List Char) : List Char := kinds.foldl (fun cs m => replaceAll m cs) cs

end Redaction

/-- The text without what must not be seen. -/
def redact (s : String) : String := String.ofList (Redaction.redactList s.toList)

end Reindex
