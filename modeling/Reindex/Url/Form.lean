import Reindex.Url.Percent
import Reindex.Url.Pieces

/-!
# Form encoding

Pairs of texts as `application/x-www-form-urlencoded`: letters, digits and `*-._` stand for
themselves, a space is `+`, every other octet is `%XX`; `=` joins a name to its value and `&` joins
the pairs. `decode` is the reader's view of such a text.
-/

namespace Reindex.Url.Form

open Reindex.Text

def isPlain (c : Char) : Bool := c.isAlphanum || ['*', '-', '.', '_'].contains c

/-- One character of a name or value. -/
def encodeChar (c : Char) : List Char :=
  if c = ' ' then ['+']
  else if isPlain c then [c]
  else (String.utf8EncodeChar c).flatMap Percent.escape

def encodeText (s : String) : List Char := s.toList.flatMap encodeChar

def encodePair (p : String × String) : List Char := encodeText p.1 ++ '=' :: encodeText p.2

def encodeList (ps : List (String × String)) : List Char :=
  ['&'].intercalate (ps.map encodePair)

/-- Pairs in their order, as a text. -/
def encode (ps : List (String × String)) : String := String.ofList (encodeList ps)

/-- The text that an encoded name or value stands for. -/
def decodeText (cs : List Char) : String :=
  Utf8.decodeLossy (Percent.decode (cs.map fun c => if c = '+' then ' ' else c))

/-- The pair of one part: what is before and behind the first `=`. -/
def decodePair (cs : List Char) : String × String :=
  (decodeText (cs.takeWhile (· ≠ '=')), decodeText ((cs.dropWhile (· ≠ '=')).drop 1))

/-- The pairs of a form-encoded text. Empty parts are skipped. -/
def decode (s : String) : List (String × String) :=
  ((cutAt (· = '&') s.toList).filter (· ≠ [])).map decodePair

end Reindex.Url.Form
