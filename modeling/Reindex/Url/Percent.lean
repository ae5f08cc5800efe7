import Reindex.Text.Utf8
import Reindex.Text.Numeral

/-!
# Percent encoding

A character outside the plain set of its place in a URL is written as `%XX` for each octet of its
UTF-8 form. Each place has its own set of ASCII characters to encode; characters beyond ASCII are
encoded everywhere. `decode` undoes the encoding, and leaves a `%` that begins no escape alone.
-/

namespace Reindex.Url.Percent

open Reindex.Text

/-! ### The sets -/

def control (c : Char) : Bool := c.toNat < 0x20 || c.toNat == 0x7F

def fragment (c : Char) : Bool := control c || [' ', '"', '<', '>', '\x60'].contains c

def query (c : Char) : Bool := control c || [' ', '"', '#', '<', '>'].contains c

/-- Encoded in the query of a URL with a special scheme. -/
def specialQuery (c : Char) : Bool := query c || c == '\''

def path (c : Char) : Bool := fragment c || ['#', '?', '\x7b', '\x7d'].contains c

/-- Encoded in a text that is to be one segment of a path. -/
def segment (c : Char) : Bool := path c || ['/', '%'].contains c

/-- Encoded in a text that is to be one segment of a path under a special scheme, where a backslash
separates segments too. -/
def specialSegment (c : Char) : Bool := segment c || c == '\\'

/-- Encoded in a user name or password. -/
def userinfo (c : Char) : Bool :=
  path c || ['/', ':', ';', '=', '@', '[', '\\', ']', '^', '|'].contains c

/-! ### Encoding and decoding -/

def escape (b : UInt8) : List Char :=
  ['%', upperHex (b.toNat / 16), upperHex (b.toNat % 16)]

/-- One character: plain, or its octets as `%XX`. -/
def encodeChar (set : Char → Bool) (c : Char) : List Char :=
  if 0x80 ≤ c.toNat || set c then (String.utf8EncodeChar c).flatMap escape else [c]

/-- A text with the characters of `set`, and those beyond ASCII, as `%XX`. -/
def encode (set : Char → Bool) (cs : List Char) : List Char := cs.flatMap (encodeChar set)

/-- The octets that a percent-encoded text stands for. -/
def decode : List Char → List UInt8
  | [] => []
  | '%' :: a :: b :: rest =>
    match hexDigit? a, hexDigit? b with
    | some x, some y => UInt8.ofNat (x * 16 + y) :: decode rest
    | _, _ => String.utf8EncodeChar '%' ++ decode (a :: b :: rest)
  | c :: rest => String.utf8EncodeChar c ++ decode rest

end Reindex.Url.Percent
