import Reindex.Text.Utf8
import Reindex.Url.Address
import Reindex.Url.Domain.Joining
import Reindex.Url.Domain.Mapping
import Reindex.Url.Domain.Mark
import Reindex.Url.Punycode

/-!
# Domain names

The ASCII form of a domain name: every character is replaced by what becomes of it, the text is
composed, each label with characters beyond ASCII is written in Punycode behind `xn--`, and a label
that already is in that form must be the form of some label.
-/

namespace Reindex.Url.Domain

open Reindex.Text

/-- The ASCII characters no domain name holds. -/
def isForbidden (c : Char) : Bool :=
  c.toNat ≤ 0x20 || c.toNat == 0x7F ||
    ['%', '#', '/', ':', '<', '>', '?', '@', '[', '\\', ']', '^', '|'].contains c

/-- All characters of the text are of ASCII. -/
def isAscii (cs : List Char) : Bool := cs.all (·.toNat < 0x80)

/-- The characters of a label are as they should be. -/
def isProper (label : List Char) : Bool :=
  isMapped label && compose label = label && !label.head?.any isMark && joinersFit [] label

/-- In front of labels in Punycode. -/
def acePrefix : List Char := ['x', 'n', '-', '-']

/-- The label that a mapped label stands for. -/
def inner? (label : List Char) : Option (List Char) :=
  if label.take 4 = acePrefix then
    (Punycode.decode? (label.drop 4)).filter fun inner => !isAscii inner && isProper inner
  else if isAscii label || isProper label then some label
  else none

def asciiLabel (inner : List Char) : List Char :=
  if isAscii inner then inner else acePrefix ++ Punycode.encode inner

/-- The ASCII form of a domain name given by octets. -/
def toAscii? (bytes : List UInt8) : Option (List Char) := do
  let cs ← Utf8.decodeList? bytes
  let labels ← (cutAt (· = '.') (compose (← mapChars cs))).mapM inner?
  let name := ['.'].intercalate (labels.map asciiLabel)
  if name.any isForbidden then none
  else if labels.any (·.any isRightward) && !labels.all isOrdered then none
  else some name

end Reindex.Url.Domain
