/-!
# Blank characters

The code points with the Unicode property `White_Space`, and the two uses the project has for them:
trimming a text and telling whether it holds anything but blanks.
-/

namespace Reindex.Text

/-- The Unicode property `White_Space`. -/
def isBlankChar (c : Char) : Bool :=
  let n := c.toNat
  (0x09 ≤ n && n ≤ 0x0D) || n == 0x20 || n == 0x85 || n == 0xA0 || n == 0x1680 ||
    (0x2000 ≤ n && n ≤ 0x200A) || n == 0x2028 || n == 0x2029 || n == 0x202F || n == 0x205F ||
    n == 0x3000

/-- Drop the longest suffix whose characters all satisfy `p`. -/
def dropRightWhile (p : Char → Bool) (cs : List Char) : List Char :=
  (cs.reverse.dropWhile p).reverse

def trimStartList (cs : List Char) : List Char := cs.dropWhile isBlankChar

def trimEndList (cs : List Char) : List Char := dropRightWhile isBlankChar cs

def trimList (cs : List Char) : List Char := trimEndList (trimStartList cs)

/-- The text without the blanks around it. -/
def trim (s : String) : String := String.ofList (trimList s.toList)

/-- The text holds no character other than blanks; the empty text counts. -/
def isBlank (s : String) : Bool := s.toList.all isBlankChar

end Reindex.Text
