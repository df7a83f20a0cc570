/-!
# Selenese.Text.Blank

White space: `isBlank` is the property of Unicode, `trim` takes it off both ends of a text.
-/

namespace Selenese.Text

def isBlank (c : Char) : Bool :=
  let n := c.toNat
  (0x9 ≤ n && n ≤ 0xd) || n == 0x20 || n == 0x85 || n == 0xa0 || n == 0x1680 ||
    (0x2000 ≤ n && n ≤ 0x200a) || n == 0x2028 || n == 0x2029 || n == 0x202f || n == 0x205f || n == 0x3000

def trimLeft (l : List Char) : List Char := l.dropWhile isBlank

def trim (s : String) : String :=
  String.ofList (trimLeft (trimLeft s.toList).reverse).reverse

/-- A text of nothing but white space. -/
def allBlank (s : String) : Bool := s.toList.all isBlank

end Selenese.Text
