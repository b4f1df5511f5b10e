/-!
# White space

A character is blank iff it has the white space property of the Unicode standard. The twenty-five
blank characters are few enough to be listed.
-/

namespace Freshness.Text

/-- Whether a character is white space. -/
def isBlank (c : Char) : Bool :=
  let n := c.toNat
  (9 ≤ n && n ≤ 13) || n == 0x20 || n == 0x85 || n == 0xA0 || n == 0x1680
    || (0x2000 ≤ n && n ≤ 0x200A) || n == 0x2028 || n == 0x2029 || n == 0x202F || n == 0x205F
    || n == 0x3000

/-- The text without the white space at its start. -/
def trimStart (s : List Char) : List Char := s.dropWhile isBlank

/-- The text without the white space at both ends. -/
def trim (s : List Char) : List Char := (trimStart (trimStart s).reverse).reverse

end Freshness.Text
