/-!
# BucketVolume.Text.Blank — white space around a text

Blank characters are those with the white space property of the character database, which is wider
than the space, tab and line ends: the next-line control, the no-break space and the typographic
spaces belong to it, the zero-width space and the byte order mark do not.
-/

namespace BucketVolume.Text

/-- The white space property. -/
def isBlank (c : Char) : Bool :=
  let n := c.toNat
  (0x9 ≤ n && n ≤ 0xd) || n == 0x20 || n == 0x85 || n == 0xa0 || n == 0x1680 ||
    (0x2000 ≤ n && n ≤ 0x200a) || n == 0x2028 || n == 0x2029 || n == 0x202f || n == 0x205f ||
    n == 0x3000

/-- The text without the blanks at its end. -/
def trimEnd (cs : List Char) : List Char :=
  (cs.reverse.dropWhile isBlank).reverse

/-- The text without the blanks at either end. -/
def trim (cs : List Char) : List Char :=
  trimEnd (cs.dropWhile isBlank)

end BucketVolume.Text
