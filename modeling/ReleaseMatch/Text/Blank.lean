set_option autoImplicit false

/-!
# Blank characters

The characters that do not count when one asks whether a text has been filled in: the ASCII
controls that move the cursor, the four information separators, the spaces of Unicode and its two
separators of lines and paragraphs. The zero-width characters are not blank.
-/
namespace ReleaseMatch.Text

def isBlank (c : Char) : Bool :=
  let n := c.toNat
  (9 ≤ n && n ≤ 13) || (28 ≤ n && n ≤ 32) || n == 0x85 || n == 0xA0 || n == 0x1680
    || (0x2000 ≤ n && n ≤ 0x200A) || n == 0x2028 || n == 0x2029 || n == 0x202F || n == 0x205F
    || n == 0x3000

def trimEnd (cs : List Char) : List Char :=
  (cs.reverse.dropWhile isBlank).reverse

def trim (cs : List Char) : List Char :=
  trimEnd (cs.dropWhile isBlank)

def blank (s : String) : Bool :=
  s.toList.all isBlank

end ReleaseMatch.Text
