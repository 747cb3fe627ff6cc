import MarkupLint.Text.CodePoints

namespace MarkupLint

/-!
# White space

Indentation, blank lines and the borders of a line's content are all measured
in characters with the property `White_Space`.  A zero-width space, a byte order
mark and the information separators do not have it.
-/

/-- The code points with the property `White_Space`, in ascending order. -/
def whiteSpaceRanges : CodePointRanges :=
  [(0x9, 0xD), (0x20, 0x20), (0x85, 0x85), (0xA0, 0xA0), (0x1680, 0x1680), (0x2000, 0x200A),
   (0x2028, 0x2029), (0x202F, 0x202F), (0x205F, 0x205F), (0x3000, 0x3000)]

/-- Whether a character is white space. -/
def isWhiteSpace (character : Char) : Bool :=
  whiteSpaceRanges.contains character

/-- The text without its leading white space. -/
def trimStart (text : List Char) : List Char :=
  text.dropWhile isWhiteSpace

/-- The text without its trailing white space. -/
def trimEnd (text : List Char) : List Char :=
  (text.reverse.dropWhile isWhiteSpace).reverse

/-- The text without the white space around it. -/
def trim (text : List Char) : List Char :=
  trimEnd (trimStart text)

end MarkupLint
