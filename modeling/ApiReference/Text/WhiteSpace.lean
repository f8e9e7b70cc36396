import ApiReference.Text.Basic

/-! ## White space at the ends of a text -/

namespace ApiReference

/-- The characters with the Unicode property `White_Space`. -/
def whiteSpace : CodeRanges :=
  [(0x09, 0x0D), (0x20, 0x20), (0x85, 0x85), (0xA0, 0xA0), (0x1680, 0x1680),
    (0x2000, 0x200A), (0x2028, 0x2029), (0x202F, 0x202F), (0x205F, 0x205F),
    (0x3000, 0x3000)]

/-- White space in the sense of Unicode. Zero width characters and the byte
order mark are not white. -/
def isWhite (c : Char) : Bool :=
  whiteSpace.contains c

namespace Text

/-- A blank text holds nothing but white space. -/
def isBlank (text : Text) : Bool :=
  text.all isWhite

def trimStart (text : Text) : Text :=
  text.dropWhile isWhite

def trimEnd (text : Text) : Text :=
  (text.reverse.dropWhile isWhite).reverse

def trim (text : Text) : Text :=
  (text.trimStart).trimEnd

end Text

end ApiReference
