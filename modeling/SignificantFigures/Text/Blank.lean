import SignificantFigures.Text.Ranges

/-!
Blank characters: the white space of Unicode and the four separators U+001C to U+001F.
-/

set_option autoImplicit false

namespace SignificantFigures.Text

def blanks : Ranges :=
  [(0x9, 0xD), (0x1C, 0x20), (0x85, 0x85), (0xA0, 0xA0), (0x1680, 0x1680), (0x2000, 0x200A),
   (0x2028, 0x2029), (0x202F, 0x202F), (0x205F, 0x205F), (0x3000, 0x3000)]

def isBlank (c : Char) : Bool :=
  blanks.contains c

def withoutBlanks (text : List Char) : List Char :=
  text.filter fun c => !isBlank c

end SignificantFigures.Text
