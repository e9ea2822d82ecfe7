import HybridSearch.Text.Ranges

/-! Blank characters and the removal of blanks from the ends of a text. There are two sets: white
space proper, and the same with the four information separators U+001C to U+001F, which end lines
in some texts. -/

namespace HybridSearch.Text

def whiteRanges : Ranges :=
  [(0x09, 0x0D), (0x20, 0x20), (0x85, 0x85), (0xA0, 0xA0), (0x1680, 0x1680), (0x2000, 0x200A),
   (0x2028, 0x2029), (0x202F, 0x202F), (0x205F, 0x205F), (0x3000, 0x3000)]

def isWhite (character : Char) : Bool :=
  whiteRanges.contains character

/-- Whether a character is white space or an information separator. -/
def isBlank (character : Char) : Bool :=
  isWhite character || (0x1C ≤ character.toNat && character.toNat ≤ 0x1F)

/-- Removes the characters that satisfy `drop` from both ends. -/
def trimBoth (drop : Char → Bool) (characters : List Char) : List Char :=
  ((characters.dropWhile drop).reverse.dropWhile drop).reverse

def trimWhite (characters : List Char) : List Char :=
  trimBoth isWhite characters

def trimBlank (characters : List Char) : List Char :=
  trimBoth isBlank characters

def allBlank (text : String) : Bool :=
  text.toList.all isBlank

end HybridSearch.Text
