/-!
# Blank characters

The blank characters are the twenty-five code points with the Unicode property
`White_Space`.  Words of a text document are separated by them, and a definitions
file is trimmed of them before it is read.
-/

set_option autoImplicit false

namespace Acronyms.Text

/-- Whether a character has the property `White_Space`. -/
def isBlank (character : Char) : Bool :=
  let codePoint := character.toNat
  (0x09 ≤ codePoint && codePoint ≤ 0x0D) || codePoint == 0x20 || codePoint == 0x85 ||
    codePoint == 0xA0 || codePoint == 0x1680 || (0x2000 ≤ codePoint && codePoint ≤ 0x200A) ||
    codePoint == 0x2028 || codePoint == 0x2029 || codePoint == 0x202F || codePoint == 0x205F ||
    codePoint == 0x3000

/-- A list of characters without the blanks at its two ends. -/
def trimBlanks (characters : List Char) : List Char :=
  ((characters.dropWhile isBlank).reverse.dropWhile isBlank).reverse

def isAllBlank (text : String) : Bool :=
  text.toList.all isBlank

end Acronyms.Text
