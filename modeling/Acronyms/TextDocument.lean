import Acronyms.Document
import Acronyms.Text.Blank

/-!
# Plain text documents

A text is cut into pieces, the maximal runs of blank and of non-blank characters.
The non-blank pieces are its words.  Blank pieces are kept verbatim, so a text
whose words are left alone is written back unchanged.  A word that is replaced
stays one piece, whatever its replacement holds.
-/

set_option autoImplicit false

namespace Acronyms

/-- A run of characters that are all blank or all not. -/
structure Piece where
  text : String
  isBlank : Bool
  deriving DecidableEq, Repr

/-- A text cut into pieces. -/
structure TextDocument where
  pieces : List Piece
  deriving DecidableEq, Repr

namespace TextDocument

/-- Two characters belong to one piece if both are blank or neither is. -/
def sameKind (left right : Char) : Bool := Text.isBlank left == Text.isBlank right

/-- The piece of a run of characters of one kind. -/
def pieceOf (run : List Char) : Piece where
  text := String.ofList run
  isBlank := run.head?.any Text.isBlank

def ofText (text : String) : TextDocument where
  pieces := (text.toList.splitBy sameKind).map pieceOf

def toText (document : TextDocument) : String :=
  String.join (document.pieces.map Piece.text)

def words (document : TextDocument) : List String :=
  (document.pieces.filter fun piece => !piece.isBlank).map Piece.text

/-- Replace the words of a list of pieces, the first of which has the given
position. -/
def replaceWords (replacements : Replacements) : Nat → List Piece → List Piece
  | _, [] => []
  | position, piece :: rest =>
    if piece.isBlank then piece :: replaceWords replacements position rest
    else
      let text := ((replacements.get? position).map Inline.content).getD piece.text
      { piece with text } :: replaceWords replacements (position + 1) rest

instance : Document TextDocument where
  tokens := words
  apply replacements document := ⟨replaceWords replacements 0 document.pieces⟩

end TextDocument

end Acronyms
