import Acronyms.TextDocument

/-!
# Text documents built and rewritten in place

A text can be cut in one pass over its characters: a character extends the last piece if it
is of the kind of that piece, and begins a new piece otherwise.

The words of a document are numbered by counting the pieces that are not blank.  Replacing
words counts them a second time.  A replacement is taken out of the plan when its number
comes up, and it takes the place of the text of the piece; whether the piece is blank is not
asked again.
-/

set_option autoImplicit false

namespace Acronyms.TextDocument

/-! ## Building -/

/-- Put a character behind some pieces. -/
def pushChar (pieces : List Piece) (character : Char) : List Piece :=
  match pieces.getLast? with
  | none => [⟨String.singleton character, Text.isBlank character⟩]
  | some last =>
    if last.isBlank = Text.isBlank character then
      pieces.dropLast ++ [{ last with text := last.text.push character }]
    else pieces ++ [⟨String.singleton character, Text.isBlank character⟩]

/-- The document of a text, built character by character. -/
def scan (text : String) : TextDocument where
  pieces := text.toList.foldl pushChar []

/-! ## Rewriting -/

/-- The words of a document, each with its number. -/
def numberedWords (document : TextDocument) : List (Nat × String) :=
  (document.pieces.filter fun piece => !piece.isBlank).mapIdx fun number piece =>
    (number, piece.text)

/-- Put planned replacements in the place of the words of some pieces, the first of which has
the given number. -/
def takeWords : Replacements → Nat → List Piece → List Piece
  | _, _, [] => []
  | plan, number, piece :: rest =>
    if piece.isBlank then piece :: takeWords plan number rest
    else
      match plan.take number with
      | (some inline, left) =>
        { piece with text := inline.content } :: takeWords left (number + 1) rest
      | (none, left) => piece :: takeWords left (number + 1) rest

/-- Replace the words of a document for which a replacement is planned; without any the
document is left alone. -/
def rewrite (plan : Replacements) (document : TextDocument) : TextDocument :=
  if plan.isEmpty then document else ⟨takeWords plan 0 document.pieces⟩

end Acronyms.TextDocument
