/-!
# A place in a YAML text

Indentation and keys in YAML depend on where a token stands, so reading keeps, with
the characters still to come, the line and the column that have been reached.  Five
characters end a line; a carriage return and a line feed together end one line.
-/

set_option autoImplicit false

namespace Acronyms.Yaml

/-! ## Character classes -/

def isBreak (character : Char) : Bool :=
  character == '\n' || character == '\r' || character == '\u0085' || character == '\u2028' ||
    character == '\u2029'

/-- Whether a character is a space or a tab. -/
def isBlank (character : Char) : Bool := character == ' ' || character == '\t'

/-- Whether a text is at its end or at a line break. -/
def atBreakOrEnd : List Char → Bool
  | [] => true
  | character :: _ => isBreak character

/-- Whether a text is at its end, at a blank or at a line break. -/
def atBlankOrEnd : List Char → Bool
  | [] => true
  | character :: _ => isBlank character || isBreak character

/-- Whether a character may stand in a YAML text at all. -/
def isPrintable (character : Char) : Bool :=
  let codePoint := character.toNat
  codePoint == 0x09 || codePoint == 0x0A || codePoint == 0x0D ||
    (0x20 ≤ codePoint && codePoint ≤ 0x7E) || codePoint == 0x85 ||
    (0xA0 ≤ codePoint && codePoint ≤ 0xFFFD && codePoint != 0xFEFF) || 0x10000 ≤ codePoint

/-- Whether a character may stand in the name of an anchor or of a tag handle. -/
def isNameChar (character : Char) : Bool :=
  character.isAlphanum || character == '-' || character == '_'

/-! ## Cursors -/

/-- A place in a text. -/
structure Cursor where
  rest : List Char
  index : Nat := 0
  line : Nat := 0
  /-- The number of characters behind on the line. -/
  column : Nat := 0
  deriving Repr

namespace Cursor

def head? (cursor : Cursor) : Option Char := cursor.rest.head?

/-- The place after some characters of the same line. -/
def skip (cursor : Cursor) (count : Nat) : Cursor where
  rest := cursor.rest.drop count
  index := cursor.index + count
  line := cursor.line
  column := cursor.column + count

/-- The place behind which only the given characters of the same line remain. -/
def skipTo (cursor : Cursor) (rest : List Char) : Cursor :=
  cursor.skip (cursor.rest.length - rest.length)

/-- The place at the start of the next line, and the line break as it is kept in a
text: a line feed, or one of the two separators themselves. -/
def skipLine (cursor : Cursor) : Cursor × List Char :=
  let next (count : Nat) : Cursor :=
    { rest := cursor.rest.drop count, index := cursor.index + count, line := cursor.line + 1 }
  match cursor.rest with
  | '\r' :: '\n' :: _ => (next 2, ['\n'])
  | '\u2028' :: _ => (next 1, ['\u2028'])
  | '\u2029' :: _ => (next 1, ['\u2029'])
  | character :: _ => if isBreak character then (next 1, ['\n']) else (cursor, [])
  | [] => (cursor, [])

/-- The place after the characters of a class on the same line. -/
def skipWhile (cursor : Cursor) (inClass : Char → Bool) : Cursor :=
  cursor.skip (cursor.rest.takeWhile inClass).length

/-- Whether a line with nothing but a document marker begins here. -/
def atMarker (cursor : Cursor) (mark : Char) : Bool :=
  match cursor.rest with
  | first :: second :: third :: rest =>
    cursor.column == 0 && first == mark && second == mark && third == mark && atBlankOrEnd rest
  | _ => false

def atDocumentMarker (cursor : Cursor) : Bool := cursor.atMarker '-' || cursor.atMarker '.'

end Cursor

end Acronyms.Yaml
