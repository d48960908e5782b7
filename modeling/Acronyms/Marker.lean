import Acronyms.Text.Alphanumeric

/-!
# Acronym markers

A marker is a word of a document that stands for an acronym.  Its written form is

    [A] ac [l|s|f] [p] [*] : identifier trailing

where the letters of the header may be of either case, the identifier is the
longest run of identifier characters after the colon, and whatever follows it is
carried along verbatim.  This module holds the parsed form and its canonical
written form; reading a word is the business of `Acronyms.Marker.Reading`.

A marker is well formed when its identifier is a non-empty run of identifier
characters and its trailing text does not continue that run.  Those are exactly
the markers a word can denote.
-/

set_option autoImplicit false

namespace Acronyms

/-- The form of an acronym that a marker asks for. -/
inductive Form where
  /-- Full on the first use, short afterwards. -/
  | auto
  /-- The abbreviation. -/
  | short
  /-- The spelled-out form. -/
  | long
  /-- The spelled-out form followed by the abbreviation in parentheses. -/
  | full
  deriving DecidableEq, Repr, Inhabited

namespace Form

/-- The letter that asks for a form, as a list of at most one character. -/
def letters : Form → List Char
  | auto => []
  | short => ['s']
  | long => ['l']
  | full => ['f']

/-- The form a header letter asks for; letters of either case count. -/
def ofLetter? (letter : Char) : Option Form :=
  match letter.toLower with
  | 'l' => some long
  | 's' => some short
  | 'f' => some full
  | _ => none

def suffix (form : Form) : String := String.ofList form.letters

end Form

/-- Whether a character may stand in an identifier. -/
def isIdentifierChar (character : Char) : Bool :=
  Text.isAlphanumeric character || character == '-' || character == '_'

/-- A parsed acronym marker. -/
structure Marker where
  identifier : String
  form : Form := .auto
  /-- Whether the rendered form is to be pluralized. -/
  plural : Bool := false
  /-- Whether the first character of the rendered form is to be uppercased. -/
  capitalize : Bool := false
  /-- Whether the occurrence counts as a use. -/
  counted : Bool := true
  /-- The text after the identifier, kept as it stands. -/
  trailing : String := ""
  deriving DecidableEq, Repr, Inhabited

namespace Marker

/-- The header of a marker in canonical spelling, up to and including the colon. -/
def header (marker : Marker) : List Char :=
  (if marker.capitalize then ['A'] else []) ++ ['a', 'c'] ++ marker.form.letters ++
    (if marker.plural then ['p'] else []) ++ (if marker.counted then [] else ['*']) ++ [':']

def toToken (marker : Marker) : String :=
  String.ofList marker.header ++ marker.identifier ++ marker.trailing

/-- The identifier is a non-empty run of identifier characters that the trailing
text does not continue. -/
def WellFormed (marker : Marker) : Prop :=
  marker.identifier.toList ≠ [] ∧
    (∀ character ∈ marker.identifier.toList, isIdentifierChar character = true) ∧
    ∀ character ∈ marker.trailing.toList.head?, isIdentifierChar character = false

end Marker

end Acronyms
