import Acronyms.Marker

/-!
# Reading a word as a marker

A word is a marker when it starts with a complete header.  The header is read in
two ways, in this order: an explicit capital `A` in front of the tag, or the tag
alone, whose own first letter then carries the capitalization.  Every optional
part is taken as soon as it can be, so a header is read in at most one way.

A word with a complete header and no identifier after it is malformed.  A word
that has the tag, a colon and an identifier, but letters in between that are no
suffix, is malformed too; every other word is ordinary text, so prose such as
`Accounts:` passes through.
-/

set_option autoImplicit false

namespace Acronyms

/-- Why a word that looks like a marker is none. -/
inductive MarkerFault where
  /-- No identifier follows the header. -/
  | missingIdentifier
  /-- The letters between the tag and the colon are no suffix. -/
  | invalidSuffix
  deriving DecidableEq, Repr

namespace MarkerFault

def reason : MarkerFault → String
  | missingIdentifier => "missing identifier"
  | invalidSuffix => "invalid suffix"

end MarkerFault

/-- A malformed marker: the word and what is wrong with it. -/
structure MarkerError where
  token : String
  fault : MarkerFault
  deriving DecidableEq, Repr

namespace MarkerError

def message (error : MarkerError) : String :=
  s!"Malformed acronym marker '{error.token}': {error.fault.reason}"

end MarkerError

namespace Marker

/-! ## The header -/

/-- What a header says, and the characters that follow its colon. -/
structure Header where
  capitalize : Bool
  form : Form
  plural : Bool
  counted : Bool
  rest : List Char
  deriving DecidableEq, Repr

/-- The characters after the tag `ac`, whose letters may be of either case. -/
def afterTag? : List Char → Option (List Char)
  | first :: second :: rest =>
    if first.toLower = 'a' ∧ second.toLower = 'c' then some rest else none
  | _ => none

/-- Take the letter of a form, if one comes next. -/
def takeForm : List Char → Form × List Char
  | [] => (.auto, [])
  | letter :: rest =>
    match Form.ofLetter? letter with
    | some form => (form, rest)
    | none => (.auto, letter :: rest)

/-- Take the plural letter, if it comes next. -/
def takePlural : List Char → Bool × List Char
  | [] => (false, [])
  | letter :: rest => if letter.toLower = 'p' then (true, rest) else (false, letter :: rest)

/-- Take the star of an uncounted marker, if it comes next; the flag says whether
the marker counts. -/
def takeStar : List Char → Bool × List Char
  | '*' :: rest => (false, rest)
  | characters => (true, characters)

/-- Read the suffix and the colon that come after the tag. -/
def suffix? (capitalize : Bool) (characters : List Char) : Option Header :=
  let (form, afterForm) := takeForm characters
  let (plural, afterPlural) := takePlural afterForm
  let (counted, afterStar) := takeStar afterPlural
  match afterStar with
  | ':' :: rest => some ⟨capitalize, form, plural, counted, rest⟩
  | _ => none

/-- The characters after an explicit capital in front of the tag. -/
def afterCapitalTag? : List Char → Option (List Char)
  | 'A' :: rest => afterTag? rest
  | _ => none

/-- The header of a word: the explicit capital is tried first, then the bare tag. -/
def header? (token : List Char) : Option Header :=
  ((afterCapitalTag? token).bind (suffix? true)).or
    ((afterTag? token).bind (suffix? (token.head? == some 'A')))

/-- Whether a word starts with a complete header. -/
def isMarker (token : String) : Bool := (header? token.toList).isSome

/-! ## The whole word -/

/-- A character that may stand in the letter run of a misspelled suffix. -/
def isSuffixChar (character : Char) : Bool := character.isAlpha || character == '*'

/-- Whether the characters after a tag are a run of suffix characters, a colon and
the beginning of an identifier. -/
def isMisspelled (afterTag : List Char) : Bool :=
  match afterTag.dropWhile (· != ':') with
  | ':' :: first :: _ => (afterTag.takeWhile (· != ':')).all isSuffixChar && isIdentifierChar first
  | _ => false

/-- Whether a word without a header is a marker with a misspelled suffix. -/
def hasInvalidSuffix (token : List Char) : Bool :=
  (afterCapitalTag? token).any isMisspelled || (afterTag? token).any isMisspelled

/-- The marker of a header whose rest starts with an identifier. -/
def ofHeader? (header : Header) : Option Marker :=
  if header.rest.takeWhile isIdentifierChar = [] then none
  else some {
    identifier := String.ofList (header.rest.takeWhile isIdentifierChar)
    form := header.form
    plural := header.plural
    capitalize := header.capitalize
    counted := header.counted
    trailing := String.ofList (header.rest.dropWhile isIdentifierChar) }

/-- Read a word: a marker, ordinary text (`none`), or a malformed marker. -/
def read? (token : String) : Except MarkerError (Option Marker) :=
  match header? token.toList with
  | none => if hasInvalidSuffix token.toList then .error ⟨token, .invalidSuffix⟩ else .ok none
  | some header =>
    match ofHeader? header with
    | some marker => .ok (some marker)
    | none => .error ⟨token, .missingIdentifier⟩

end Marker

end Acronyms
