import Acronyms.Acronym
import Acronyms.Document
import Acronyms.Marker
import Acronyms.Text.Uppercase

/-!
# Rendering one occurrence

There are two output modes.  Plain output is the resolved text of the acronym:
the short form, the long form, or `long (short)`.  LaTeX output is a macro call
that names the acronym and repeats the marker's wishes, so that the typesetting
package resolves it; it needs no definition and never fails.
-/

set_option autoImplicit false

namespace Acronyms

/-- The kind of output. -/
inductive OutputMode where
  /-- Resolved text. -/
  | plain
  /-- Macro calls for the typesetting package. -/
  | latex
  deriving DecidableEq, Repr, Inhabited

/-- The form chosen for an occurrence. -/
inductive Variant where
  | short
  | long
  | full
  deriving DecidableEq, Repr

/-! ## Plain output -/

namespace Plain

/-- The spelled-out form followed by the abbreviation in parentheses. -/
def fullForm (long short : String) : String := long ++ " (" ++ short ++ ")"

def variantText (acronym : Acronym) (variant : Variant) (inPlural : Bool)
    (defaultEnding : String) : Except PluralError String :=
  match variant with
  | .short => acronym.renderPart .short inPlural defaultEnding
  | .long => acronym.renderPart .long inPlural defaultEnding
  | .full => do
    let long ← acronym.renderPart .long inPlural defaultEnding
    let short ← acronym.renderPart .short inPlural defaultEnding
    return fullForm long short

/-- The text of an occurrence, without the trailing text of the marker. -/
def render (marker : Marker) (acronym : Acronym) (variant : Variant) (defaultEnding : String) :
    Except PluralError String :=
  (variantText acronym variant marker.plural defaultEnding).map fun text =>
    if marker.capitalize then Text.capitalize text else text

end Plain

/-! ## LaTeX output -/

namespace Latex

def argument (value : String) : List Char := '{' :: value.toList ++ ['}']

/-- The name of the macro that a marker calls. -/
def macroName (marker : Marker) : List Char :=
  (if marker.capitalize then ['A'] else ['a']) ++ ['c'] ++ marker.form.letters ++
    (if marker.plural then ['p'] else []) ++ (if marker.counted then [] else ['*'])

/-- The macro call of an occurrence, without the trailing text of the marker. -/
def render (marker : Marker) : String :=
  String.ofList ('\\' :: macroName marker ++ argument marker.identifier)

end Latex

/-! ## Both modes -/

namespace OutputMode

/-- The output of an occurrence, without the trailing text of the marker. -/
def render (mode : OutputMode) (marker : Marker) (acronym : Acronym) (variant : Variant)
    (defaultEnding : String) : Except PluralError String :=
  match mode with
  | plain => Plain.render marker acronym variant defaultEnding
  | latex => .ok (Latex.render marker)

/-- The format that the output is raw markup of, if it is markup at all. -/
def rawFormat? : OutputMode → Option String
  | plain => none
  | latex => some "latex"

def inline (mode : OutputMode) (output : String) : Inline :=
  match mode.rawFormat? with
  | none => .text output
  | some format => .raw format output

/-- The line of an acronym in a listing: the full form in the singular. -/
def listingText (mode : OutputMode) (identifier : String) (acronym : Acronym) : String :=
  match mode with
  | plain => Plain.fullForm acronym.long acronym.short
  | latex => String.ofList ("\\acf*".toList ++ Latex.argument identifier)

/-- The mode for a format that a document converter names: `latex` and `beamer` are
typeset, every other format gets resolved text. -/
def ofConverterFormat (format : String) : OutputMode :=
  if format = "latex" ∨ format = "beamer" then latex else plain

end OutputMode

end Acronyms
