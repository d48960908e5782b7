import Acronyms.SortedMap
import Acronyms.Text.Alphanumeric

/-!
# Acronym definitions

A definition has a spelled-out form and an abbreviation, at most four plural
overrides, and extra fields that only a typesetting backend looks at.  It is read
from a list of named fields, of which the last of each name counts, and is written
as declaration options in a fixed order.

The plural of a part is its irregular form, or else its own ending on the
singular, or else the default ending on the singular, which only applies after an
alphanumeric character.
-/

set_option autoImplicit false

namespace Acronyms

/-- A named field of a definition or a package option, with its value. -/
abbrev Field := String × String

/-- The two halves of a definition. -/
inductive Part where
  | long
  | short
  deriving DecidableEq, Repr

namespace Part

def fieldName : Part → String
  | long => "long"
  | short => "short"

end Part

/-- An acronym definition. -/
structure Acronym where
  long : String
  short : String
  /-- The plural ending of the spelled-out form. -/
  longPlural : Option String := none
  /-- The plural ending of the abbreviation. -/
  shortPlural : Option String := none
  /-- The irregular plural of the spelled-out form. -/
  longPluralForm : Option String := none
  /-- The irregular plural of the abbreviation. -/
  shortPluralForm : Option String := none
  extra : SortedMap String String := ∅
  deriving DecidableEq

/-- The definitions of a document, by identifier. -/
abbrev Table := SortedMap String Acronym

/-- A definition that lacks one of its two parts. -/
structure DefinitionError where
  identifier : String
  missing : Part
  deriving DecidableEq, Repr

namespace DefinitionError

def message (error : DefinitionError) : String :=
  s!"Acronym '{error.identifier}' is missing the '{error.missing.fieldName}' field"

end DefinitionError

/-- A plural that no rule yields. -/
structure PluralError where
  /-- The singular that neither an override nor the default ending applies to. -/
  singular : String
  deriving DecidableEq, Repr

namespace PluralError

def message (error : PluralError) : String :=
  s!"no plural rule applies to '{error.singular}'"

end PluralError

namespace Acronym

/-! ## Reading fields -/

/-- A definition whose two parts may still be missing. -/
structure Draft where
  long : Option String := none
  short : Option String := none
  longPlural : Option String := none
  shortPlural : Option String := none
  longPluralForm : Option String := none
  shortPluralForm : Option String := none
  extra : SortedMap String String := ∅
  deriving DecidableEq

namespace Draft

/-- Enter one field; a name that is not reserved goes to the extra fields. -/
def set (draft : Draft) (field : Field) : Draft :=
  match field.1 with
  | "long" => { draft with long := some field.2 }
  | "short" => { draft with short := some field.2 }
  | "long-plural" => { draft with longPlural := some field.2 }
  | "short-plural" => { draft with shortPlural := some field.2 }
  | "long-plural-form" => { draft with longPluralForm := some field.2 }
  | "short-plural-form" => { draft with shortPluralForm := some field.2 }
  | name => { draft with extra := draft.extra.insert name field.2 }

/-- The finished definition; a missing spelled-out form is reported first. -/
def finish (draft : Draft) (identifier : String) : Except DefinitionError Acronym :=
  match draft.long, draft.short with
  | none, _ => .error ⟨identifier, .long⟩
  | some _, none => .error ⟨identifier, .short⟩
  | some long, some short => .ok {
      long, short
      longPlural := draft.longPlural
      shortPlural := draft.shortPlural
      longPluralForm := draft.longPluralForm
      shortPluralForm := draft.shortPluralForm
      extra := draft.extra }

end Draft

/-- The definition of an identifier that a list of fields gives; of two fields of
one name the later counts. -/
def ofFields (identifier : String) (fields : List Field) : Except DefinitionError Acronym :=
  (fields.foldl Draft.set {}).finish identifier

/-! ## Overriding plurals -/

/-- A plural that a finished definition is given for one of its parts. -/
inductive PluralOverride where
  /-- An ending on the singular. -/
  | ending (part : Part) (text : String)
  /-- An irregular form. -/
  | form (part : Part) (text : String)
  deriving DecidableEq, Repr

/-- A definition with a plural overridden. -/
def overridePlural (acronym : Acronym) : PluralOverride → Acronym
  | .ending .long text => { acronym with longPlural := some text }
  | .ending .short text => { acronym with shortPlural := some text }
  | .form .long text => { acronym with longPluralForm := some text }
  | .form .short text => { acronym with shortPluralForm := some text }

/-- A definition with plurals overridden one after the other. -/
def overridePlurals (acronym : Acronym) (overrides : List PluralOverride) : Acronym :=
  overrides.foldl overridePlural acronym

/-! ## Rendering parts -/

def text (acronym : Acronym) : Part → String
  | .long => acronym.long
  | .short => acronym.short

def pluralForm (acronym : Acronym) : Part → Option String
  | .long => acronym.longPluralForm
  | .short => acronym.shortPluralForm

def pluralEnding (acronym : Acronym) : Part → Option String
  | .long => acronym.longPlural
  | .short => acronym.shortPlural

/-- Whether the default plural ending may follow a text. -/
def takesDefaultEnding (singular : String) : Bool :=
  singular.toList.getLast?.any Text.isAlphanumeric

def plural (acronym : Acronym) (part : Part) (defaultEnding : String) :
    Except PluralError String :=
  match acronym.pluralForm part, acronym.pluralEnding part with
  | some form, _ => .ok form
  | none, some ending => .ok (acronym.text part ++ ending)
  | none, none =>
    if takesDefaultEnding (acronym.text part) then .ok (acronym.text part ++ defaultEnding)
    else .error ⟨acronym.text part⟩

/-- A part, in the plural if that is asked for. -/
def renderPart (acronym : Acronym) (part : Part) (inPlural : Bool) (defaultEnding : String) :
    Except PluralError String :=
  if inPlural then acronym.plural part defaultEnding else .ok (acronym.text part)

/-! ## Writing fields -/

/-- A field that may be absent, as a list of at most one field. -/
def optionalField (name : String) (value : Option String) : List Field :=
  (value.map fun text => (name, text)).toList

/-- All fields of a definition: the parts, the endings, the irregular plurals and
then the extra fields in the order of their names. -/
def declarationOptions (acronym : Acronym) : List Field :=
  [("short", acronym.short), ("long", acronym.long)] ++
    optionalField "short-plural" acronym.shortPlural ++
    optionalField "long-plural" acronym.longPlural ++
    optionalField "short-plural-form" acronym.shortPluralForm ++
    optionalField "long-plural-form" acronym.longPluralForm ++
    acronym.extra.toList

end Acronym

end Acronyms
