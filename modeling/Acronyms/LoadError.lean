import Acronyms.Acronym
import Acronyms.Files

/-!
# Why something could not be loaded

Settings and definitions come from files and from the front matter of documents.  The
ways in which loading them can fail are gathered in one type, each with its wording.
-/

set_option autoImplicit false

namespace Acronyms

/-- Why settings or definitions could not be loaded. -/
inductive LoadError where
  /-- A file that was named is not there. -/
  | notFound (path : String)
  /-- A file cannot be read as text. -/
  | unreadable (fault : ReadFault)
  /-- The settings are no TOML, or have values of the wrong kind. -/
  | settings
  /-- The definitions are no YAML, or no mapping. -/
  | yaml
  /-- A definition is incomplete. -/
  | definition (error : DefinitionError)
  /-- A setting that needs a text is empty. -/
  | emptySetting (name : String)
  /-- An identifier is no scalar. -/
  | identifierNotScalar
  /-- A definition is no mapping. -/
  | notMapping (identifier : String)
  /-- A field or its name is no scalar. -/
  | fieldNotScalar (identifier : String)
  /-- The definitions in front matter are no mapping. -/
  | acronymsNotMapping
  deriving DecidableEq, Repr

namespace LoadError

/-- The problem with the content of settings or definitions, if that is what failed. -/
def problem? : LoadError → Option String
  | emptySetting name => some s!"{name} cannot be empty"
  | identifierNotScalar => some "acronym identifier must be a scalar"
  | notMapping identifier => some s!"acronym '{identifier}' must be a mapping of fields"
  | fieldNotScalar identifier => some s!"acronym '{identifier}' has a non-scalar field"
  | acronymsNotMapping => some "front matter 'acronyms' must be a mapping"
  | _ => none

def message (error : LoadError) : String :=
  match error with
  | notFound path => s!"Configuration file not found: {path}"
  | unreadable fault => s!"I/O error: {fault.message}"
  | settings => "TOML parse error"
  | yaml => "YAML parse error"
  | definition error => error.message
  | _ => "Configuration error: " ++ error.problem?.getD ""

end LoadError

end Acronyms
