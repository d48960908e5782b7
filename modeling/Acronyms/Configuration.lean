import Acronyms.Definitions
import Acronyms.Path
import Acronyms.Settings

/-!
# The configuration of a run

A run is configured by a settings file and by what its caller overrides.  The file is
the one that is named; if none is, it is the `acro.toml` of the nearest directory from the
working directory up that has one; and without any file the settings are the default
ones.

A file of definitions that the settings name is seen from the directory of the settings
file.  What the caller names instead is taken as it is.
-/

set_option autoImplicit false

namespace Acronyms

/-- What the caller of a run sets, whatever the settings file says. -/
structure Overrides where
  mode : Option OutputMode := none
  filter : Option ListingFilter := none
  sort : Option ListingSort := none
  acronymsFile : Option String := none
  deriving DecidableEq, Repr

/-- A configuration. -/
@[ext]
structure Configuration where
  settings : Settings := {}
  acronymsFile : Option String := none
  path : Option String := none
  deriving DecidableEq, Repr

namespace Configuration

/-- The name of a settings file that is not named. -/
def fileName : String := "acro.toml"

/-- The configuration of the settings in a file. -/
def ofSettings (path : String) (settings : Settings) : Configuration where
  settings
  acronymsFile := settings.acronymsFile.map (Path.join ((Path.parent? path).getD "."))
  path := some path

def override (configuration : Configuration) (overrides : Overrides) : Configuration where
  settings := { configuration.settings with
    mode := overrides.mode.getD configuration.settings.mode
    filter := overrides.filter.getD configuration.settings.filter
    sort := overrides.sort.getD configuration.settings.sort }
  acronymsFile := overrides.acronymsFile.or configuration.acronymsFile
  path := configuration.path

/-! ## Loading -/

variable {m : Type → Type} [Monad m]

/-- The settings file of the nearest directory, from one up, that has one. -/
def discover (files : FileAccess m) (directory : String) : m (Option String) := do
  let candidate := Path.join directory fileName
  if ← files.doesExist candidate then return some candidate
  else
    match _found : Path.parent? directory with
    | none => return none
    | some up => discover files up
termination_by directory.length
decreasing_by exact Path.length_lt_of_parent? ‹_›

/-- The configuration of the settings file that a path leads to. -/
def ofFile (files : FileAccess m) (path : String) : m (Except LoadError Configuration) := do
  match ← files.readText path with
  | .error fault => return .error (.unreadable fault)
  | .ok text => return (Settings.ofText text).map (ofSettings path)

/-- The configuration of a settings file that is named. -/
def ofNamed (files : FileAccess m) (path : String) : m (Except LoadError Configuration) := do
  if ← files.doesExist path then ofFile files path
  else return .error (.notFound path)

/-- The configuration of the settings file that is found from a directory up. -/
def ofDirectory (files : FileAccess m) (directory : String) :
    m (Except LoadError Configuration) := do
  match ← discover files directory with
  | some path => ofFile files path
  | none => return .ok {}

/-- The configuration of the settings file that is named or else found, as the caller
has it. -/
def load (files : FileAccess m) (workingDirectory : String) (named : Option String)
    (overrides : Overrides) : m (Except LoadError Configuration) := do
  let found ← match named with
    | some path => ofNamed files path
    | none => ofDirectory files workingDirectory
  return found.map (override · overrides)

/-- The shared definitions; without a file of definitions there are none. -/
def loadGlossary (files : FileAccess m) (configuration : Configuration) :
    m (Except LoadError Glossary) :=
  match configuration.acronymsFile with
  | some path => Definitions.load files path
  | none => return .ok .empty

end Configuration

end Acronyms
