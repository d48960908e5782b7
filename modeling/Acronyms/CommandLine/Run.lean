import Acronyms.CommandLine.Arguments
import Acronyms.Configuration
import Acronyms.ExpandedText

/-!
# Running the command line

A run reads the settings first and the definitions after them.  A Pandoc filter then
reads its input; a command that is given a document reads the document before the
definitions.  A run that fails has no output, and reports why.

A document is a Pandoc document if its name has the extension `json`, and otherwise a
text.
-/

set_option autoImplicit false

namespace Acronyms.CommandLine

/-- Why a run failed. -/
inductive RunError where
  /-- Settings or definitions could not be loaded. -/
  | load (error : LoadError)
  /-- A document could not be read. -/
  | read (fault : ReadFault)
  /-- A Pandoc document could not be filtered. -/
  | pandoc (error : PandocError)
  /-- A text could not be expanded. -/
  | expansion (error : ExpansionError)
  deriving DecidableEq, Repr

namespace RunError

def message : RunError → String
  | load error => error.message
  | read fault => fault.message
  | pandoc error => error.message
  | expansion error => error.message

/-- The error of a run whose text could not be expanded. -/
def ofText : TextError → RunError
  | .frontMatter error => .load error
  | .expansion error => .expansion error

end RunError

/-- What a run leaves behind. -/
structure Outcome where
  code : Nat := 0
  output : String := ""
  /-- The warnings and errors in their order. -/
  reports : List String := []
  deriving DecidableEq, Repr

namespace Outcome

/-- The outcome of a result after some warnings. -/
def ofResult (warnings : List String) : Except RunError String → Outcome
  | .ok output => { output, reports := warnings.map ("warning: " ++ ·) }
  | .error error =>
    { code := 1, reports := warnings.map ("warning: " ++ ·) ++ ["error: " ++ error.message] }

/-- The outcome of a run that is interrupted.  Usage errors and help are left to the
caller to explain. -/
def ofInterruption : Interruption → Outcome
  | .usage _ => { code := 2 }
  | .help => {}
  | .version => { output := "acro 0.1.0\n" }

end Outcome

/-! ## Reading -/

variable {m : Type → Type} [Monad m]

/-- An action that may end the run. -/
abbrev Attempt (m : Type → Type) := ExceptT RunError m

def succeeded {α ε : Type} (cause : ε → RunError) (result : Except ε α) : Attempt m α :=
  ExceptT.mk (pure (result.mapError cause))

def loaded {α : Type} (action : m (Except LoadError α)) : Attempt m α :=
  ExceptT.mk do return (← action).mapError RunError.load

def read {α : Type} (action : m (Except ReadFault α)) : Attempt m α :=
  ExceptT.mk do return (← action).mapError RunError.read

/-- The machine as a run sees it. -/
structure Surroundings (m : Type → Type) where
  files : FileAccess m
  workingDirectory : String
  input : m (Except ReadFault String)

namespace Surroundings

/-- The configuration of a source with what is overridden otherwise. -/
def configuration (surroundings : Surroundings m) (source : Source) (overrides : Overrides) :
    m (Except LoadError Configuration) :=
  Configuration.load surroundings.files surroundings.workingDirectory source.config
    { overrides with acronymsFile := source.acronyms }

def expandFile (surroundings : Surroundings m) (configuration : Configuration)
    (path : String) : Attempt m ExpandedText := do
  let text ← read (surroundings.files.readText path)
  let shared ← loaded (configuration.loadGlossary surroundings.files)
  let settings := configuration.settings
  succeeded .ofText (ExpandedText.ofText settings.mode settings.policy shared text)

def filterFile (surroundings : Surroundings m) (configuration : Configuration)
    (path : String) : Attempt m Filtered := do
  let text ← read (surroundings.files.readText path)
  let shared ← loaded (configuration.loadGlossary surroundings.files)
  let settings := configuration.settings
  let filter : PandocFilter :=
    { mode := settings.mode, policy := settings.policy, silent := settings.silent, shared }
  succeeded .pandoc (PandocDocument.ofText text >>= filter.run)

/-- The definitions and the usage of the document in a file. -/
def scanFile (surroundings : Surroundings m) (configuration : Configuration) (path : String) :
    Attempt m (Table × UsageRegistry) := do
  if Path.extension? path = some "json" then
    let filtered ← surroundings.filterFile configuration path
    return (filtered.glossary.table, filtered.registry)
  else
    let expanded ← surroundings.expandFile configuration path
    return (expanded.glossary.table, expanded.registry)

/-! ## Commands -/

/-- The text of a listing, an entry a line. -/
def listingLines (configuration : Configuration) (filter : ListingFilter) (table : Table)
    (registry : UsageRegistry) : String :=
  let settings := configuration.settings
  String.join <| (Listing.make table registry settings.mode filter settings.sort).toList.map
    fun entry => entry.text ++ "\n"

/-- List the acronyms of a document, or the shared ones. -/
def list (surroundings : Surroundings m) (configuration : Configuration)
    (file : Option String) (filter : Option ListingFilter) : Attempt m String := do
  match file with
  | some path =>
    let (table, registry) ← surroundings.scanFile configuration path
    return listingLines configuration configuration.settings.filter table registry
  | none =>
    let shared ← loaded (configuration.loadGlossary surroundings.files)
    let filter := if filter = some .used then ListingFilter.used else .all
    return listingLines configuration filter shared.table .empty

def filterInput (surroundings : Surroundings m) (configuration : Configuration) :
    Attempt m String := do
  let shared ← loaded (configuration.loadGlossary surroundings.files)
  let settings := configuration.settings
  let filter : PandocFilter :=
    { mode := settings.mode, policy := settings.policy, filter := settings.filter
      sort := settings.sort, silent := settings.silent, shared }
  let text ← read surroundings.input
  succeeded .pandoc (filter.runText text)

/-- Do what a run is asked to do, configured. -/
def execute (surroundings : Surroundings m) (configuration : Configuration) :
    Invocation → Attempt m String
  | .filter _ _ => surroundings.filterInput configuration
  | .expand file _ _ => do
    return (← surroundings.expandFile configuration file).document.toText
  | .list file filter _ _ _ => surroundings.list configuration file filter

end Surroundings

namespace Invocation

def source : Invocation → Source
  | .filter _ source => source
  | .expand _ _ source => source
  | .list _ _ _ _ source => source

/-- What an invocation overrides, besides the file of definitions. -/
def overrides : Invocation → Overrides
  | .filter format _ => { mode := format.map OutputMode.ofConverterFormat }
  | .expand _ mode _ => { mode }
  | .list _ scope sort mode _ => { mode, filter := scope, sort }

def warnings : Invocation → List String
  | .list none (some .used) _ _ _ => ["No document given, nothing is used"]
  | _ => []

end Invocation

def run (surroundings : Surroundings m) (arguments : List String) : m Outcome := do
  match Invocation.ofArguments arguments with
  | .error interruption => return .ofInterruption interruption
  | .ok invocation =>
    match ← surroundings.configuration invocation.source invocation.overrides with
    | .error error => return .ofResult [] (.error (.load error))
    | .ok configuration =>
      let result ← (surroundings.execute configuration invocation).run
      return .ofResult invocation.warnings result

end Acronyms.CommandLine
