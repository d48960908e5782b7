import Acronyms.Choice

/-!
# Command line arguments

A run is asked for by arguments.  The first may be a command, `expand` or `list`; without
a command the run is a Pandoc filter.  Options follow in any order, around at most one
argument that is no option, and everything behind `--` is no option.

An option has a long name behind two dashes, and most have a letter behind one.  Its
value is the next argument, or stands behind an equals sign, or right behind the letter.
Options without a value are flags, and the letters of several may stand behind one dash.
No option is given twice, and the value of an option does not start with a dash, unless it
is one dash alone or attached to its option.

Arguments are read from left to right, and what comes first decides: a usage error, or a
request for help or for the version.
-/

set_option autoImplicit false

namespace Acronyms.CommandLine

/-! ## Options -/

/-- The options of all commands. -/
inductive OptionName where
  | config
  | acronyms
  | verbose
  | format
  | all
  | used
  | sort
  | help
  | version
  deriving DecidableEq, Repr

namespace OptionName

def long : OptionName → String
  | config => "config"
  | acronyms => "acronyms"
  | verbose => "verbose"
  | format => "format"
  | all => "all"
  | used => "used"
  | sort => "sort"
  | help => "help"
  | version => "version"

def letter? : OptionName → Option Char
  | config => some 'c'
  | acronyms => some 'a'
  | verbose => some 'v'
  | format => some 'f'
  | sort => some 's'
  | help => some 'h'
  | version => some 'V'
  | all => none
  | used => none

def hasValue : OptionName → Bool
  | config => true
  | acronyms => true
  | format => true
  | sort => true
  | _ => false

/-- Whether a text is a value of an option: a path is not empty, and a choice is offered. -/
def accepts (option : OptionName) (value : String) : Bool :=
  match option with
  | config => value != ""
  | acronyms => value != ""
  | format => (OutputMode.ofName value).toBool
  | sort => (ListingSort.ofName value).toBool
  | _ => true

end OptionName

/-- What is wrong with arguments. -/
inductive UsageError where
  | unknownOption (option : String)
  | unexpectedValue (option : OptionName)
  | missingValue (option : OptionName)
  | invalidValue (option : OptionName) (value : String)
  | repeated (option : OptionName)
  | conflicting (left right : OptionName)
  | unexpectedArgument (argument : String)
  | emptyFile
  | missingFile
  | unknownCommand (name : String)
  deriving DecidableEq, Repr

/-- What ends the reading of arguments early. -/
inductive Interruption where
  | usage (error : UsageError)
  | help
  | version
  deriving DecidableEq, Repr

/-! ## What was given -/

/-- The form of a command's arguments. -/
structure Form where
  options : List OptionName
  /-- Whether the argument that is no option is a file, which has a name. -/
  takesFile : Bool

/-- What has been given so far. -/
structure Given where
  /-- The options and their values; that of a flag is empty. -/
  options : List (OptionName × String) := []
  positional : Option String := none
  deriving DecidableEq, Repr

namespace Given

def has (given : Given) (option : OptionName) : Bool := (given.options.lookup option).isSome

def value? (given : Given) (option : OptionName) : Option String := given.options.lookup option

def give (given : Given) (option : OptionName) (value : String) : Except Interruption Given :=
  if option = .help then .error .help
  else if option = .version then .error .version
  else if !option.accepts value then .error (.usage (.invalidValue option value))
  else if given.has option then .error (.usage (.repeated option))
  else .ok { given with options := given.options ++ [(option, value)] }

def givePositional (given : Given) (form : Form) (argument : String) :
    Except Interruption Given :=
  if given.positional.isSome then .error (.usage (.unexpectedArgument argument))
  else if form.takesFile ∧ argument = "" then .error (.usage .emptyFile)
  else .ok { given with positional := some argument }

end Given

/-! ## Reading -/

/-- Read the letters behind one dash.  An option that still waits for its value is
returned. -/
def readLetters (form : Form) (given : Given) :
    List Char → Except Interruption (Given × Option OptionName)
  | [] => .ok (given, none)
  | letter :: rest =>
    match form.options.find? fun option => option.letter? == some letter with
    | none => .error (.usage (.unknownOption (String.ofList ['-', letter])))
    | some option =>
      if option.hasValue then
        match rest with
        | [] => .ok (given, some option)
        | '=' :: value =>
          (given.give option (String.ofList value)).map fun given => (given, none)
        | value => (given.give option (String.ofList value)).map fun given => (given, none)
      else
        match given.give option "" with
        | .error interruption => .error interruption
        | .ok given => readLetters form given rest

/-- Read what stands behind two dashes.  An option that still waits for its value is
returned. -/
def readLong (form : Form) (given : Given) (characters : List Char) :
    Except Interruption (Given × Option OptionName) :=
  let name := String.ofList (characters.takeWhile (· != '='))
  match form.options.find? fun option => option.long == name with
  | none => .error (.usage (.unknownOption ("--" ++ name)))
  | some option =>
    match characters.dropWhile (· != '=') with
    | _ :: value =>
      if option.hasValue then
        (given.give option (String.ofList value)).map fun given => (given, none)
      else .error (.usage (.unexpectedValue option))
    | [] =>
      if option.hasValue then .ok (given, some option)
      else (given.give option "").map fun given => (given, none)

/-- Whether an argument cannot be the value of the option before it. -/
def looksLikeOption (argument : String) : Bool :=
  match argument.toList with
  | ['-'] => false
  | '-' :: _ => true
  | _ => false

/-- Read the arguments behind `--`. -/
def readPositionals (form : Form) (given : Given) : List String → Except Interruption Given
  | [] => .ok given
  | argument :: rest =>
    match given.givePositional form argument with
    | .error interruption => .error interruption
    | .ok given => readPositionals form given rest

/-- Read one argument.  An option that still waits for its value is returned. -/
def readArgument (form : Form) (given : Given) (argument : String) :
    Except Interruption (Given × Option OptionName) :=
  match argument.toList with
  | ['-'] => (given.givePositional form argument).map fun given => (given, none)
  | '-' :: '-' :: name => readLong form given name
  | '-' :: letters => readLetters form given letters
  | _ => (given.givePositional form argument).map fun given => (given, none)

/-- Read arguments, the first of which may be the value that an option waits for. -/
def readArguments (form : Form) (given : Given) (waiting : Option OptionName) :
    List String → Except Interruption Given
  | [] =>
    match waiting with
    | some option => .error (.usage (.missingValue option))
    | none => .ok given
  | argument :: rest =>
    match waiting with
    | some option =>
      if looksLikeOption argument then .error (.usage (.missingValue option))
      else
        match given.give option argument with
        | .error interruption => .error interruption
        | .ok given => readArguments form given none rest
    | none =>
      if argument = "--" then readPositionals form given rest
      else
        match readArgument form given argument with
        | .error interruption => .error interruption
        | .ok (given, waiting) => readArguments form given waiting rest

/-! ## Invocations -/

/-- Where settings and definitions come from. -/
structure Source where
  config : Option String := none
  acronyms : Option String := none
  verbose : Bool := false
  deriving DecidableEq, Repr

/-- What a run is asked to do. -/
inductive Invocation where
  /-- Filter a Pandoc document for a format. -/
  | filter (format : Option String) (source : Source)
  /-- Expand the markers of a text. -/
  | expand (file : String) (mode : Option OutputMode) (source : Source)
  /-- List the acronyms of a document, or the shared ones. -/
  | list (file : Option String) (filter : Option ListingFilter) (sort : Option ListingSort)
      (mode : Option OutputMode) (source : Source)
  deriving DecidableEq, Repr

namespace Given

def source (given : Given) : Source where
  config := given.value? .config
  acronyms := given.value? .acronyms
  verbose := given.has .verbose

def mode? (given : Given) : Option OutputMode :=
  (given.value? .format).bind fun name => (OutputMode.ofName name).toOption

def sort? (given : Given) : Option ListingSort :=
  (given.value? .sort).bind fun name => (ListingSort.ofName name).toOption

def filter? (given : Given) : Option ListingFilter :=
  if given.has .all then some .all else if given.has .used then some .used else none

end Given

def filterForm : Form where
  options := [.config, .acronyms, .verbose, .help, .version]
  takesFile := false

/-- The arguments of `expand`. -/
def expandForm : Form where
  options := [.format, .config, .acronyms, .verbose, .help]
  takesFile := true

/-- The arguments of `list`. -/
def listForm : Form where
  options := [.all, .used, .sort, .format, .config, .acronyms, .verbose, .help]
  takesFile := true

namespace Invocation

def ofFilterArguments (arguments : List String) : Except Interruption Invocation := do
  let given ← readArguments filterForm {} none arguments
  return .filter given.positional given.source

/-- Read the arguments of `expand`. -/
def ofExpandArguments (arguments : List String) : Except Interruption Invocation := do
  let given ← readArguments expandForm {} none arguments
  match given.positional with
  | none => .error (.usage .missingFile)
  | some file => return .expand file given.mode? given.source

/-- Read the arguments of `list`. -/
def ofListArguments (arguments : List String) : Except Interruption Invocation := do
  let given ← readArguments listForm {} none arguments
  if given.has .all ∧ given.has .used then .error (.usage (.conflicting .all .used))
  else return .list given.positional given.filter? given.sort? given.mode? given.source

def commandNames : List String := ["expand", "list", "help"]

/-- Read the arguments of `help`: at most the name of one command. -/
def ofHelpArguments : List String → Interruption
  | [] => .help
  | [name] => if commandNames.contains name then .help else .usage (.unknownCommand name)
  | name :: second :: _ =>
    .usage (.unknownCommand (if commandNames.contains name then second else name))

def ofArguments : List String → Except Interruption Invocation
  | "expand" :: arguments => ofExpandArguments arguments
  | "list" :: arguments => ofListArguments arguments
  | "help" :: arguments => .error (ofHelpArguments arguments)
  | arguments => ofFilterArguments arguments

end Invocation

end Acronyms.CommandLine
