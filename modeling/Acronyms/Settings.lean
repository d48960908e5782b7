import Acronyms.Choice
import Acronyms.LoadError
import Acronyms.Toml.Document
import Acronyms.Expansion

/-!
# Settings

Settings are written in TOML, in five sections of which each may be missing, as may each
of their entries.  Sections and entries of other names are ignored.  An entry of the wrong
kind is an error, and so is a name that a choice does not offer.

A section is a table.  It may also be written as an array, whose items are its entries in
their order, as far as they go; and a date in its place leaves every entry out.  A choice
is a text; it may also be written as a table whose only key is the name, with nothing
under it.
-/

set_option autoImplicit false

namespace Acronyms

/-- The settings of the program. -/
@[ext]
structure Settings where
  mode : OutputMode := .plain
  policy : Policy := {}
  filter : ListingFilter := .used
  sort : ListingSort := .alphabetical
  /-- The file of shared definitions, as it is written. -/
  acronymsFile : Option String := none
  /-- Whether invalid package options go unreported. -/
  silent : Bool := false
  deriving DecidableEq, Repr

namespace Settings

open Toml (Value Members)

/-! ## Sections -/

/-- The entries of a section, found by name. -/
abbrev Section := String → Option Value

/-- A section whose entries have the given names, in this order. -/
def section? (names : List String) : Value → Option Section
  | .table _ members => some fun name => members.lookup name
  | .array items => some fun name => (names.zip items).lookup name
  | .tables complete last =>
    some fun name => (names.zip (complete ++ [.table .explicit last])).lookup name
  | .moment => some fun _ => none
  | _ => none

/-- The section of a name; one that is missing has no entries. -/
def sectionOf? (root : Members) (name : String) (names : List String) : Option Section :=
  match root.lookup name with
  | none => some fun _ => none
  | some value => section? names value

/-! ## Entries -/

/-- Read an entry, which stays as it is if it is missing. -/
def entry? {α : Type} (entries : Section) (name : String) (read : Value → Option α)
    (default : α) : Option α :=
  match entries name with
  | none => some default
  | some value => read value

def text? : Value → Option String
  | .string text => some text
  | _ => none

def boolean? : Value → Option Bool
  | .boolean value => some value
  | _ => none

def choice? {α : Type} (ofName : String → Except ChoiceError α) : Value → Option α
  | .string name => (ofName name).toOption
  | .table _ [(name, .table _ [])] => (ofName name).toOption
  | .table _ [(name, .array [])] => (ofName name).toOption
  | _ => none

/-! ## Reading -/

def ofMembers? (root : Members) : Option Settings := do
  let output ← sectionOf? root "output" ["format"]
  let usage ← sectionOf? root "usage" ["forced_forms_mark_used", "single"]
  let plural ← sectionOf? root "plural" ["suffix"]
  let listing ← sectionOf? root "listing" ["filter", "sort"]
  let acronyms ← sectionOf? root "acronyms" ["file", "silent"]
  let policy : Policy := {
    forcedFormsMarkUsed := ← entry? usage "forced_forms_mark_used" boolean? true
    single := ← entry? usage "single" boolean? false
    pluralSuffix := ← entry? plural "suffix" text? "s" }
  return {
    mode := ← entry? output "format" (choice? OutputMode.ofName) .plain
    policy
    filter := ← entry? listing "filter" (choice? ListingFilter.ofName) .used
    sort := ← entry? listing "sort" (choice? ListingSort.ofName) .alphabetical
    acronymsFile := ← entry? acronyms "file" (fun value => (text? value).map some) none
    silent := ← entry? acronyms "silent" boolean? false }

/-- What is wrong with settings: a plural ending or a file of definitions that is
empty. -/
def problem? (settings : Settings) : Option LoadError :=
  if settings.policy.pluralSuffix = "" then some (.emptySetting "plural.suffix")
  else if settings.acronymsFile = some "" then some (.emptySetting "acronyms.file")
  else none

/-- The settings of a text, with nothing wrong with them. -/
def ofText (text : String) : Except LoadError Settings :=
  match (Toml.ofText? text).bind ofMembers? with
  | none => .error .settings
  | some settings =>
    match settings.problem? with
    | some problem => .error problem
    | none => .ok settings

end Settings

end Acronyms
