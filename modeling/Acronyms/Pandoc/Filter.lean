import Acronyms.Json.Printing
import Acronyms.Json.Reading
import Acronyms.Pandoc.Listing
import Acronyms.Pandoc.Metadata
import Acronyms.Pandoc.Preamble
import Acronyms.Expansion

/-!
# Filtering Pandoc documents

The filter merges the definitions of a document into shared ones, expands its
words, adds the preamble when the output is typeset, and renders the listing
placeholders.  A document without definitions of its own, for which there are no
shared ones either, passes through unchanged.
-/

set_option autoImplicit false

namespace Acronyms

/-- Why a Pandoc document could not be filtered. -/
inductive PandocError where
  /-- The text is not JSON. -/
  | json
  /-- The JSON value is no document. -/
  | document (fault : Pandoc.DocumentFault)
  /-- The metadata do not define acronyms. -/
  | metadata (error : MetadataError)
  /-- The words could not be expanded. -/
  | expansion (error : ExpansionError)
  deriving DecidableEq, Repr

namespace PandocError

def message : PandocError → String
  | json => "invalid pandoc JSON"
  | document fault => s!"invalid pandoc document: {fault.reason}"
  | metadata error => s!"invalid acronyms metadata: {error.reason}"
  | expansion error => error.message

end PandocError

/-- The choices of a filter. -/
structure PandocFilter where
  mode : OutputMode := .plain
  policy : Policy := {}
  /-- The filter of a listing whose placeholder names none. -/
  filter : ListingFilter := .used
  /-- The order of a listing whose placeholder names none. -/
  sort : ListingSort := .alphabetical
  /-- Whether invalid package options go unreported. -/
  silent : Bool := false
  /-- The shared definitions, which those of the document override. -/
  shared : Glossary := .empty

/-- A filtered document. -/
structure Filtered where
  document : PandocDocument
  glossary : Glossary := .empty
  registry : UsageRegistry := .empty
  /-- What is to be reported: invalid options and invalid listing orders. -/
  warnings : List String := []

/-- A policy with the single-use rule switched on if the package options ask for it. -/
def Policy.withOptions (policy : Policy) (options : PackageOptions) : Policy :=
  { policy with single := policy.single || options.single }

/-- The reports on the invalid package options of a glossary. -/
def Glossary.optionWarnings (glossary : Glossary) : List String :=
  glossary.options.problems.map fun problem => "acro option: " ++ problem

def PandocDocument.ofText (text : String) : Except PandocError PandocDocument :=
  match Json.ofText? text with
  | none => .error .json
  | some value =>
    match PandocDocument.ofJson value with
    | .ok document => .ok document
    | .error fault => .error (.document fault)

def PandocDocument.toText (document : PandocDocument) : String := document.toJson.toText

namespace PandocFilter

/-- What takes the place of a listing placeholder. -/
def listingBlock (filter : PandocFilter) (table : Table) (registry : UsageRegistry)
    (placeholder : ListingPlaceholder) : Json :=
  match filter.mode with
  | .latex => Pandoc.rawNode "RawBlock" "latex" "\\printacronyms"
  | .plain =>
    let listing := Listing.make table registry filter.mode
      (placeholder.filter.getD filter.filter) (placeholder.sort.getD filter.sort)
    Pandoc.node "BulletList" <| .array <| listing.toList.map fun entry =>
      .array [Pandoc.node "Plain" (.array (Pandoc.textInlines entry.text))]

/-- The definitions in effect for a document with a glossary of its own, or `none`
if there are none to speak of. -/
def effective? (filter : PandocFilter) (own : Option Glossary) : Option Glossary :=
  match own with
  | some own => some (filter.shared.merge own)
  | none => if filter.shared.table.isEmpty then none else some filter.shared

/-- The finished document after the expansion of its words. -/
def finish (filter : PandocFilter) (glossary : Glossary) (document : PandocDocument)
    (registry : UsageRegistry) : Filtered :=
  let withPreamble := match filter.mode with
    | .latex => document.addPreamble glossary
    | .plain => document
  let render : Pandoc.ListingRenderer := fun _ placeholder =>
    filter.listingBlock glossary.table registry placeholder
  let invalidOrders := withPreamble.placeholders.flatMap fun placeholder =>
    placeholder.invalid.map ChoiceError.message
  { document := (withPreamble.replaceListings render).1
    glossary, registry
    warnings := (if filter.silent then [] else glossary.optionWarnings) ++ invalidOrders }

def run (filter : PandocFilter) (document : PandocDocument) : Except PandocError Filtered :=
  match document.glossary? with
  | .error error => .error (.metadata error)
  | .ok own =>
    match filter.effective? own with
    | none => .ok { document }
    | some glossary =>
      match Expansion.expand glossary.table filter.mode
          (filter.policy.withOptions glossary.options) document with
      | .error error => .error (.expansion error)
      | .ok (expanded, registry) => .ok (filter.finish glossary expanded registry)

def runText (filter : PandocFilter) (text : String) : Except PandocError String := do
  let filtered ← filter.run (← PandocDocument.ofText text)
  return filtered.document.toText

end PandocFilter

end Acronyms
