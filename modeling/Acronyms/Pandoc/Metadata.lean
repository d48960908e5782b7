import Acronyms.Glossary
import Acronyms.Pandoc.Document

/-!
# Definitions in document metadata

A document may define acronyms in its metadata, as a map from identifiers to maps of
fields under the name `acronyms`.  A field is text, a string or a Boolean; its text
is what remains of the inline nodes when formatting is dropped.
-/

set_option autoImplicit false

namespace Acronyms

/-- Why the metadata of a document define no acronyms. -/
inductive MetadataError where
  /-- A value that must be a map is none. -/
  | notMap (name : String)
  /-- A map has no entries at all. -/
  | noEntries (name : String)
  /-- A field has no text. -/
  | notScalar (identifier fieldName : String)
  /-- A definition is incomplete. -/
  | definition (error : DefinitionError)
  deriving DecidableEq, Repr

def MetadataError.reason : MetadataError → String
  | notMap name => s!"'{name}' must be a map"
  | noEntries name => s!"'{name}' has no entries"
  | notScalar identifier fieldName =>
    s!"'{identifier}.{fieldName}' must be text, a string or a boolean"
  | definition error => error.message

namespace Pandoc

/-! ## The text of inline nodes -/

/-- The quotation mark that a `Quoted` node stands for. -/
def quoteMark (members : Json.Members) : String :=
  let type := ((content? members).bind fun content => content.item? 0).bind fun quote =>
    (quote.member? "t").bind Json.asString?
  if type = some "SingleQuote" then "'" else "\""

/-- The text of code, math and raw nodes: the second item of their content. -/
def codeText (members : Json.Members) : String :=
  (((content? members).bind fun content => content.item? 1).bind Json.asString?).getD ""

/-- How the text of a node is found. -/
inductive TextRule where
  /-- The content is the text. -/
  | literal
  /-- A space. -/
  | space
  /-- The second item of the content is the text. -/
  | code
  /-- The text of the second item of the content, in quotation marks. -/
  | quoted
  /-- No text. -/
  | silent
  /-- The text of the content. -/
  | inner
  deriving DecidableEq, Repr

/-- The rule for an object: by its type, and no text without a type. -/
def textRule (members : Json.Members) : TextRule :=
  match nodeType? members with
  | none => .silent
  | some "Str" => .literal
  | some "Space" | some "SoftBreak" | some "LineBreak" => .space
  | some "Code" | some "Math" | some "RawInline" => .code
  | some "Quoted" => .quoted
  | some "Note" => .silent
  | some _ => .inner

mutual

/-- The text of inline nodes; strings outside of nodes are attributes and have none. -/
def plainText : Json → String
  | .array items => plainTextOfItems items
  | .object members =>
    match textRule members with
    | .literal => ((content? members).bind Json.asString?).getD ""
    | .space => " "
    | .code => codeText members
    | .quoted => quoteMark members ++ quotedText members ++ quoteMark members
    | .silent => ""
    | .inner => innerText members
  | _ => ""

def plainTextOfItems : List Json → String
  | [] => ""
  | item :: rest => plainText item ++ plainTextOfItems rest

/-- The text of the content of a node. -/
def innerText : List (String × Json) → String
  | [] => ""
  | (name, value) :: rest => if name = "c" then plainText value else innerText rest

/-- The text of the second item of the content of a node. -/
def quotedText : List (String × Json) → String
  | [] => ""
  | (name, value) :: rest =>
    if name = "c" then
      match value with
      | .array (_ :: second :: _) => plainText second
      | _ => ""
    else quotedText rest

end

/-- The text of a metadata value, if it is a string, a Boolean, inlines or blocks. -/
def metadataText? (value : Json) : Option String := do
  let members ← value.asObject?
  let content := content? members
  match ← nodeType? members with
  | "MetaString" => (← content).asString?
  | "MetaBool" => return if ← (← content).asBool? then "true" else "false"
  | "MetaInlines" => some (plainText (← content))
  | "MetaBlocks" => some ("\n\n".intercalate ((← (← content).asArray?).map plainText))
  | _ => none

/-! ## Reading definitions -/

def mapEntries (value : Json) (name : String) : Except MetadataError Json.Members :=
  match value with
  | .object members =>
    if nodeType? members = some "MetaMap" then
      match (content? members).bind Json.asObject? with
      | some entries => .ok entries
      | none => .error (.noEntries name)
    else .error (.notMap name)
  | _ => .error (.notMap name)

def definitionFields (identifier : String) : Json.Members → Except MetadataError (List Field)
  | [] => .ok []
  | (name, value) :: rest =>
    match metadataText? value with
    | none => .error (.notScalar identifier name)
    | some text => (definitionFields identifier rest).map ((name, text) :: ·)

def definitionEntries : Json.Members → Except MetadataError (List Entry)
  | [] => .ok []
  | (identifier, value) :: rest => do
    let members ← mapEntries value identifier
    let fields ← definitionFields identifier members
    return (identifier, fields) :: (← definitionEntries rest)

/-- The name of the acronym map in the metadata. -/
def acronymsName : String := "acronyms"

end Pandoc

namespace PandocDocument

open Pandoc

/-- The glossary that a document defines, if it has an acronym map. -/
def glossary? (document : PandocDocument) : Except MetadataError (Option Glossary) :=
  match document.metadata.bind fun metadata => metadata.lookup acronymsName with
  | none => .ok none
  | some value => do
    let entries ← definitionEntries (← mapEntries value acronymsName)
    match Glossary.ofEntries entries with
    | .ok glossary => return some glossary
    | .error error => throw (.definition error)

end PandocDocument

end Acronyms
