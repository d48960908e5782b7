import Acronyms.Pandoc.Listing
import Acronyms.Pandoc.Preamble

/-!
# Editing Pandoc documents

Three operations change a Pandoc document: its words are replaced, its listing
placeholders are rendered, and it gets a preamble.  An `Edit` is one of them.

A document that is held as the members of its root object is edited in place
(`editRoot`).  The blocks are whatever value stands under their name; where there is none,
nothing is edited.  The preamble goes into the metadata, which are made if there are none,
and is dropped where something else than metadata stands under their name.
-/

set_option autoImplicit false

namespace Acronyms

/-- An operation that changes a Pandoc document. -/
inductive PandocDocument.Edit where
  /-- Replace words by position. -/
  | apply (replacements : Replacements)
  /-- Render the listing placeholders. -/
  | replaceListings (render : Pandoc.ListingRenderer)
  /-- Add the preamble of a glossary. -/
  | addPreamble (glossary : Glossary)

namespace PandocDocument

def edit (document : PandocDocument) : Edit → PandocDocument
  | .apply replacements => Document.apply replacements document
  | .replaceListings render => (document.replaceListings render).1
  | .addPreamble glossary => document.addPreamble glossary

/-- A document after a sequence of edits. -/
def editAll (document : PandocDocument) (edits : List Edit) : PandocDocument :=
  edits.foldl edit document

end PandocDocument

namespace Pandoc

/-! ## Editing in place -/

/-- Change the value of a name where it stands, if it stands there. -/
def modifyMember (name : String) (change : Json → Json) (members : Json.Members) :
    Json.Members :=
  match members.lookup name with
  | none => members
  | some value => insertEntry name (change value) members

/-- The metadata of a root, empty if there are none; `none` if what stands under their
name is no object. -/
def metadataOrNew? (root : Json.Members) : Option Json.Members :=
  match root.lookup "meta" with
  | none => some []
  | some value => value.asObject?

/-- The root of a document after an edit. -/
def editRoot (root : Json.Members) : PandocDocument.Edit → Json.Members
  | .apply replacements =>
    if replacements.isEmpty then root
    else modifyMember "blocks" (fun blocks => (replaceFrom replacements 0 blocks).1) root
  | .replaceListings render =>
    modifyMember "blocks" (fun blocks => (renderListings render 0 blocks).1) root
  | .addPreamble glossary =>
    match metadataOrNew? root with
    | none => root
    | some metadata =>
      insertEntry "meta" (.object (appendIncludes glossary.preambleLines metadata)) root

/-- The root of a document after a sequence of edits. -/
def editRootAll (root : Json.Members) (edits : List PandocDocument.Edit) : Json.Members :=
  edits.foldl editRoot root

end Pandoc

end Acronyms
