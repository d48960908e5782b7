import Acronyms.Pandoc.Editing
import Acronyms.Proofs.Pandoc.Document
import Acronyms.Proofs.Pandoc.Root

/-!
# A document stays a document

A document is edited in place as the members of its root object.  Nothing in these members
says that they make a document: that the blocks are an array and the metadata an object, if
there are any, is established when the document is read and relied upon ever after
(`IsDocumentRoot`).

One edit of the members of a document is the edit of the document (`ofJson_editRoot`), and so
is a sequence of edits (`ofJson_editRootAll`).  The main statement is
`editAll_staysDocument`: **whatever edits a document goes through, it is a document still, is
read again as itself, and no preamble is dropped**.
-/

set_option autoImplicit false

namespace Acronyms

open Pandoc

/-! ## Roots of documents -/

/-- The members of a root have an array of blocks, and metadata that are an object if there
are any. -/
structure Pandoc.IsDocumentRoot (root : Json.Members) : Prop where
  blocks : ∃ items, root.lookup "blocks" = some (.array items)
  metadata : root.lookup "meta" = none ∨ ∃ members, root.lookup "meta" = some (.object members)

/-- Exactly the members of such a root are read as a document. -/
theorem Pandoc.isDocumentRoot_iff {root : Json.Members} :
    IsDocumentRoot root ↔ ∃ document, PandocDocument.ofJson (.object root) = .ok document := by
  constructor
  · rintro ⟨⟨items, blocks⟩, absent | ⟨members, metadata⟩⟩
    · have described : root.lookup "meta" = Option.map .object none := absent
      exact ⟨_, PandocDocument.ofJson_eq_ok blocks described⟩
    · have described : root.lookup "meta" = Option.map .object (some members) := metadata
      exact ⟨_, PandocDocument.ofJson_eq_ok blocks described⟩
  · rintro ⟨document, read⟩
    obtain ⟨_, same, blocks, metadata, _⟩ := PandocDocument.ofJson_eq_ok_iff.mp read
    obtain rfl := Json.object.inj same
    refine ⟨⟨document.blocks, blocks⟩, ?_⟩
    cases described : document.metadata with
    | none => exact .inl (by rw [metadata, described, Option.map_none])
    | some members => exact .inr ⟨members, by rw [metadata, described, Option.map_some]⟩

namespace PandocDocument

variable {root : Json.Members} {document : PandocDocument}

/-! ## One edit -/

/-- A change of the blocks that leaves them an array changes the blocks of the document. -/
theorem ofJson_modifyMember_blocks (read : ofJson (.object root) = .ok document)
    {change : Json → Json} {items : List Json}
    (changed : change (.array document.blocks) = .array items) :
    ofJson (.object (modifyMember "blocks" change root)) =
      .ok { document with blocks := items } := by
  obtain ⟨_, same, blocks, metadata, others⟩ := ofJson_eq_ok_iff.mp read
  obtain rfl := Json.object.inj same
  rw [modifyMember, blocks]
  refine ofJson_eq_ok_iff.mpr ⟨_, rfl, ?_, ?_, ?_⟩
  · rw [lookup_insertEntry_self, changed]
  · rw [lookup_insertEntry_of_ne _ (by decide), metadata]
  · rw [otherMembers_insertEntry_blocks, others]

/-- A document always has metadata to put a preamble into. -/
theorem metadataOrNew?_of_ofJson (read : ofJson (.object root) = .ok document) :
    metadataOrNew? root = some (document.metadata.getD []) := by
  obtain ⟨_, same, _, metadata, _⟩ := ofJson_eq_ok_iff.mp read
  obtain rfl := Json.object.inj same
  rw [metadataOrNew?, metadata]
  cases document.metadata with
  | none => rfl
  | some members => rfl

/-- **An edit of the members of a document is the edit of the document.** -/
theorem ofJson_editRoot (read : ofJson (.object root) = .ok document) (edit : Edit) :
    ofJson (.object (editRoot root edit)) = .ok (document.edit edit) := by
  cases edit with
  | apply replacements =>
    rw [editRoot]
    split
    next none =>
      -- Nothing is replaced, so the walk that is left out would have changed nothing.
      obtain rfl : replacements = .empty := SortedMap.ext (List.isEmpty_iff.mp none)
      rw [edit, apply_empty, read]
    next => exact ofJson_modifyMember_blocks read rfl
  | replaceListings render => exact ofJson_modifyMember_blocks read rfl
  | addPreamble glossary =>
    simp only [editRoot, metadataOrNew?_of_ofJson read]
    obtain ⟨_, same, blocks, _, others⟩ := ofJson_eq_ok_iff.mp read
    obtain rfl := Json.object.inj same
    refine ofJson_eq_ok_iff.mpr ⟨_, rfl, ?_, ?_, ?_⟩
    · rw [lookup_insertEntry_of_ne _ (by decide), blocks]
      rfl
    · rw [lookup_insertEntry_self]
      rfl
    · rw [otherMembers_insertEntry_meta]
      exact others

/-! ## Sequences of edits -/

theorem ofJson_editRootAll (read : ofJson (.object root) = .ok document) (edits : List Edit) :
    ofJson (.object (editRootAll root edits)) = .ok (document.editAll edits) := by
  induction edits generalizing root document with
  | nil => exact read
  | cons edit rest ih => exact ih (ofJson_editRoot read edit)

/-- A preamble that is added in place arrives behind the includes that are there. -/
theorem exists_lookup_editRoot_addPreamble (read : ofJson (.object root) = .ok document)
    (glossary : Glossary) :
    ∃ metadata described, metadataOrNew? root = some metadata ∧
      (editRoot root (.addPreamble glossary)).lookup "meta" = some (.object described) ∧
      described.lookup headerIncludesName = some (node "MetaList" (.array
        (existingIncludes (metadata.lookup headerIncludesName) ++
          glossary.preambleLines.map includeLine))) := by
  have found := metadataOrNew?_of_ofJson read
  refine ⟨_, appendIncludes glossary.preambleLines (document.metadata.getD []), found, ?_,
    lookup_insertEntry_self _ _ _⟩
  simp only [editRoot, found]
  exact lookup_insertEntry_self _ _ _

/-- **A document stays a document.**  Whatever edits a document goes through, its root keeps
an array of blocks, and metadata that are an object if there are any.  The edited members
are those of the edited document, which is therefore read again as itself.  A preamble that
is added next finds metadata to go into, and arrives in the includes behind those already
there. -/
theorem editAll_staysDocument {value : Json} (read : ofJson value = .ok document)
    (edits : List Edit) :
    ∃ root, value = .object root ∧
      IsDocumentRoot (editRootAll root edits) ∧
      ofJson (.object (editRootAll root edits)) = .ok (document.editAll edits) ∧
      (∀ name, (document.editAll edits).toJson.member? name =
        (editRootAll root edits).lookup name) ∧
      ofJson (document.editAll edits).toJson = .ok (document.editAll edits) ∧
      ∀ glossary : Glossary, ∃ metadata described,
        metadataOrNew? (editRootAll root edits) = some metadata ∧
        (editRootAll root (edits ++ [.addPreamble glossary])).lookup "meta" =
          some (.object described) ∧
        described.lookup headerIncludesName = some (node "MetaList" (.array
          (existingIncludes (metadata.lookup headerIncludesName) ++
            glossary.preambleLines.map includeLine))) := by
  obtain ⟨root, rfl, _⟩ := ofJson_eq_ok_iff.mp read
  have reread := ofJson_editRootAll read edits
  refine ⟨root, rfl, isDocumentRoot_iff.mpr ⟨_, reread⟩, reread, ?_, ofJson_toJson reread, ?_⟩
  · exact fun name => member?_toJson_of_ofJson reread name
  · intro glossary
    have added : editRootAll root (edits ++ [.addPreamble glossary]) =
        editRoot (editRootAll root edits) (.addPreamble glossary) := by
      simp only [editRootAll, List.foldl_append, List.foldl_cons, List.foldl_nil]
    rw [added]
    exact exists_lookup_editRoot_addPreamble reread glossary

/-- The members of a document without metadata, of which one block is a placeholder. -/
def workedRoot : Json.Members :=
  [("blocks", .array [.object [("c", .array [.array [.string "acronyms"]]), ("t", .string "Div")],
      word "ac:ml"]),
    ("pandoc-api-version", .array [.integer 1])]

/-- A document is made of the members, the placeholder is rendered as a number, and the
preamble is added to metadata that were not there. -/
theorem editAll_staysDocument_workedRoot :
    ∃ document, ofJson (.object workedRoot) = .ok document ∧
      (document.editAll
        [.replaceListings fun _ _ => .integer 7, .addPreamble .empty]).toJson.member? "blocks" =
          some (.array [.integer 7, word "ac:ml"]) ∧
      IsDocumentRoot (editRootAll workedRoot
        [.replaceListings fun _ _ => .integer 7, .addPreamble .empty]) := by
  have blocks : workedRoot.lookup "blocks" = some (.array
      [.object [("c", .array [.array [.string "acronyms"]]), ("t", .string "Div")],
        word "ac:ml"]) := rfl
  have metadata : workedRoot.lookup "meta" = (none : Option Json.Members).map .object := rfl
  have read := ofJson_eq_ok blocks metadata
  obtain ⟨root, same, isRoot, _, members, _⟩ := editAll_staysDocument read
    [.replaceListings fun _ _ => .integer 7, .addPreamble .empty]
  obtain rfl := Json.object.inj same
  refine ⟨_, read, ?_, isRoot⟩
  rw [members]
  rfl

end PandocDocument

end Acronyms
