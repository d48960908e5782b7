import Acronyms.Definitions
import Acronyms.Pandoc.Metadata
import Acronyms.Proofs.Glossary.Rearrangement

/-!
# Files and document metadata define alike

The same definitions can be written in a YAML file and in the metadata of a Pandoc document.
The file keeps them in the order in which they are written, the metadata in the order of the
names.  Their values have different types, and are turned into text by different rules.

Values that both formats know are texts and truth values (`FieldValue`), and definitions with
such values are written in both (`TypedEntries.toYaml`, `TypedEntries.toMetadata`).  Either
reader hands over entries with the same texts, the second one sorted (`ofPairs_toYaml`,
`glossary?_toMetadata`), and sorting is a rearrangement.  The main statement is
`yaml_readAlike_metadata`: **both readers refuse the definitions, exactly for one that is
incomplete, or both load the same content**.
-/

set_option autoImplicit false

namespace Acronyms

/-! ## Typed definitions -/

/-- The value of a field, in a format that has types. -/
inductive FieldValue where
  | text (value : String)
  | flag (value : Bool)
  deriving DecidableEq, Repr

namespace FieldValue

/-- The text that a value counts as. -/
def spelling : FieldValue → String
  | text value => value
  | flag value => if value then "true" else "false"

def toYaml : FieldValue → Yaml.Value
  | text value => .string value
  | flag value => .bool value

def toMetadata : FieldValue → Json
  | text value => Pandoc.node "MetaString" (.string value)
  | flag value => Pandoc.node "MetaBool" (.bool value)

end FieldValue

/-- Identifiers with their fields, in a format that has types. -/
abbrev TypedEntries := List (String × List (String × FieldValue))

namespace TypedEntries

/-- The entries that remain when the types of the values are forgotten. -/
def toEntries (definitions : TypedEntries) : List Entry :=
  definitions.map fun entry => (entry.1, entry.2.map fun field => (field.1, field.2.spelling))

/-- The mapping of the definitions, in their order. -/
def toYaml (definitions : TypedEntries) : Yaml.Value.Pairs :=
  definitions.map fun entry =>
    (.string entry.1, .mapping (entry.2.map fun field => (.string field.1, field.2.toYaml)))

/-- The definitions and the fields of each of them in the order of their names. -/
def sorted (definitions : TypedEntries) : TypedEntries :=
  (SortedMap.ofList definitions).toList.map fun entry =>
    (entry.1, (SortedMap.ofList entry.2).toList)

/-- The metadata map of the definitions.  A map has its keys in order. -/
def toMetadata (definitions : TypedEntries) : Json :=
  Pandoc.node "MetaMap" (.object (definitions.sorted.map fun entry =>
    (entry.1, Pandoc.node "MetaMap" (.object (entry.2.map fun field =>
      (field.1, field.2.toMetadata))))))

/-- Some identifier other than that of the options lacks a part of its definition. -/
def Incomplete (definitions : TypedEntries) : Prop :=
  ∃ entry ∈ definitions, entry.1 ≠ optionsIdentifier ∧
    ("long" ∉ entry.2.map (·.1) ∨ "short" ∉ entry.2.map (·.1))

/-! ## Reading the mapping -/

theorem scalarText?_toYaml (value : FieldValue) :
    value.toYaml.scalarText? = some value.spelling := by
  cases value <;> rfl

theorem fieldsOf_toYaml (identifier : String) (fields : List (String × FieldValue)) :
    Definitions.fieldsOf identifier
        (fields.map fun field => (.string field.1, field.2.toYaml)) =
      .ok (fields.map fun field => (field.1, field.2.spelling)) := by
  induction fields with
  | nil => rfl
  | cons field rest ih =>
    have named : (Yaml.Value.string field.1).scalarText? = some field.1 := rfl
    rw [List.map_cons, Definitions.fieldsOf, scalarText?_toYaml, named, ih]
    rfl

theorem entriesOf_toYaml (definitions : TypedEntries) :
    Definitions.entriesOf definitions.toYaml = .ok definitions.toEntries := by
  induction definitions with
  | nil => rfl
  | cons entry rest ih =>
    have first : Definitions.entryOf (.string entry.1)
        (.mapping (entry.2.map fun field => (.string field.1, field.2.toYaml))) =
          .ok (entry.1, entry.2.map fun field => (field.1, field.2.spelling)) := by
      simp only [Definitions.entryOf, Yaml.Value.scalarText?, fieldsOf_toYaml]
      rfl
    rw [toYaml] at ih
    rw [toYaml, List.map_cons, Definitions.entriesOf, first, ih]
    rfl

/-- **The mapping is loaded in the order of the definitions.** -/
theorem ofPairs_toYaml (definitions : TypedEntries) :
    Definitions.ofPairs definitions.toYaml =
      (Glossary.ofEntries definitions.toEntries).mapError .definition := by
  rw [Definitions.ofPairs, entriesOf_toYaml]
  dsimp only
  cases Glossary.ofEntries definitions.toEntries <;> rfl

/-! ## Reading the metadata -/

theorem metadataText?_toMetadata (value : FieldValue) :
    Pandoc.metadataText? value.toMetadata = some value.spelling := by
  cases value <;> rfl

theorem definitionFields_toMetadata (identifier : String) (fields : List (String × FieldValue)) :
    Pandoc.definitionFields identifier
        (fields.map fun field => (field.1, field.2.toMetadata)) =
      .ok (fields.map fun field => (field.1, field.2.spelling)) := by
  induction fields with
  | nil => rfl
  | cons field rest ih =>
    simp only [List.map_cons, Pandoc.definitionFields, metadataText?_toMetadata, ih]
    rfl

theorem mapEntries_node (name : String) (members : Json.Members) :
    Pandoc.mapEntries (Pandoc.node "MetaMap" (.object members)) name = .ok members := rfl

theorem definitionEntries_toMetadata (definitions : TypedEntries) :
    Pandoc.definitionEntries (definitions.map fun entry =>
        (entry.1, Pandoc.node "MetaMap" (.object (entry.2.map fun field =>
          (field.1, field.2.toMetadata))))) =
      .ok definitions.toEntries := by
  induction definitions with
  | nil => rfl
  | cons entry rest ih =>
    rw [List.map_cons, Pandoc.definitionEntries, mapEntries_node, ih]
    simp only [bind, Except.bind, definitionFields_toMetadata]
    rfl

/-- **The metadata are loaded in the order of the names.** -/
theorem glossary?_toMetadata {definitions : TypedEntries} {document : PandocDocument}
    (described : (document.metadata.bind fun metadata => metadata.lookup Pandoc.acronymsName) =
      some definitions.toMetadata) :
    document.glossary? =
      ((Glossary.ofEntries definitions.sorted.toEntries).mapError .definition).map some := by
  rw [PandocDocument.glossary?, described]
  simp only [toMetadata, mapEntries_node, bind, Except.bind, definitionEntries_toMetadata]
  cases Glossary.ofEntries definitions.sorted.toEntries <;> rfl

/-! ## Sorting is a rearrangement -/

theorem map_fst_toEntries (definitions : TypedEntries) :
    definitions.toEntries.map (·.1) = definitions.map (·.1) := by
  rw [toEntries, List.map_map]
  rfl

theorem nodup_sorted (definitions : TypedEntries) :
    (definitions.sorted.toEntries.map (·.1)).Nodup := by
  rw [map_fst_toEntries, sorted, List.map_map]
  exact (SortedMap.ofList definitions).nodup_keys

/-- Sorted fields give every name the value that it was given last. -/
theorem sameValues_sorted (fields : List (String × FieldValue)) :
    Glossary.SameValues (fields.map fun field => (field.1, field.2.spelling))
      ((SortedMap.ofList fields).toList.map fun field => (field.1, field.2.spelling)) := by
  intro name
  rw [← List.map_reverse, ← List.map_reverse, lookup_map_snd, lookup_map_snd,
    lookup_reverse_of_nodup (SortedMap.ofList fields).nodup_keys]
  exact congrArg _ (SortedMap.get?_ofList fields name).symm

/-- **Sorting rearranges definitions with distinct identifiers.** -/
theorem rearranged_sorted {definitions : TypedEntries}
    (distinct : (definitions.map (·.1)).Nodup) :
    Glossary.Rearranged definitions.toEntries definitions.sorted.toEntries := by
  intro identifier
  have found : (SortedMap.ofList definitions).toList.lookup identifier =
      definitions.lookup identifier := by
    rw [← lookup_reverse_of_nodup distinct]
    exact SortedMap.get?_ofList definitions identifier
  rw [toEntries, toEntries, sorted, lookup_map_snd, lookup_map_snd,
    lookup_map_snd fun fields => (SortedMap.ofList fields).toList, found]
  cases definitions.lookup identifier with
  | none => exact .none
  | some fields => exact .some (sameValues_sorted fields)

/-! ## Agreement -/

theorem forall_complete_toEntries_iff (definitions : TypedEntries) :
    (∀ entry ∈ definitions.toEntries, Glossary.Complete entry) ↔ ¬definitions.Incomplete := by
  simp only [toEntries, List.forall_mem_map, Incomplete, not_exists, not_and, not_or, not_not]
  refine forall₂_congr fun entry _ => ?_
  rw [Glossary.Complete, or_iff_not_imp_left]
  simp only [List.map_map, Function.comp_def]

/-- The same definitions are read from two formats: both refuse an incomplete one, or both
load the same content. -/
inductive ReadAlike :
    Except LoadError Glossary → Except MetadataError (Option Glossary) → Prop where
  | refused (first second : DefinitionError) :
      ReadAlike (.error (.definition first)) (.error (.definition second))
  | loaded {left right : Glossary} : Glossary.SameContent left right →
      ReadAlike (.ok left) (.ok (some right))

/-- **A file and the metadata of a document define alike.**  Whatever the order of the
definitions and of their fields, both readers refuse them exactly if an identifier other than
that of the options lacks a part of its definition, and otherwise load the same content. -/
theorem yaml_readAlike_metadata {definitions : TypedEntries}
    (distinct : (definitions.map (·.1)).Nodup) {document : PandocDocument}
    (described : (document.metadata.bind fun metadata => metadata.lookup Pandoc.acronymsName) =
      some definitions.toMetadata) :
    ReadAlike (Definitions.ofPairs definitions.toYaml) document.glossary? ∧
      ((∃ cause, Definitions.ofPairs definitions.toYaml = .error cause) ↔
        definitions.Incomplete) := by
  rw [ofPairs_toYaml, glossary?_toMetadata described]
  have distinctEntries : (definitions.toEntries.map (·.1)).Nodup :=
    (map_fst_toEntries definitions).symm ▸ distinct
  have rearranged := rearranged_sorted distinct
  have together := rearranged.complete_iff distinctEntries definitions.nodup_sorted
  have complete := definitions.forall_complete_toEntries_iff
  cases first : Glossary.ofEntries definitions.toEntries with
  | error error =>
    have incomplete : ¬∀ entry ∈ definitions.toEntries, Glossary.Complete entry := fun all => by
      have loaded := Glossary.addEntries_of_complete .empty all
      rw [← Glossary.ofEntries, first] at loaded
      cases loaded
    cases second : Glossary.ofEntries definitions.sorted.toEntries with
    | error other =>
      exact ⟨.refused error other, iff_of_true ⟨_, rfl⟩ (not_not.mp (mt complete.mpr incomplete))⟩
    | ok right =>
      exact absurd (together.mpr (Glossary.addEntries_eq_ok_iff.mp second).1) incomplete
  | ok left =>
    have all := (Glossary.addEntries_eq_ok_iff.mp first).1
    have second := Glossary.addEntries_of_complete .empty (together.mp all)
    rw [← Glossary.ofEntries] at second
    rw [second]
    refine ⟨.loaded (rearranged.sameContent distinctEntries definitions.nodup_sorted first second),
      iff_of_false ?_ (complete.mp all)⟩
    rintro ⟨cause, refused⟩
    cases refused

/-! ## Worked definitions -/

/-- Definitions out of order, with the options first, an irregular plural and an extra field. -/
def workedDefinitions : TypedEntries :=
  [("options", [("single", .flag true), ("first-style", .text "medium")]),
    ("poi", [("short", .text "POI"), ("long-plural-form", .text "points of interest"),
      ("long", .text "point of interest")]),
    ("ml", [("short", .text "ML"), ("long", .text "machine learning"), ("foreign", .flag false)])]

def workedDocument : PandocDocument where
  blocks := []
  metadata := some [("acronyms", workedDefinitions.toMetadata)]

def workedTable : Table :=
  SortedMap.ofList
    [("ml", { long := "machine learning", short := "ML",
              extra := SortedMap.ofList [("foreign", "false")] }),
      ("poi", { long := "point of interest", short := "POI",
                longPluralForm := some "points of interest" })]

/-- The worked definitions are loaded alike from both formats, with the options in different
places. -/
theorem yaml_readAlike_metadata_workedDefinitions :
    ∃ left right, Definitions.ofPairs workedDefinitions.toYaml = .ok left ∧
      workedDocument.glossary? = .ok (some right) ∧ Glossary.SameContent left right ∧
      left.table = workedTable ∧
      left.options.items = [("single", "true"), ("first-style", "medium")] ∧
      right.options.items = [("first-style", "medium"), ("single", "true")] := by
  have first : Definitions.ofPairs workedDefinitions.toYaml = .ok {
      table := workedTable
      options := .ofList [("single", "true"), ("first-style", "medium")] } := by decide +kernel
  have second : workedDocument.glossary? = .ok (some {
      table := workedTable
      options := .ofList [("first-style", "medium"), ("single", "true")] }) := by decide +kernel
  have distinct : (workedDefinitions.map (·.1)).Nodup := by decide
  have described : (workedDocument.metadata.bind fun metadata =>
      metadata.lookup Pandoc.acronymsName) = some workedDefinitions.toMetadata := rfl
  obtain ⟨alike, _⟩ := yaml_readAlike_metadata distinct described
  rw [first, second] at alike
  cases alike with
  | loaded same => exact ⟨_, _, first, second, same, rfl, by decide +kernel, by decide +kernel⟩

end TypedEntries

end Acronyms
