import Acronyms.Proofs.ExpandedText.Agreement
import Acronyms.Proofs.Expansion.Success
import Acronyms.Proofs.Pandoc.Placeholders
import Acronyms.Proofs.Pandoc.Root

/-!
# What a filter may touch

A filter takes a document through three stages: its words are expanded, a preamble is added
when the output is typeset, and the listings are rendered.  Only reading the definitions and
expanding the words can fail (`run_eq_error_iff`).

The stages work on the same tree, each on what the one before it made.  The frame of all of
them together is stated on JSON values, from the value that the document was read from to the
value that is written (`Touches`).  The blocks differ only by words that are markers and by
placeholders (`retouched_of_walks`), and no placeholder is left, since no listing is a
placeholder or has one inside.

The main statement is `run_touches`: **a filter fails exactly when the definitions of a
document cannot be read or its words cannot be expanded, and touches nothing but markers,
placeholders and, in typeset output, the includes of the header**.
-/

set_option autoImplicit false

namespace Acronyms.PandocFilter

open Pandoc

variable (filter : PandocFilter)

/-! ## Definitions in effect -/

/-- Definitions are in effect for a document that has some of its own or gets shared ones. -/
def InEffect (own : Option Glossary) : Prop :=
  own.isSome = true ∨ filter.shared.table.isEmpty = false

/-- The shared definitions, with those of the document merged into them. -/
def definitions (own : Option Glossary) : Glossary := filter.shared.merge (own.getD .empty)

/-- The expansion of a document under the definitions in effect. -/
def expand (own : Option Glossary) (document : PandocDocument) :
    Except ExpansionError (PandocDocument × UsageRegistry) :=
  Expansion.expand (filter.definitions own).table filter.mode
    (filter.policy.withOptions (filter.definitions own).options) document

variable {filter}

theorem effective?_eq_none {own : Option Glossary} (undefined : ¬filter.InEffect own) :
    filter.effective? own = none := by
  obtain ⟨absent, empty⟩ := not_or.mp undefined
  cases own with
  | some own => exact absurd rfl absent
  | none => exact if_pos (eq_true_of_ne_false empty)

/-! ## When a filter fails -/

/-- **A filter fails exactly when the definitions of a document cannot be read, or when they
are in effect and its words cannot be expanded.** -/
theorem run_eq_error_iff {document : PandocDocument} {error : PandocError} :
    filter.run document = .error error ↔
      (∃ cause, document.glossary? = .error cause ∧ error = .metadata cause) ∨
      ∃ own cause, document.glossary? = .ok own ∧ filter.InEffect own ∧
        filter.expand own document = .error cause ∧ error = .expansion cause := by
  unfold run
  cases document.glossary? with
  | error cause => simp [eq_comm]
  | ok own =>
    by_cases defined : filter.InEffect own
    · have effective : filter.effective? own = some (filter.definitions own) :=
        effective?_eq_some defined
      have expanded : Expansion.expand (filter.definitions own).table filter.mode
          (filter.policy.withOptions (filter.definitions own).options) document =
            filter.expand own document := rfl
      simp only [effective, expanded]
      cases result : filter.expand own document with
      | error cause => simp [defined, result, eq_comm]
      | ok expanded => simp [defined, result]
    · simp only [effective?_eq_none defined]
      simp [defined]

/-- Under definitions in effect, a filtered document is the expanded one, finished. -/
theorem run_eq_ok {document : PandocDocument} {own : Option Glossary} {filtered : Filtered}
    (metadata : document.glossary? = .ok own) (defined : filter.InEffect own)
    (ran : filter.run document = .ok filtered) :
    ∃ replacements registry,
      Expansion.plan (filter.definitions own).table filter.mode
        (filter.policy.withOptions (filter.definitions own).options) .empty document.words =
          .ok (replacements, registry) ∧
      filtered = filter.finish (filter.definitions own) (Document.apply replacements document)
        registry := by
  have effective : filter.effective? own = some (filter.definitions own) :=
    effective?_eq_some defined
  simp only [run, metadata, effective] at ran
  split at ran
  next => cases ran
  next expanded registry result =>
    obtain ⟨replacements, planned, rfl⟩ := Expansion.expandFrom_eq_ok result
    exact ⟨replacements, registry, planned, (Except.ok.inj ran).symm⟩

/-- A document without definitions in effect passes through. -/
theorem run_of_not_inEffect {document : PandocDocument} {own : Option Glossary}
    (metadata : document.glossary? = .ok own) (undefined : ¬filter.InEffect own) :
    filter.run document = .ok { document } := by
  simp only [run, metadata, effective?_eq_none undefined]

/-! ## What words are rewritten to -/

/-- A text is a marker of a defined acronym, and an inline is its rendering in some variant,
followed by the trailing text of the marker. -/
def Expands (filter : PandocFilter) (glossary : Glossary) (text : String) (inline : Inline) : Prop :=
  ∃ marker acronym variant output, Marker.read? text = .ok (some marker) ∧
    glossary.table.get? marker.identifier = some acronym ∧
    filter.mode.render marker acronym variant filter.policy.pluralSuffix = .ok output ∧
    inline = filter.mode.inline (output ++ marker.trailing)

/-- **Only markers are planned to be replaced**, each by its rendering. -/
theorem expands_of_plan {glossary : Glossary} {registry after : UsageRegistry}
    {tokens : List String} {replacements : Replacements}
    (planned : Expansion.plan glossary.table filter.mode
      (filter.policy.withOptions glossary.options) registry tokens = .ok (replacements, after))
    {position : Nat} {text : String} {inline : Inline} (stands : tokens[position]? = some text)
    (replaced : replacements.get? position = some inline) :
    filter.Expands glossary text inline := by
  cases read : Marker.read? text with
  | error fault =>
    obtain ⟨found, readable⟩ :=
      (Expansion.readable_of_plan planned).1 text (List.mem_of_getElem? stands)
    rw [read] at readable
    cases readable
  | ok found =>
    cases found with
    | none =>
      have nothing := Expansion.get?_of_plan planned position
      rw [Expansion.inlineAt, Expansion.outcomeAt_of_ordinary _ _ _ _ _ stands read,
        replaced] at nothing
      cases nothing
    | some marker =>
      obtain ⟨acronym, output, defined, rendered, placed⟩ :=
        Expansion.rendered_of_plan planned stands read
      exact ⟨marker, acronym, _, output, read, defined, rendered,
        Option.some.inj (replaced.symm.trans placed)⟩

/-! ## What listings are rendered as -/

/-- A listing is an object and neither a placeholder nor has one inside. -/
theorem listingBlock_clean (filter : PandocFilter) (table : Table) (registry : UsageRegistry)
    (placeholder : ListingPlaceholder) :
    (∃ members, filter.listingBlock table registry placeholder = .object members) ∧
      NoPlaceholder (filter.listingBlock table registry placeholder) := by
  unfold listingBlock
  cases filter.mode with
  | latex => exact ⟨⟨_, rfl⟩, noPlaceholder_rawNode (by decide) _ _⟩
  | plain =>
    refine ⟨⟨_, rfl⟩, noPlaceholder_node (by decide) (noPlaceholder_array fun item member => ?_)⟩
    obtain ⟨entry, _, rfl⟩ := List.mem_map.mp member
    refine noPlaceholder_array fun block inside => ?_
    obtain rfl := List.mem_singleton.mp inside
    exact noPlaceholder_node (by decide)
      (noPlaceholder_array (noPlaceholder_textInlines entry.text))

/-! ## The frame -/

/-- How the value of a filtered document differs from that of the document, under some
definitions and with the usage that the filter ends with. -/
structure Touches (filter : PandocFilter) (glossary : Glossary) (registry : UsageRegistry)
    (value after : Json) : Prop where
  /-- Members that are neither blocks nor metadata stay, and there are no new ones. -/
  others : ∀ name, name ≠ "blocks" → name ≠ "meta" → after.member? name = value.member? name
  /-- Plain output leaves the metadata alone, also where there are none. -/
  plain : filter.mode = .plain → after.member? "meta" = value.member? "meta"
  /-- Typeset output has metadata, made of none if need be, and leaves all of them but the
  includes of the header alone. -/
  latex : filter.mode = .latex → ∃ metadata described,
    (value.member? "meta").getD (.object []) = .object metadata ∧
      after.member? "meta" = some (.object described) ∧
      ∀ name, name ≠ headerIncludesName → described.lookup name = metadata.lookup name
  /-- The blocks differ only by markers that are expanded and placeholders that are rendered,
  and no placeholder is left. -/
  blocks : ∃ before later, value.member? "blocks" = some before ∧
    after.member? "blocks" = some later ∧
      Retouched (filter.Expands glossary) (filter.listingBlock glossary.table registry)
        before later ∧
      NoPlaceholder later

section Finish

variable (filter)

theorem others_finish (glossary : Glossary) (document : PandocDocument)
    (registry : UsageRegistry) :
    (filter.finish glossary document registry).document.others = document.others := by
  unfold finish
  cases filter.mode with
  | plain => rfl
  | latex => rfl

theorem metadata_finish_of_plain (plain : filter.mode = .plain) (glossary : Glossary)
    (document : PandocDocument) (registry : UsageRegistry) :
    (filter.finish glossary document registry).document.metadata = document.metadata := by
  simp only [finish, plain]
  rfl

theorem metadata_finish_of_latex (latex : filter.mode = .latex) (glossary : Glossary)
    (document : PandocDocument) (registry : UsageRegistry) :
    (filter.finish glossary document registry).document.metadata =
      some (appendIncludes glossary.preambleLines (document.metadata.getD [])) := by
  simp only [finish, latex]
  rfl

end Finish

/-- **An expanded and finished document touches nothing else.** -/
theorem touches_finish {value : Json} {document : PandocDocument}
    (read : PandocDocument.ofJson value = .ok document) {glossary : Glossary}
    {replacements : Replacements} {registry : UsageRegistry}
    (justified : ∀ index text inline, document.words[index]? = some text →
      replacements.get? index = some inline → filter.Expands glossary text inline) :
    filter.Touches glossary registry value
      (filter.finish glossary (Document.apply replacements document) registry).document.toJson := by
  obtain ⟨members, rfl, blocks, metadata, others⟩ := PandocDocument.ofJson_eq_ok_iff.mp read
  have written := PandocDocument.lookup_toMembers_of_others
    ((filter.others_finish glossary (Document.apply replacements document) registry).trans others)
  have described := (written "meta").trans (if_neg (by decide))
  rw [if_pos rfl] at described
  constructor
  case others =>
    intro name notBlocks notMeta
    exact (written name).trans ((if_neg notBlocks).trans (if_neg notMeta))
  case plain =>
    intro plain
    rw [filter.metadata_finish_of_plain plain] at described
    exact described.trans metadata.symm
  case latex =>
    intro latex
    rw [filter.metadata_finish_of_latex latex] at described
    refine ⟨document.metadata.getD [], _, ?_, described, fun name differ => ?_⟩
    · have found : (Json.object members).member? "meta" = document.metadata.map .object := metadata
      rw [found]
      cases document.metadata with
      | none => rfl
      | some metadata => rfl
    · exact lookup_insertEntry_of_ne _ differ _
  case blocks =>
    refine ⟨document.tree, _, blocks, (written "blocks").trans (if_pos rfl), ?_⟩
    have tree := filter.tree_finish glossary (Document.apply replacements document) registry
    rw [PandocDocument.tree] at tree
    rw [tree, PandocDocument.tree_apply]
    have clean := filter.listingBlock_clean glossary.table registry
    constructor
    · refine retouched_of_walks _ replacements document.tree 0 0 fun index text inline stands => ?_
      rw [Nat.zero_add]
      exact justified index text inline stands
    · exact noPlaceholder_renderListings (fun _ placeholder => (clean placeholder).1)
        (fun _ placeholder => (clean placeholder).2) _ 0

/-- **What a filter may touch.**  A filter fails exactly when the definitions of the document
cannot be read, or when definitions are in effect and the words cannot be expanded.  Without
definitions in effect a document passes through unchanged.  With them, only markers and
placeholders under the blocks change, and in typeset output the includes of the header. -/
theorem run_touches (filter : PandocFilter) {value : Json} {document : PandocDocument}
    (read : PandocDocument.ofJson value = .ok document) :
    (∀ error, filter.run document = .error error ↔
      (∃ cause, document.glossary? = .error cause ∧ error = .metadata cause) ∨
      ∃ own cause, document.glossary? = .ok own ∧ filter.InEffect own ∧
        filter.expand own document = .error cause ∧ error = .expansion cause) ∧
    ∀ own, document.glossary? = .ok own →
      (¬filter.InEffect own → filter.run document = .ok { document }) ∧
      (filter.InEffect own → ∀ filtered, filter.run document = .ok filtered →
        filter.Touches (filter.definitions own) filtered.registry value
          filtered.document.toJson) := by
  refine ⟨fun error => run_eq_error_iff, fun own metadata => ⟨run_of_not_inEffect metadata, ?_⟩⟩
  intro defined filtered ran
  obtain ⟨replacements, registry, planned, rfl⟩ := run_eq_ok metadata defined ran
  exact touches_finish read fun index text inline stands replaced =>
    expands_of_plan planned stands replaced

/-! ## A worked document -/

/-- A document without metadata, with a marker and a placeholder, and with a second
placeholder where no word is looked for. -/
def workedDocument : PandocDocument where
  blocks :=
    let placeholder := node "Div" (.array [.array [.string "acronyms"]])
    [node "Para" (.array [word "ac:ml"]), placeholder, node "Code" (.array [placeholder])]

/-- The members of the document. -/
def workedMembers : Json.Members := [("blocks", .array workedDocument.blocks)]

/-- A filter for typeset output that shares one definition. -/
def workedFilter : PandocFilter where
  mode := .latex
  shared := { table := SortedMap.ofList [("ml", { long := "machine learning", short := "ML" })] }

theorem run_touches_workedMembers :
    ∃ document filtered, PandocDocument.ofJson (.object workedMembers) = .ok document ∧
      document.glossary? = .ok none ∧ workedFilter.run document = .ok filtered ∧
      workedFilter.Touches workedFilter.shared filtered.registry
        (.object workedMembers) filtered.document.toJson := by
  have undescribed : workedMembers.lookup "meta" = Option.map .object none := rfl
  have read : PandocDocument.ofJson (.object workedMembers) = .ok workedDocument :=
    PandocDocument.ofJson_eq_ok rfl undescribed
  have metadata : workedDocument.glossary? = .ok none := rfl
  have expands : (workedFilter.run workedDocument).toOption.isSome = true := by decide +kernel
  obtain ⟨_, touches⟩ := run_touches workedFilter read
  cases ran : workedFilter.run workedDocument with
  | error error =>
    rw [ran] at expands
    cases expands
  | ok filtered =>
    have touched := (touches none metadata).2 (.inr rfl) filtered ran
    rw [definitions, Option.getD_none, Glossary.merge_empty] at touched
    exact ⟨workedDocument, filtered, read, metadata, ran, touched⟩

end Acronyms.PandocFilter
