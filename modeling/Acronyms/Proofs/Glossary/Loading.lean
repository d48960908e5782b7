import Acronyms.Proofs.Acronym.Fields
import Acronyms.Proofs.Glossary.Merge

/-!
# Loading glossaries

A list of entries gives definitions (`definitionsOf`) and assignments of package options
(`assignmentsOf`), and nothing else of it matters.  It is loaded if every definition is
complete (`addEntries_eq_ok_iff`), and otherwise refused for the first one that is not
(`addEntries_eq_error_iff`).

Whether entries come in one list, or in several whose glossaries are merged afterwards,
makes no difference (`ofEntries_append`).  So every way of assembling a glossary from
sources is the loading of all their entries (`Source.load_eq_ofEntries`).  The main
statement is `load_homomorphism`: **loading takes appending to merging, and each key ends
with what it was given last**.
-/

set_option autoImplicit false

namespace Acronyms

namespace Glossary

/-! ## What entries give -/

/-- An entry names package options, or both parts of a definition. -/
def Complete (entry : Entry) : Prop :=
  entry.1 = optionsIdentifier ∨
    "long" ∈ entry.2.map (·.1) ∧ "short" ∈ entry.2.map (·.1)

/-- The definition that an entry gives by its own fields, with its identifier. -/
def definition? (entry : Entry) : Option (String × Acronym) :=
  if entry.1 = optionsIdentifier then none
  else (Acronym.ofFields entry.1 entry.2).toOption.map fun acronym => (entry.1, acronym)

/-- The definitions that entries give, one after the other. -/
def definitionsOf (entries : List Entry) : List (String × Acronym) :=
  entries.filterMap definition?

/-- The package options that entries set, one assignment after the other. -/
def assignmentsOf (entries : List Entry) : List Field :=
  entries.flatMap fun entry => if entry.1 = optionsIdentifier then entry.2 else []

/-- An error names the first incomplete definition among entries, and the part that it
lacks. -/
def FirstIncomplete (entries : List Entry) (error : DefinitionError) : Prop :=
  ∃ front fields back, entries = front ++ (error.identifier, fields) :: back ∧
    (∀ entry ∈ front, Complete entry) ∧ error.identifier ≠ optionsIdentifier ∧
    Acronym.Lacks fields error.missing

theorem not_mem_definitionsOf_options (entries : List Entry) :
    optionsIdentifier ∉ (definitionsOf entries).map (·.1) := by
  intro member
  obtain ⟨⟨identifier, acronym⟩, given, isOptions⟩ := List.mem_map.mp member
  obtain ⟨entry, _, defined⟩ := List.mem_filterMap.mp given
  unfold definition? at defined
  split at defined
  next => cases defined
  next other =>
    obtain ⟨_, _, same⟩ := Option.map_eq_some_iff.mp defined
    exact other ((congrArg Prod.fst same).trans isOptions)

/-! ## One entry -/

/-- **A complete entry is entered into the definitions or into the options.** -/
theorem addEntry_of_complete (glossary : Glossary) {entry : Entry} (complete : Complete entry) :
    glossary.addEntry entry = .ok {
      table := glossary.table.insertAll (definitionsOf [entry])
      options := glossary.options.setAll (assignmentsOf [entry]) } := by
  obtain ⟨identifier, fields⟩ := entry
  unfold addEntry
  by_cases isOptions : identifier = optionsIdentifier
  · have definitions : definitionsOf [(identifier, fields)] = [] := by
      simp [definitionsOf, definition?, isOptions]
    have assignments : assignmentsOf [(identifier, fields)] = fields := by
      simp [assignmentsOf, isOptions]
    rw [if_pos isOptions, definitions, assignments, PackageOptions.merge_ofList]
    rfl
  · obtain ⟨acronym, read⟩ :=
      (Acronym.exists_ofFields_eq_ok_iff identifier fields).mpr (complete.resolve_left isOptions)
    have definitions : definitionsOf [(identifier, fields)] = [(identifier, acronym)] := by
      simp [definitionsOf, definition?, isOptions, read, Except.toOption]
    have assignments : assignmentsOf [(identifier, fields)] = [] := by
      simp [assignmentsOf, isOptions]
    rw [if_neg isOptions, definitions, assignments]
    simp only [read]
    rfl

/-- **An incomplete definition is refused for the part that it lacks.** -/
theorem addEntry_of_lacks (glossary : Glossary) {fields : List Field} {error : DefinitionError}
    (isDefinition : error.identifier ≠ optionsIdentifier)
    (lacks : Acronym.Lacks fields error.missing) :
    glossary.addEntry (error.identifier, fields) = .error error := by
  have refused := Acronym.ofFields_eq_error_iff.mpr ⟨rfl, lacks⟩
  simp only [addEntry, if_neg isDefinition, refused]

theorem complete_or_lacks (entry : Entry) :
    Complete entry ∨ entry.1 ≠ optionsIdentifier ∧ ∃ part, Acronym.Lacks entry.2 part := by
  by_cases isOptions : entry.1 = optionsIdentifier
  · exact .inl (.inl isOptions)
  by_cases long : "long" ∈ entry.2.map (·.1)
  · by_cases short : "short" ∈ entry.2.map (·.1)
    · exact .inl (.inr ⟨long, short⟩)
    · exact .inr ⟨isOptions, .short, long, short⟩
  · exact .inr ⟨isOptions, .long, long⟩

/-! ## All entries -/

theorem addEntries_of_complete (glossary : Glossary) {entries : List Entry}
    (complete : ∀ entry ∈ entries, Complete entry) :
    glossary.addEntries entries = .ok {
      table := glossary.table.insertAll (definitionsOf entries)
      options := glossary.options.setAll (assignmentsOf entries) } := by
  induction entries generalizing glossary with
  | nil => rfl
  | cons entry rest ih =>
    obtain ⟨first, others⟩ := List.forall_mem_cons.mp complete
    have definitions : definitionsOf (entry :: rest) =
        definitionsOf [entry] ++ definitionsOf rest := List.filterMap_append (l := [entry])
    have assignments : assignmentsOf (entry :: rest) =
        assignmentsOf [entry] ++ assignmentsOf rest := by
      rw [← List.singleton_append]
      exact List.flatMap_append
    simp only [addEntries, addEntry_of_complete glossary first, ih _ others]
    rw [definitions, assignments, SortedMap.insertAll_append, PackageOptions.setAll_append]

theorem addEntries_of_firstIncomplete (glossary : Glossary) {entries : List Entry}
    {error : DefinitionError} (first : FirstIncomplete entries error) :
    glossary.addEntries entries = .error error := by
  obtain ⟨front, fields, back, rfl, complete, isDefinition, lacks⟩ := first
  induction front generalizing glossary with
  | nil =>
    rw [List.nil_append]
    simp only [addEntries, addEntry_of_lacks glossary isDefinition lacks]
  | cons entry rest ih =>
    obtain ⟨head, others⟩ := List.forall_mem_cons.mp complete
    rw [List.cons_append]
    simp only [addEntries, addEntry_of_complete glossary head]
    exact ih _ others

theorem complete_or_firstIncomplete (entries : List Entry) :
    (∀ entry ∈ entries, Complete entry) ∨ ∃ error, FirstIncomplete entries error := by
  induction entries with
  | nil => exact .inl (by simp)
  | cons entry rest ih =>
    rcases complete_or_lacks entry with first | ⟨isDefinition, part, lacks⟩
    · rcases ih with others | ⟨error, front, fields, back, split, complete, incomplete⟩
      · exact .inl (List.forall_mem_cons.mpr ⟨first, others⟩)
      · refine .inr ⟨error, entry :: front, fields, back, by rw [split]; rfl, ?_, incomplete⟩
        exact List.forall_mem_cons.mpr ⟨first, complete⟩
    · exact .inr ⟨⟨entry.1, part⟩, [], entry.2, rest, rfl, by simp, isDefinition, lacks⟩

/-- **Entries are loaded exactly if all of them are complete**, and then the definitions
and the options are those that they give. -/
theorem addEntries_eq_ok_iff {glossary extended : Glossary} {entries : List Entry} :
    glossary.addEntries entries = .ok extended ↔
      (∀ entry ∈ entries, Complete entry) ∧ extended = {
        table := glossary.table.insertAll (definitionsOf entries)
        options := glossary.options.setAll (assignmentsOf entries) } := by
  rcases complete_or_firstIncomplete entries with complete | ⟨error, first⟩
  · rw [addEntries_of_complete glossary complete, Except.ok.injEq]
    exact ⟨fun same => ⟨complete, same.symm⟩, fun loaded => loaded.2.symm⟩
  · refine iff_of_false ?_ fun loaded => ?_
    · rw [addEntries_of_firstIncomplete glossary first]
      exact nofun
    · have refused := addEntries_of_firstIncomplete glossary first
      rw [addEntries_of_complete glossary loaded.1] at refused
      cases refused

/-- **Entries are refused exactly for the first incomplete definition.** -/
theorem addEntries_eq_error_iff {glossary : Glossary} {entries : List Entry}
    {error : DefinitionError} :
    glossary.addEntries entries = .error error ↔ FirstIncomplete entries error := by
  refine ⟨fun refused => ?_, addEntries_of_firstIncomplete glossary⟩
  rcases complete_or_firstIncomplete entries with complete | ⟨other, first⟩
  · rw [addEntries_of_complete glossary complete] at refused
    cases refused
  · rw [addEntries_of_firstIncomplete glossary first] at refused
    exact Except.error.inj refused ▸ first

/-! ## Appending and merging -/

/-- Entering entries is merging with what they give on their own. -/
theorem addEntries_eq_merge (glossary : Glossary) (entries : List Entry) :
    glossary.addEntries entries = (ofEntries entries).map glossary.merge := by
  cases own : ofEntries entries with
  | error error => exact addEntries_eq_error_iff.mpr (addEntries_eq_error_iff.mp own)
  | ok loaded =>
    obtain ⟨complete, rfl⟩ := addEntries_eq_ok_iff.mp own
    refine (addEntries_of_complete glossary complete).trans (congrArg Except.ok ?_)
    exact congrArg₂ Glossary.mk (glossary.table.union_ofList _).symm
      (glossary.options.merge_ofList _).symm

theorem addEntries_append (glossary : Glossary) (front back : List Entry) :
    glossary.addEntries (front ++ back) = (do
      let first ← glossary.addEntries front
      first.addEntries back) := by
  induction front generalizing glossary with
  | nil => rfl
  | cons entry rest ih =>
    rw [List.cons_append, addEntries, addEntries]
    cases glossary.addEntry entry with
    | error error => rfl
    | ok extended => exact ih extended

/-- **Appended lists of entries give the merged glossaries of both.** -/
theorem ofEntries_append (front back : List Entry) :
    ofEntries (front ++ back) = (do
      let first ← ofEntries front
      let second ← ofEntries back
      return first.merge second) := by
  rw [ofEntries, addEntries_append, ofEntries]
  cases empty.addEntries front with
  | error error => rfl
  | ok first =>
    refine (addEntries_eq_merge first back).trans ?_
    cases ofEntries back <;> rfl

/-! ## Sources -/

/-- Where a glossary comes from: a list of entries, or two sources of which the second
wins. -/
inductive Source where
  | listed (entries : List Entry)
  | joined (first second : Source)

namespace Source

/-- All entries of a source, in order. -/
def entries : Source → List Entry
  | listed entries => entries
  | joined first second => first.entries ++ second.entries

/-- The glossary of a source: each list is loaded, and the glossaries are merged. -/
def load : Source → Except DefinitionError Glossary
  | listed entries => ofEntries entries
  | joined first second => do
    let front ← first.load
    let back ← second.load
    return front.merge back

/-- **However a glossary is assembled, it is that of all entries.** -/
theorem load_eq_ofEntries (source : Source) : source.load = ofEntries source.entries := by
  induction source with
  | listed entries => rfl
  | joined first second firstLoad secondLoad =>
    rw [load, entries, ofEntries_append, firstLoad, secondLoad]

end Source

/-- A glossary gives every identifier and every option what entries gave them last.  A
definition is taken as a whole, and none is given to the identifier of the options. -/
structure KeepsLast (entries : List Entry) (glossary : Glossary) : Prop where
  definitions : ∀ identifier,
    glossary.table.get? identifier = (definitionsOf entries).reverse.lookup identifier
  options : ∀ key, glossary.options.get? key = (assignmentsOf entries).reverse.lookup key
  reserved : glossary.table.get? optionsIdentifier = none

theorem keepsLast_of_ofEntries {entries : List Entry} {glossary : Glossary}
    (loaded : ofEntries entries = .ok glossary) : KeepsLast entries glossary := by
  obtain ⟨_, rfl⟩ := addEntries_eq_ok_iff.mp loaded
  have definitions := SortedMap.get?_ofList (definitionsOf entries)
  refine ⟨definitions, PackageOptions.get?_ofList (assignmentsOf entries),
    (definitions optionsIdentifier).trans ?_⟩
  rw [lookup_eq_none_iff_notMem, List.map_reverse, List.mem_reverse]
  exact not_mem_definitionsOf_options entries

/-- **Loading takes appending to merging.**  Glossaries form a monoid under merging, with
the order of the options included.  Appended entries are loaded exactly if both lists are,
and then give the merged glossaries; entries are refused exactly for their first incomplete
definition and its missing part.  However sources are loaded and joined, the glossary is
that of all their entries, and keeps what they gave last. -/
theorem load_homomorphism :
    (∀ first second third : Glossary,
      (first.merge second).merge third = first.merge (second.merge third)) ∧
    (∀ glossary : Glossary, empty.merge glossary = glossary ∧ glossary.merge empty = glossary) ∧
    (∀ front back glossary, ofEntries (front ++ back) = .ok glossary ↔
      ∃ first second, ofEntries front = .ok first ∧ ofEntries back = .ok second ∧
        first.merge second = glossary) ∧
    (∀ entries error, ofEntries entries = .error error ↔ FirstIncomplete entries error) ∧
    (∀ source : Source, source.load = ofEntries source.entries) ∧
    ∀ (source : Source) (glossary : Glossary), source.load = .ok glossary →
      KeepsLast source.entries glossary := by
  refine ⟨merge_assoc, fun glossary => ⟨glossary.empty_merge, glossary.merge_empty⟩,
    fun front back glossary => ?_, fun entries error => addEntries_eq_error_iff,
    Source.load_eq_ofEntries, fun source glossary loaded => ?_⟩
  · rw [ofEntries_append]
    cases ofEntries front with
    | error error => simp [bind, Except.bind]
    | ok first =>
      cases ofEntries back with
      | error error => simp [bind, Except.bind]
      | ok second => simp [bind, Except.bind, pure, Except.pure]
  · rw [Source.load_eq_ofEntries] at loaded
    exact keepsLast_of_ofEntries loaded

/-- Two files of definitions and the front matter of a document. -/
def workedSource : Source :=
  .joined
    (.listed [("ml", [("long", "maximum likelihood"), ("short", "ML"), ("short-plural", "s")]),
      ("options", [("single", "true"), ("first-style", "short")])])
    (.joined (.listed [("options", [("single", "2")])])
      (.listed [("ml", [("short", "ml"), ("long", "machine learning")])]))

/-- The later definition of the worked source does not inherit the plural of the earlier one,
and its later option stands in the place of the earlier one. -/
theorem load_homomorphism_workedSource :
    ∃ glossary, workedSource.load = .ok glossary ∧
      glossary.table.get? "ml" = some { long := "machine learning", short := "ml" } ∧
      glossary.options.get? "single" = some "2" ∧
      glossary.options.items = [("single", "2"), ("first-style", "short")] := by
  have loaded : workedSource.load = .ok {
      table := SortedMap.ofList [("ml", { long := "machine learning", short := "ml" })]
      options := .ofList [("single", "2"), ("first-style", "short")] } := by decide +kernel
  have keeps := load_homomorphism.2.2.2.2.2 workedSource _ loaded
  refine ⟨_, loaded, ?_, ?_, by decide +kernel⟩
  · rw [keeps.definitions]
    decide +kernel
  · rw [keeps.options]
    decide +kernel

end Glossary

end Acronyms
