import Acronyms.Proofs.Glossary.Loading

/-!
# Rearranged entries

A source of definitions hands over its entries, and the fields of each entry, in an order of
its own.  The order decides which of two assignments is the last one, and in which place an
option is kept.  Where no identifier stands twice it decides nothing else.

Lists of entries are rearrangements of each other if they have the same identifiers, with
field lists that give every name the same value (`Rearranged`).  They are loaded together or
not at all (`Rearranged.complete_iff`), and **what they load has the same definitions and the
same value for every option** (`Rearranged.sameContent`).  Whatever is told from the values
of the options is then told alike: the single-use policy, and which of them are invalid.
-/

set_option autoImplicit false

namespace Acronyms

/-! ## Options in another order -/

namespace PackageOptions

variable {left right : PackageOptions}

/-- Options with the same values have the same items, if not in the same order. -/
theorem perm_items_of_get? (same : ∀ key, left.get? key = right.get? key) :
    left.items.Perm right.items := by
  refine (List.perm_ext_iff_of_nodup left.distinct.of_map right.distinct.of_map).mpr ?_
  rintro ⟨key, value⟩
  rw [← lookup_eq_some_iff_mem_of_nodup left.distinct,
    ← lookup_eq_some_iff_mem_of_nodup right.distinct]
  exact iff_of_eq (congrArg (· = some value) (same key))

theorem perm_problems_of_get? (same : ∀ key, left.get? key = right.get? key) :
    left.problems.Perm right.problems :=
  ((perm_items_of_get? same).filter _).map _

theorem single_of_get? (same : ∀ key, left.get? key = right.get? key) :
    left.single = right.single := by
  rw [single, single, same]

end PackageOptions

namespace Glossary

/-- Two glossaries have the same definitions, and the same value for every option.  The
single-use policy is the same as well, and the same options are invalid. -/
structure SameContent (left right : Glossary) : Prop where
  table : left.table = right.table
  options : ∀ key, left.options.get? key = right.options.get? key
  single : left.options.single = right.options.single
  problems : left.options.problems.Perm right.options.problems

theorem sameContent_of_get? {left right : Glossary} (table : left.table = right.table)
    (options : ∀ key, left.options.get? key = right.options.get? key) : SameContent left right :=
  ⟨table, options, PackageOptions.single_of_get? options,
    PackageOptions.perm_problems_of_get? options⟩

/-! ## Rearrangements -/

/-- Two field lists give every name the same value. -/
def SameValues (fields others : List Field) : Prop :=
  ∀ name, fields.reverse.lookup name = others.reverse.lookup name

theorem SameValues.mem_names_iff {fields others : List Field} (same : SameValues fields others)
    (name : String) : name ∈ fields.map (·.1) ↔ name ∈ others.map (·.1) := by
  have named : ∀ list : List Field, list.reverse.lookup name = none ↔ name ∉ list.map (·.1) := by
    intro list
    rw [lookup_eq_none_iff_notMem, List.map_reverse, List.mem_reverse]
  rw [← not_iff_not, ← named, ← named, same]

theorem SameValues.complete_iff {fields others : List Field} (same : SameValues fields others)
    (identifier : String) : Complete (identifier, fields) ↔ Complete (identifier, others) :=
  or_congr_right (and_congr (same.mem_names_iff "long") (same.mem_names_iff "short"))

/-- Two lists of entries have the same identifiers, with the same values in their fields. -/
def Rearranged (entries others : List Entry) : Prop :=
  ∀ identifier, Option.Rel SameValues (entries.lookup identifier) (others.lookup identifier)

/-! ## What entries with distinct identifiers give -/

section Distinct

variable {entries : List Entry} (distinct : (entries.map (·.1)).Nodup)

include distinct

theorem forall_complete_iff :
    (∀ entry ∈ entries, Complete entry) ↔
      ∀ identifier fields, entries.lookup identifier = some fields →
        Complete (identifier, fields) := by
  simp only [Prod.forall, lookup_eq_some_iff_mem_of_nodup distinct]

/-- An identifier gets the definition of its own entry. -/
theorem get?_definitionsOf (identifier : String) :
    (SortedMap.ofList (definitionsOf entries)).get? identifier =
      (entries.lookup identifier).bind fun fields =>
        (definition? (identifier, fields)).map (·.2) := by
  have keeps : ∀ (entry : Entry) selected, definition? entry = some selected →
      selected.1 = entry.1 := by
    intro entry selected defined
    unfold definition? at defined
    split at defined
    next => cases defined
    next =>
      obtain ⟨_, _, rfl⟩ := Option.map_eq_some_iff.mp defined
      rfl
  rw [SortedMap.get?_ofList, definitionsOf,
    lookup_reverse_of_nodup (nodup_keys_filterMap keeps distinct),
    lookup_filterMap_of_nodup keeps distinct]

/-- The assignments are the fields of the only entry that names options. -/
theorem assignmentsOf_eq : assignmentsOf entries = (entries.lookup optionsIdentifier).getD [] := by
  induction entries with
  | nil => rfl
  | cons entry rest ih =>
    obtain ⟨fresh, distinctRest⟩ := List.nodup_cons.mp distinct
    have later := ih distinctRest
    rw [assignmentsOf, List.flatMap_cons]
    rw [assignmentsOf] at later
    by_cases isOptions : entry.1 = optionsIdentifier
    · have others : rest.lookup optionsIdentifier = none :=
        lookup_eq_none_iff_notMem.mpr (isOptions ▸ fresh)
      rw [later, others, if_pos isOptions, ← isOptions, lookup_cons_same, Option.getD_none,
        Option.getD_some, List.append_nil]
    · rw [later, if_neg isOptions, lookup_cons_of_ne (Ne.symm isOptions), List.nil_append]

end Distinct

/-! ## Rearrangements load alike -/

namespace Rearranged

variable {entries others : List Entry} (rearranged : Rearranged entries others)
  (distinct : (entries.map (·.1)).Nodup) (distinctOthers : (others.map (·.1)).Nodup)

include rearranged distinct distinctOthers

/-- **Rearranged entries are complete together.** -/
theorem complete_iff :
    (∀ entry ∈ entries, Complete entry) ↔ ∀ entry ∈ others, Complete entry := by
  rw [forall_complete_iff distinct, forall_complete_iff distinctOthers]
  refine forall_congr' fun identifier => ?_
  have related := rearranged identifier
  generalize entries.lookup identifier = own, others.lookup identifier = other at related ⊢
  cases related with
  | none => simp
  | some same => simp [same.complete_iff identifier]

/-- **Rearranged entries load the same content.** -/
theorem sameContent {left right : Glossary} (first : ofEntries entries = .ok left)
    (second : ofEntries others = .ok right) : SameContent left right := by
  obtain ⟨_, rfl⟩ := addEntries_eq_ok_iff.mp first
  obtain ⟨_, rfl⟩ := addEntries_eq_ok_iff.mp second
  refine sameContent_of_get? (SortedMap.ext_get? fun identifier => ?_) fun key => ?_
  · have definitions := get?_definitionsOf distinct identifier
    have otherDefinitions := get?_definitionsOf distinctOthers identifier
    refine definitions.trans (Eq.trans ?_ otherDefinitions.symm)
    have related := rearranged identifier
    generalize entries.lookup identifier = own, others.lookup identifier = other at related ⊢
    cases related with
    | none => rfl
    | some same =>
      simp only [Option.bind_some, definition?, Acronym.ofFields_congr identifier same]
  · have assignments := PackageOptions.get?_ofList (assignmentsOf entries) key
    have otherAssignments := PackageOptions.get?_ofList (assignmentsOf others) key
    refine assignments.trans (Eq.trans ?_ otherAssignments.symm)
    rw [assignmentsOf_eq distinct, assignmentsOf_eq distinctOthers]
    have related := rearranged optionsIdentifier
    generalize entries.lookup optionsIdentifier = own,
      others.lookup optionsIdentifier = other at related ⊢
    cases related with
    | none => rfl
    | some same => exact same key

end Rearranged

end Glossary

end Acronyms
