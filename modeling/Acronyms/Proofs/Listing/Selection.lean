import Acronyms.Listing
import Acronyms.Proofs.Usage.Order

/-!
# What a listing selects

A listing selects defined identifiers only, so it yields every identifier that it selects
(`map_identifier_toList_make`).  By name they stand in the order of the code points.  With a
registry that reflects a history it lists, by first use, the first-use order of the history,
and the unused acronyms behind.

Whether by name or by first use, **no acronym is listed twice, and the same ones are listed**
(`nodup_identifiers`, `perm_identifiers`).
-/

set_option autoImplicit false

namespace Acronyms.Listing

/-! ## What a listing yields -/

/-- Defined identifiers all become entries. -/
theorem map_identifier_entriesOf (table : Table) (mode : OutputMode) {identifiers : List String}
    (defined : ∀ identifier ∈ identifiers, identifier ∈ table.keys) :
    (entriesOf table mode identifiers).map ListingEntry.identifier = identifiers := by
  induction identifiers with
  | nil => rfl
  | cons identifier rest ih =>
    obtain ⟨acronym, found⟩ := SortedMap.mem_keys_iff.mp (defined identifier List.mem_cons_self)
    rw [entriesOf, found]
    exact congrArg (identifier :: ·) (ih fun later member =>
      defined later (List.mem_cons_of_mem identifier member))

/-- A listing selects defined identifiers only. -/
theorem mem_keys_of_mem_identifiers {table : Table} {registry : UsageRegistry}
    {filter : ListingFilter} {sort : ListingSort} {identifier : String}
    (member : identifier ∈ identifiers table registry filter sort) : identifier ∈ table.keys := by
  cases sort with
  | alphabetical => exact (List.mem_filter.mp member).1
  | firstUse =>
    rcases List.mem_append.mp member with used | unused
    · obtain ⟨_, selected⟩ := List.mem_filter.mp used
      rw [Bool.and_eq_true] at selected
      exact SortedMap.mem_keys_iff.mpr (Option.isSome_iff_exists.mp selected.1)
    · cases filter with
      | all => exact (List.mem_filter.mp unused).1
      | used => cases unused

/-- **A listing yields every identifier that it selects.** -/
theorem map_identifier_toList_make (table : Table) (registry : UsageRegistry) (mode : OutputMode)
    (filter : ListingFilter) (sort : ListingSort) :
    (make table registry mode filter sort).toList.map ListingEntry.identifier =
      identifiers table registry filter sort :=
  map_identifier_entriesOf table mode fun _ => mem_keys_of_mem_identifiers

/-- By name, a listing is in the order of the code points. -/
theorem pairwise_identifiers_alphabetical (table : Table) (registry : UsageRegistry)
    (filter : ListingFilter) :
    (identifiers table registry filter .alphabetical).Pairwise (· < ·) := by
  have increase : table.keys.Pairwise (· < ·) :=
    table.pairwise_keys.imp fun order => compareOfLessAndEq_eq_lt.mp order
  exact increase.filter _

theorem identifiers_all_alphabetical (table : Table) (registry : UsageRegistry) :
    identifiers table registry .all .alphabetical = table.keys :=
  List.filter_eq_self.mpr fun _ _ => rfl

/-- By first use, the unused acronyms follow the used ones. -/
theorem identifiers_all_firstUse (table : Table) (registry : UsageRegistry) :
    identifiers table registry .all .firstUse =
      identifiers table registry .used .firstUse ++
        table.keys.filter fun identifier => !isUsed registry identifier := by
  simp only [identifiers, List.append_nil]

section History

variable {table : Table} {registry : UsageRegistry} {history : List UsageRegistry.Step}

theorem isUsed_iff (reflects : registry.Reflects history) {identifier : String} :
    isUsed registry identifier = true ↔ identifier ∈ UsageRegistry.countedOrder history := by
  rw [isUsed, decide_eq_true_iff, reflects.accountsFor.seenCount]
  exact UsageRegistry.timesCounted_pos_iff

theorem mem_identifiers_used_firstUse (reflects : registry.Reflects history)
    {identifier : String} :
    identifier ∈ identifiers table registry .used .firstUse ↔
      identifier ∈ table.keys ∧ isUsed registry identifier = true := by
  have known : table.contains identifier = true ↔ identifier ∈ table.keys :=
    Option.isSome_iff_exists.trans SortedMap.mem_keys_iff.symm
  rw [identifiers, List.append_nil, List.mem_filter, Bool.and_eq_true, known,
    reflects.firstUseOrder_eq, UsageRegistry.mem_recordedOrder_append_notedOrder,
    ← isUsed_iff reflects]
  exact ⟨fun selected => selected.2, fun selected => ⟨selected.2, selected⟩⟩

theorem nodup_identifiers_used_firstUse (reflects : registry.Reflects history) :
    (identifiers table registry .used .firstUse).Nodup := by
  rw [identifiers, List.append_nil, reflects.firstUseOrder_eq]
  exact (UsageRegistry.nodup_recordedOrder_append_notedOrder history).filter _

/-- By first use, no acronym is listed twice, even with the unused ones behind. -/
theorem nodup_identifiers_all_firstUse (reflects : registry.Reflects history) :
    (identifiers table registry .all .firstUse).Nodup := by
  rw [identifiers_all_firstUse]
  refine List.nodup_append.mpr
    ⟨nodup_identifiers_used_firstUse reflects, table.nodup_keys.filter _, ?_⟩
  intro used member unused other same
  have isUsed := ((mem_identifiers_used_firstUse reflects).mp member).2
  have isUnused := (List.mem_filter.mp other).2
  rw [← same, isUsed] at isUnused
  cases isUnused

/-- **A listing selects the defined acronyms, or the used ones of them**, in either order. -/
theorem mem_identifiers (reflects : registry.Reflects history) {filter : ListingFilter}
    {sort : ListingSort} {identifier : String} :
    identifier ∈ identifiers table registry filter sort ↔
      identifier ∈ table.keys ∧ (filter = .all ∨ isUsed registry identifier = true) := by
  cases sort with
  | alphabetical => simp [identifiers]
  | firstUse =>
    cases filter with
    | used => simp [mem_identifiers_used_firstUse reflects]
    | all =>
      rw [identifiers_all_firstUse, List.mem_append, mem_identifiers_used_firstUse reflects]
      cases used : isUsed registry identifier <;> simp [used]

/-- **No acronym is listed twice.** -/
theorem nodup_identifiers (reflects : registry.Reflects history) (filter : ListingFilter)
    (sort : ListingSort) : (identifiers table registry filter sort).Nodup := by
  cases sort with
  | alphabetical => exact table.nodup_keys.filter _
  | firstUse =>
    cases filter with
    | used => exact nodup_identifiers_used_firstUse reflects
    | all => exact nodup_identifiers_all_firstUse reflects

/-- **By name and by first use, the same acronyms are listed.** -/
theorem perm_identifiers (reflects : registry.Reflects history) (filter : ListingFilter) :
    (identifiers table registry filter .alphabetical).Perm
      (identifiers table registry filter .firstUse) := by
  refine (List.perm_ext_iff_of_nodup (nodup_identifiers reflects filter .alphabetical)
    (nodup_identifiers reflects filter .firstUse)).mpr fun identifier => ?_
  rw [mem_identifiers reflects, mem_identifiers reflects]

theorem perm_identifiers_used (reflects : registry.Reflects history) :
    (identifiers table registry .used .alphabetical).Perm
      (identifiers table registry .used .firstUse) :=
  perm_identifiers reflects .used

/-- By first use, the used acronyms are the defined ones of the first-use order. -/
theorem identifiers_used_firstUse_eq_filter (reflects : registry.Reflects history) :
    identifiers table registry .used .firstUse =
      registry.firstUseOrder.filter fun identifier => table.contains identifier := by
  rw [identifiers, List.append_nil]
  refine List.filter_congr fun identifier member => ?_
  rw [reflects.firstUseOrder_eq, UsageRegistry.mem_recordedOrder_append_notedOrder,
    ← isUsed_iff reflects] at member
  rw [member, Bool.and_true]

/-- When every counted identifier is defined, the used acronyms by first use are the
first-use order of the history. -/
theorem identifiers_used_firstUse (reflects : registry.Reflects history)
    (defined : ∀ identifier ∈ UsageRegistry.countedOrder history, identifier ∈ table.keys) :
    identifiers table registry .used .firstUse =
      UsageRegistry.recordedOrder history ++ UsageRegistry.notedOrder history := by
  rw [identifiers, List.append_nil, reflects.firstUseOrder_eq, List.filter_eq_self]
  intro identifier member
  have counted := UsageRegistry.mem_recordedOrder_append_notedOrder.mp member
  have known : table.contains identifier = true :=
    Option.isSome_iff_exists.mpr (SortedMap.mem_keys_iff.mp (defined identifier counted))
  rw [known, (isUsed_iff reflects).mpr counted, Bool.and_self]

end History

end Acronyms.Listing
