import Acronyms.Proofs.Usage.History

/-!
# The first-use order of a history

A registry sorts its entries by rank.  Entries that were recorded come before the
others, by the order in which they were first recorded; the others follow by the order
in which they were first counted.  The relation is a linear preorder on entries
(`UsageEntry.precedes_trans`, `UsageEntry.precedes_total`), and no two entries of one
registry tie, because they were not first counted at the same time.  Hence the order
does not depend on how the entries are enumerated, and the history determines it
(`Reflects.orderOf_eq`).

The main statement is `orderOf_run_eq_history`: **after any run, and however the entries
are enumerated, the first-use order lists the identifiers since the last reset by their
first recording, and behind them those that were only noted by their first note**.  A
first use that is consumed keeps its place from then on.
-/

set_option autoImplicit false

namespace Acronyms

/-! ## The order on entries -/

namespace UsageEntry

theorem precedes_trans {first second third : UsageEntry} (earlier : first.precedes second = true)
    (later : second.precedes third = true) : first.precedes third = true := by
  unfold precedes at earlier later ⊢
  cases firstRank : first.firstUseRank <;> cases secondRank : second.firstUseRank <;>
    cases thirdRank : third.firstUseRank <;> simp_all <;> omega

theorem precedes_total (left right : UsageEntry) :
    (left.precedes right || right.precedes left) = true := by
  unfold precedes
  cases leftRank : left.firstUseRank <;> cases rightRank : right.firstUseRank <;> simp <;> omega

/-- Two entries tie only if they were first seen at the same time. -/
theorem seenRank_eq_of_precedes {left right : UsageEntry} (before : left.precedes right = true)
    (after : right.precedes left = true) : left.seenRank = right.seenRank := by
  unfold precedes at before after
  cases leftRank : left.firstUseRank <;> cases rightRank : right.firstUseRank <;>
    simp [leftRank, rightRank] at before after <;> omega

end UsageEntry

namespace UsageRegistry

/-! ## The order of a history -/

/-- The identifiers that a history counts without recording them, in the order in which
they were first counted. -/
def notedOrder (history : List Step) : List String :=
  (countedOrder history).filter fun identifier => !(recordedOrder history).contains identifier

theorem mem_notedOrder {history : List Step} {identifier : String} :
    identifier ∈ notedOrder history ↔
      identifier ∈ countedOrder history ∧ identifier ∉ recordedOrder history := by
  simp [notedOrder]

theorem nodup_recordedOrder_append_notedOrder (history : List Step) :
    (recordedOrder history ++ notedOrder history).Nodup := by
  refine List.nodup_append.mpr ⟨nodup_recordedOrder _, (nodup_countedOrder _).filter _, ?_⟩
  intro recorded member noted other same
  exact (mem_notedOrder.mp other).2 (same ▸ member)

theorem mem_recordedOrder_append_notedOrder {history : List Step} {identifier : String} :
    identifier ∈ recordedOrder history ++ notedOrder history ↔
      identifier ∈ countedOrder history := by
  have counted : identifier ∈ recordedOrder history → identifier ∈ countedOrder history :=
    fun member => mem_countedOrder.mpr (Or.inl (mem_recordedOrder.mp member))
  rw [List.mem_append, mem_notedOrder]
  by_cases recorded : identifier ∈ recordedOrder history
  · simp [recorded, counted recorded]
  · simp [recorded]

namespace Reflects

variable {registry : UsageRegistry} {history : List Step}

theorem seenRank_entryOrNew (reflects : Reflects registry history) (identifier : String) :
    (registry.entryOrNew identifier).seenRank = (countedOrder history).idxOf identifier := by
  rw [reflects.entryOrNew_eq]
  exact List.findIdx_eq_getD_findIdx?.symm

theorem firstUseRank_entryOrNew_of_mem (reflects : Reflects registry history)
    {identifier : String} (recorded : identifier ∈ recordedOrder history) :
    (registry.entryOrNew identifier).firstUseRank =
      some ((recordedOrder history).idxOf identifier) := by
  rw [reflects.entryOrNew_eq]
  obtain ⟨rank, found⟩ := Option.isSome_iff_exists.mp (List.isSome_idxOf?.mpr recorded)
  have position : (recordedOrder history).idxOf identifier = rank := by
    rw [List.idxOf, List.findIdx_eq_getD_findIdx?]
    exact congrArg (Option.getD · _) found
  rw [position]
  exact found

theorem firstUseRank_entryOrNew_of_notMem (reflects : Reflects registry history)
    {identifier : String} (unrecorded : identifier ∉ recordedOrder history) :
    (registry.entryOrNew identifier).firstUseRank = none := by
  rw [reflects.entryOrNew_eq]
  exact List.idxOf?_eq_none_iff.mpr unrecorded

/-- In the order of the history every identifier precedes the later ones. -/
theorem pairwise_precedes (reflects : Reflects registry history) :
    (recordedOrder history ++ notedOrder history).Pairwise fun left right =>
      (registry.entryOrNew left).precedes (registry.entryOrNew right) = true := by
  refine List.pairwise_append.mpr ⟨?_, ?_, ?_⟩
  · refine (pairwise_idxOf_lt (nodup_recordedOrder _)).imp_of_mem ?_
    intro left right leftMember rightMember less
    unfold UsageEntry.precedes
    rw [reflects.firstUseRank_entryOrNew_of_mem leftMember,
      reflects.firstUseRank_entryOrNew_of_mem rightMember]
    simp [less]
  · refine ((pairwise_idxOf_lt (nodup_countedOrder _)).filter _).imp_of_mem ?_
    intro left right leftMember rightMember less
    unfold UsageEntry.precedes
    rw [reflects.firstUseRank_entryOrNew_of_notMem (mem_notedOrder.mp leftMember).2,
      reflects.firstUseRank_entryOrNew_of_notMem (mem_notedOrder.mp rightMember).2,
      reflects.seenRank_entryOrNew, reflects.seenRank_entryOrNew]
    exact decide_eq_true (Nat.le_of_lt less)
  · intro left leftMember right rightMember
    unfold UsageEntry.precedes
    rw [reflects.firstUseRank_entryOrNew_of_mem leftMember,
      reflects.firstUseRank_entryOrNew_of_notMem (mem_notedOrder.mp rightMember).2]

/-- The entries of a registry are those of the counted identifiers. -/
theorem mem_toList_iff (reflects : Reflects registry history) {identifier : String}
    {entry : UsageEntry} :
    (identifier, entry) ∈ registry.entries.toList ↔
      identifier ∈ countedOrder history ∧ registry.entryOrNew identifier = entry := by
  have found : registry.entries.get? identifier = registry.get? identifier := rfl
  rw [SortedMap.mem_toList_iff, found, ← reflects.mem_keys_iff, SortedMap.mem_keys_iff, found,
    entryOrNew]
  cases registry.get? identifier with
  | none => simp
  | some known => simp

/-- **However the entries are enumerated, their first-use order is that of the history**:
the recorded identifiers by their first recording, then the merely noted ones by their
first note. -/
theorem orderOf_eq (reflects : Reflects registry history)
    {enumeration : List (String × UsageEntry)}
    (enumerates : enumeration.Perm registry.entries.toList) :
    orderOf enumeration = recordedOrder history ++ notedOrder history := by
  let ordered := (recordedOrder history ++ notedOrder history).map fun identifier =>
    (identifier, registry.entryOrNew identifier)
  have distinct : ordered.Nodup :=
    (nodup_recordedOrder_append_notedOrder history).map fun _ _ same => congrArg Prod.fst same
  have listed : registry.entries.toList.Perm ordered := by
    refine (List.perm_ext_iff_of_nodup registry.entries.nodup_keys.of_map distinct).mpr ?_
    rintro ⟨identifier, entry⟩
    rw [reflects.mem_toList_iff, List.mem_map]
    simp only [mem_recordedOrder_append_notedOrder, Prod.mk.injEq]
    exact ⟨fun found => ⟨_, found.1, rfl, found.2⟩,
      fun ⟨_, member, same, entry⟩ => same ▸ ⟨member, entry⟩⟩
  have permuted : (enumeration.mergeSort fun left right => left.2.precedes right.2).Perm ordered :=
    (List.mergeSort_perm _ _).trans (enumerates.trans listed)
  have increasing : (enumeration.mergeSort fun left right => left.2.precedes right.2).Pairwise
      fun left right => left.2.precedes right.2 = true := by
    apply List.pairwise_mergeSort
    · intro first second third earlier later
      exact UsageEntry.precedes_trans earlier later
    · intro left right
      exact UsageEntry.precedes_total left.2 right.2
  have target : ordered.Pairwise fun left right => left.2.precedes right.2 = true :=
    List.pairwise_map.mpr reflects.pairwise_precedes
  have sorted : (enumeration.mergeSort fun left right => left.2.precedes right.2) = ordered := by
    refine List.Perm.eq_of_pairwise ?_ increasing target permuted
    -- Entries that tie were first seen at the same time, so they are of one identifier.
    intro left right leftMember rightMember before after
    obtain ⟨first, firstMember, rfl⟩ := List.mem_map.mp (permuted.mem_iff.mp leftMember)
    obtain ⟨second, _, rfl⟩ := List.mem_map.mp rightMember
    have ranks := UsageEntry.seenRank_eq_of_precedes before after
    rw [reflects.seenRank_entryOrNew, reflects.seenRank_entryOrNew] at ranks
    have counted := mem_recordedOrder_append_notedOrder.mp firstMember
    rw [(List.idxOf_inj counted).mp ranks]
  rw [orderOf, sorted, List.map_map]
  exact List.map_id _

/-- The first-use order of a registry is that of the history. -/
theorem firstUseOrder_eq (reflects : Reflects registry history) :
    registry.firstUseOrder = recordedOrder history ++ notedOrder history :=
  reflects.orderOf_eq (List.Perm.refl _)

end Reflects

/-! ## The order after a run -/

/-- The identifier that an operation notes. -/
def Step.noted? : Step → Option String
  | .note identifier => some identifier
  | _ => none

/-- What is never recorded was first counted when it was first noted. -/
theorem notedOrder_eq (history : List Step) :
    notedOrder history = ((history.filterMap Step.noted?).filter fun identifier =>
      Step.record identifier ∉ history).eraseDups := by
  have unrecorded : ∀ identifier, (!(recordedOrder history).contains identifier) =
      decide (Step.record identifier ∉ history) := by
    intro identifier
    rw [Bool.eq_iff_iff]
    simp [mem_recordedOrder]
  simp only [notedOrder, countedOrder, unrecorded, ← eraseDups_filter, List.filter_filterMap]
  refine congrArg List.eraseDups (List.filterMap_congr fun step member => ?_)
  cases step with
  | record identifier => simp [Step.counted?, Step.noted?, member]
  | _ => rfl

theorem sinceReset_append (steps : List Step) {later : List Step} (goesOn : .reset ∉ later) :
    sinceReset (steps ++ later) = sinceReset steps ++ later := by
  induction later using List.reverseRecOn with
  | nil => simp
  | append_singleton later last ih =>
    rw [List.mem_append, not_or, List.mem_singleton] at goesOn
    rw [← List.append_assoc, sinceReset_concat _ (Ne.symm goesOn.2), ih goesOn.1,
      List.append_assoc]

/-- **First uses keep their places** for as long as nothing is reset. -/
theorem recordedOrder_prefix_firstUseOrder (steps : List Step) {later : List Step}
    (goesOn : .reset ∉ later) :
    recordedOrder (sinceReset steps) <+: (empty.run (steps ++ later)).firstUseOrder := by
  have kept : recordedOrder (sinceReset steps) <+: recordedOrder (sinceReset steps ++ later) := by
    rw [recordedOrder, recordedOrder, List.filterMap_append, List.eraseDups_append]
    exact List.prefix_append _ _
  rw [(reflects_run _).firstUseOrder_eq, sinceReset_append steps goesOn]
  exact kept.trans (List.prefix_append _ _)

/-- **After any run the first-use order is told from the operations since the last reset,
however the entries are enumerated.**  It lists the recorded identifiers by their first
recording, then those that were only noted by their first note, so that every entry is
there once.  An identifier that is recorded for the first time, whether it was noted
before or not, goes right behind the earlier first uses, and all of them stay where they
are until the next reset. -/
theorem orderOf_run_eq_history (steps : List Step) (enumeration : List (String × UsageEntry))
    (enumerates : enumeration.Perm (empty.run steps).entries.toList) :
    orderOf enumeration =
        ((sinceReset steps).filterMap Step.recorded?).eraseDups ++
          (((sinceReset steps).filterMap Step.noted?).filter fun identifier =>
            Step.record identifier ∉ sinceReset steps).eraseDups ∧
      (orderOf enumeration).Nodup ∧
      (∀ identifier, identifier ∈ orderOf enumeration ↔
        ((empty.run steps).get? identifier).isSome = true) ∧
      (∀ identifier later, Step.record identifier ∉ sinceReset steps → Step.reset ∉ later →
        ((sinceReset steps).filterMap Step.recorded?).eraseDups ++ [identifier] <+:
          (empty.run (steps ++ .record identifier :: later)).firstUseOrder) ∧
      ∀ later, Step.reset ∉ later →
        ((sinceReset steps).filterMap Step.recorded?).eraseDups <+:
          (empty.run (steps ++ later)).firstUseOrder := by
  have reflects := reflects_run steps
  have ordered := reflects.orderOf_eq enumerates
  refine ⟨?_, ?_, fun identifier => ?_, fun identifier later unrecorded goesOn => ?_,
    fun later goesOn => recordedOrder_prefix_firstUseOrder steps goesOn⟩
  · rw [ordered, notedOrder_eq, recordedOrder]
  · rw [ordered]
    exact nodup_recordedOrder_append_notedOrder _
  · rw [ordered, mem_recordedOrder_append_notedOrder, reflects.accountsFor.get?_isSome]
    exact timesCounted_pos_iff.symm
  · have extended : recordedOrder (sinceReset (steps ++ [.record identifier])) =
        recordedOrder (sinceReset steps) ++ [identifier] := by
      rw [sinceReset_concat _ (by simp), recordedOrder_concat _ rfl,
        if_neg (mt mem_recordedOrder.mp unrecorded)]
    have kept := recordedOrder_prefix_firstUseOrder (steps ++ [.record identifier]) goesOn
    rw [extended, List.append_assoc] at kept
    exact kept

/-- Here `x` is noted first and recorded last, and the entries are enumerated backwards. -/
theorem orderOf_run_eq_history_notedThenRecorded :
    let registry := empty.run [.record "q", .reset, .note "x", .record "b", .note "y",
      .record "a", .classify "z", .record "x"]
    registry.entries.toList.reverse.Perm registry.entries.toList ∧
      orderOf registry.entries.toList.reverse = ["b", "a", "x", "y"] := by
  intro registry
  have enumerates : registry.entries.toList.reverse.Perm registry.entries.toList :=
    List.reverse_perm _
  refine ⟨enumerates, ?_⟩
  rw [(orderOf_run_eq_history _ _ enumerates).1]
  decide +kernel

end UsageRegistry

end Acronyms
