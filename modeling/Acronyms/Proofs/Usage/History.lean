import Acronyms.Proofs.FirstOccurrence
import Acronyms.Proofs.Usage.Classification

/-!
# A registry is an account of its history

The operations since the last reset determine a registry.  An identifier has an entry
when it was recorded or noted; the entry counts both, its flag says whether it was
recorded, its rank is its position among the counted identifiers in the order in which
they were first counted, and its first-use rank is its position among the recorded
identifiers in the order in which they were first recorded (`Reflects`).  Every operation keeps that account
(`Reflects.step`), so it holds after every run (`reflects_run`).

The main statement is `transcript_eq_history`: **what a registry answers, during a run
and after it, is read off the operations since the last reset**.
-/

set_option autoImplicit false

namespace Acronyms

namespace UsageRegistry

/-! ## Histories -/

/-- The operations after the last reset. -/
def sinceReset (steps : List Step) : List Step := steps.rtakeWhile fun step => step != .reset

theorem sinceReset_concat_reset (steps : List Step) : sinceReset (steps ++ [.reset]) = [] := by
  simp [sinceReset]

theorem sinceReset_concat (steps : List Step) {last : Step} (goesOn : last ≠ .reset) :
    sinceReset (steps ++ [last]) = sinceReset steps ++ [last] := by
  simp [sinceReset, goesOn]

/-- The identifier that an operation counts. -/
def Step.counted? : Step → Option String
  | .record identifier => some identifier
  | .note identifier => some identifier
  | .classify _ => none
  | .reset => none

/-- The identifier that an operation records. -/
def Step.recorded? : Step → Option String
  | .record identifier => some identifier
  | _ => none

/-- The counted identifiers in the order in which they were first counted. -/
def countedOrder (history : List Step) : List String :=
  (history.filterMap Step.counted?).eraseDups

/-- The recorded identifiers in the order in which they were first recorded. -/
def recordedOrder (history : List Step) : List String :=
  (history.filterMap Step.recorded?).eraseDups

/-- An operation that counts an identifier adds it to the counted ones. -/
theorem countedOrder_concat (history : List Step) {last : Step} {identifier : String}
    (counts : last.counted? = some identifier) :
    countedOrder (history ++ [last]) =
      if identifier ∈ countedOrder history then countedOrder history
      else countedOrder history ++ [identifier] := by
  have extended : (history ++ [last]).filterMap Step.counted? =
      history.filterMap Step.counted? ++ [identifier] := by
    rw [List.filterMap_append, List.filterMap_cons_some counts, List.filterMap_nil]
  rw [countedOrder, extended]
  exact eraseDups_concat _ _

theorem countedOrder_concat_of_none (history : List Step) {last : Step}
    (silent : last.counted? = none) : countedOrder (history ++ [last]) = countedOrder history := by
  simp only [countedOrder, List.filterMap_append, List.filterMap_cons_none silent,
    List.filterMap_nil, List.append_nil]

/-- An operation that records an identifier adds it to the recorded ones. -/
theorem recordedOrder_concat (history : List Step) {last : Step} {identifier : String}
    (records : last.recorded? = some identifier) :
    recordedOrder (history ++ [last]) =
      if identifier ∈ recordedOrder history then recordedOrder history
      else recordedOrder history ++ [identifier] := by
  have extended : (history ++ [last]).filterMap Step.recorded? =
      history.filterMap Step.recorded? ++ [identifier] := by
    rw [List.filterMap_append, List.filterMap_cons_some records, List.filterMap_nil]
  rw [recordedOrder, extended]
  exact eraseDups_concat _ _

theorem recordedOrder_concat_of_none (history : List Step) {last : Step}
    (silent : last.recorded? = none) :
    recordedOrder (history ++ [last]) = recordedOrder history := by
  simp only [recordedOrder, List.filterMap_append, List.filterMap_cons_none silent,
    List.filterMap_nil, List.append_nil]

theorem nodup_countedOrder (history : List Step) : (countedOrder history).Nodup :=
  nodup_eraseDups _

theorem nodup_recordedOrder (history : List Step) : (recordedOrder history).Nodup :=
  nodup_eraseDups _

/-- How often a history counts an identifier. -/
def timesCounted (history : List Step) (identifier : String) : Nat :=
  history.count (.record identifier) + history.count (.note identifier)

theorem mem_countedOrder {history : List Step} {identifier : String} :
    identifier ∈ countedOrder history ↔
      Step.record identifier ∈ history ∨ Step.note identifier ∈ history := by
  rw [countedOrder, List.mem_eraseDups, List.mem_filterMap]
  constructor
  · rintro ⟨step, member, counted⟩
    cases step <;> cases counted
    · exact Or.inl member
    · exact Or.inr member
  · rintro (member | member)
    · exact ⟨_, member, rfl⟩
    · exact ⟨_, member, rfl⟩

theorem mem_recordedOrder {history : List Step} {identifier : String} :
    identifier ∈ recordedOrder history ↔ Step.record identifier ∈ history := by
  rw [recordedOrder, List.mem_eraseDups, List.mem_filterMap]
  constructor
  · rintro ⟨step, member, recorded⟩
    cases step <;> cases recorded
    exact member
  · intro member
    exact ⟨_, member, rfl⟩

theorem timesCounted_pos_iff {history : List Step} {identifier : String} :
    0 < timesCounted history identifier ↔ identifier ∈ countedOrder history := by
  rw [mem_countedOrder, timesCounted, Nat.add_pos_iff_pos_or_pos, List.count_pos_iff,
    List.count_pos_iff]

/-! ## The account of a history -/

/-- The entry that a history leaves for an identifier. -/
def entryAfter? (history : List Step) (identifier : String) : Option UsageEntry :=
  ((countedOrder history).idxOf? identifier).map fun rank =>
    ⟨timesCounted history identifier, decide (Step.record identifier ∈ history), rank,
      (recordedOrder history).idxOf? identifier⟩

/-- A registry holds what a history leaves for every identifier. -/
structure Reflects (registry : UsageRegistry) (history : List Step) : Prop where
  entry : ∀ identifier, registry.get? identifier = entryAfter? history identifier
  firstUses : registry.firstUses = (recordedOrder history).length

theorem entryAfter?_eq_none_iff {history : List Step} {identifier : String} :
    entryAfter? history identifier = none ↔ identifier ∉ countedOrder history := by
  rw [entryAfter?, Option.map_eq_none_iff, List.idxOf?_eq_none_iff]

namespace Reflects

variable {registry : UsageRegistry} {history : List Step}

theorem mem_keys_iff (reflects : Reflects registry history) {identifier : String} :
    identifier ∈ registry.entries.keys ↔ identifier ∈ countedOrder history := by
  have entry : registry.entries.get? identifier = _ := reflects.entry identifier
  rw [SortedMap.mem_keys_iff, entry, ← Option.ne_none_iff_exists', Ne, entryAfter?_eq_none_iff,
    not_not]

/-- The registry has one entry for every identifier that was counted. -/
theorem size_eq (reflects : Reflects registry history) :
    registry.entries.size = (countedOrder history).length := by
  have same : registry.entries.keys.Perm (countedOrder history) :=
    (List.perm_ext_iff_of_nodup registry.entries.nodup_keys (nodup_countedOrder _)).mpr
      fun _ => reflects.mem_keys_iff
  rw [← same.length_eq, SortedMap.keys, List.length_map, SortedMap.size]

/-- The entry of an identifier, found or made, has the count, the flag and the ranks of
the history; a new one is ranked behind all others. -/
theorem entryOrNew_eq (reflects : Reflects registry history) (identifier : String) :
    registry.entryOrNew identifier =
      ⟨timesCounted history identifier, decide (Step.record identifier ∈ history),
        ((countedOrder history).idxOf? identifier).getD (countedOrder history).length,
        (recordedOrder history).idxOf? identifier⟩ := by
  rw [entryOrNew, reflects.entry, entryAfter?, reflects.size_eq]
  cases rank : (countedOrder history).idxOf? identifier with
  | some index => rfl
  | none =>
    have uncounted := List.idxOf?_eq_none_iff.mp rank
    have never : timesCounted history identifier = 0 :=
      Nat.eq_zero_of_not_pos (mt timesCounted_pos_iff.mp uncounted)
    have unrecorded : Step.record identifier ∉ history :=
      fun member => uncounted (mem_countedOrder.mpr (Or.inl member))
    have unranked : (recordedOrder history).idxOf? identifier = none :=
      List.idxOf?_eq_none_iff.mpr (mt mem_recordedOrder.mp unrecorded)
    rw [never, decide_eq_false unrecorded, unranked]
    rfl

/-! ## What one operation preserves -/

theorem reset : Reflects empty [] where
  entry _ := rfl
  firstUses := rfl

/-- Counting an identifier gives it the entry that the longer history leaves. -/
theorem entryAfter?_concat_self {identifier : String} {counting : Step}
    (counts : counting.counted? = some identifier) :
    entryAfter? (history ++ [counting]) identifier =
      some ⟨timesCounted history identifier + 1,
        decide (Step.record identifier ∈ history ++ [counting]),
        ((countedOrder history).idxOf? identifier).getD (countedOrder history).length,
        (recordedOrder (history ++ [counting])).idxOf? identifier⟩ := by
  have times : timesCounted (history ++ [counting]) identifier =
      timesCounted history identifier + 1 := by
    cases counting <;> cases counts <;> simp [timesCounted, List.count_append] <;> omega
  rw [entryAfter?, times, countedOrder_concat history counts, idxOf?_added_self]
  rfl

/-- An operation on one identifier changes the entry of no other. -/
theorem entryAfter?_concat_of_ne {identifier other : String} {counting : Step}
    (counts : counting.counted? = some identifier) (differ : other ≠ identifier) :
    entryAfter? (history ++ [counting]) other = entryAfter? history other := by
  have times : timesCounted (history ++ [counting]) other = timesCounted history other := by
    cases counting <;> cases counts <;> simp [timesCounted, List.count_append, Ne.symm differ]
  have recorded : Step.record other ∈ history ++ [counting] ↔ Step.record other ∈ history := by
    cases counting <;> cases counts <;> simp [differ]
  have ranked : (recordedOrder (history ++ [counting])).idxOf? other =
      (recordedOrder history).idxOf? other := by
    cases counting <;> cases counts
    · rw [recordedOrder_concat history rfl, idxOf?_added_of_ne _ differ]
    · rw [recordedOrder_concat_of_none history rfl]
  rw [entryAfter?, times, countedOrder_concat history counts, idxOf?_added_of_ne _ differ,
    decide_eq_decide.mpr recorded, ranked, entryAfter?]

/-- An operation that gives the identifier it counts its entry of the longer history, and
changes no other entry, keeps the account of the entries. -/
theorem entry_concat (reflects : Reflects registry history) {changed : UsageRegistry}
    {identifier : String} {counting : Step} (counts : counting.counted? = some identifier)
    (self : changed.get? identifier = entryAfter? (history ++ [counting]) identifier)
    (others : ∀ other, other ≠ identifier → changed.get? other = registry.get? other)
    (other : String) : changed.get? other = entryAfter? (history ++ [counting]) other := by
  by_cases same : other = identifier
  · rw [same, self]
  · rw [others other same, reflects.entry, entryAfter?_concat_of_ne counts same]

theorem note (reflects : Reflects registry history) (identifier : String) :
    Reflects (registry.note identifier) (history ++ [.note identifier]) where
  entry := by
    refine reflects.entry_concat rfl ?_ fun _ differ => registry.get?_note_of_ne differ
    rw [get?_note_self, reflects.entryOrNew_eq, entryAfter?_concat_self rfl,
      recordedOrder_concat_of_none history rfl]
    simp
  firstUses := by
    rw [recordedOrder_concat_of_none history rfl]
    exact reflects.firstUses

theorem record (reflects : Reflects registry history) (agree : registry.FlagsAgree)
    (identifier : String) :
    Reflects (registry.record identifier) (history ++ [.record identifier]) where
  entry := by
    refine reflects.entry_concat rfl ?_ fun _ differ => registry.get?_record_of_ne differ
    -- A rank is given out where the flag is not set; by `agree` that is where there is none.
    rw [agree.get?_record_self, reflects.entryOrNew_eq, entryAfter?_concat_self rfl,
      recordedOrder_concat history rfl, idxOf?_added_self, reflects.firstUses]
    simp
  firstUses := by
    rw [recordedOrder_concat history rfl, firstUses_record]
    simp only [reflects.entryOrNew_eq, decide_eq_true_iff, ← mem_recordedOrder,
      reflects.firstUses]
    split
    next known => rfl
    next fresh => rw [List.length_append, List.length_singleton]

theorem classify (reflects : Reflects registry history) (identifier : String) :
    Reflects registry (history ++ [.classify identifier]) where
  entry other := by
    rw [reflects.entry, entryAfter?, entryAfter?, countedOrder_concat_of_none history rfl,
      recordedOrder_concat_of_none history rfl]
    simp [timesCounted]
  firstUses := by
    rw [recordedOrder_concat_of_none history rfl]
    exact reflects.firstUses

/-- **Every operation keeps the account**: the registry after it reflects the history
since the last reset. -/
theorem step {steps : List Step} (reflects : Reflects registry (sinceReset steps))
    (agree : registry.FlagsAgree) (next : Step) :
    Reflects (registry.step next) (sinceReset (steps ++ [next])) := by
  cases next with
  | record identifier =>
    rw [sinceReset_concat _ (by simp)]
    exact reflects.record agree identifier
  | note identifier =>
    rw [sinceReset_concat _ (by simp)]
    exact reflects.note identifier
  | classify identifier =>
    rw [sinceReset_concat _ (by simp)]
    exact reflects.classify identifier
  | reset =>
    rw [sinceReset_concat_reset]
    exact Reflects.reset

end Reflects

/-! ## What a run preserves -/

theorem run_append (registry : UsageRegistry) (front back : List Step) :
    registry.run (front ++ back) = (registry.run front).run back :=
  List.foldl_append

/-- **A registry reflects the operations since the last reset.** -/
theorem reflects_run (steps : List Step) : Reflects (empty.run steps) (sinceReset steps) := by
  induction steps using List.reverseRecOn with
  | nil => exact Reflects.reset
  | append_singleton steps last ih =>
    rw [run_append]
    exact ih.step (flagsAgree_run steps) last

/-! ## What a history says -/

/-- What the next occurrence of an identifier is after a history. -/
def occurrenceAfter (history : List Step) (identifier : String) : Occurrence :=
  if Step.record identifier ∈ history then .later else .first

/-- What an operation answers after a history. -/
def answerAfter (history : List Step) : Step → Option Occurrence
  | .record identifier => some (occurrenceAfter history identifier)
  | .note _ => none
  | .classify identifier => some (occurrenceAfter history identifier)
  | .reset => none

/-- The counts, entries and size of a registry, told from a history. -/
structure AccountsFor (registry : UsageRegistry) (history : List Step) : Prop where
  seenCount : ∀ identifier, registry.seenCount identifier =
    history.count (.record identifier) + history.count (.note identifier)
  get?_isSome : ∀ identifier, (registry.get? identifier).isSome = true ↔
    0 < history.count (.record identifier) + history.count (.note identifier)
  firstUseRendered : ∀ identifier, ∀ entry ∈ registry.get? identifier,
    entry.firstUseRendered = true ↔ Step.record identifier ∈ history
  size : registry.size = (history.filterMap Step.counted?).eraseDups.length
  isEmpty : registry.isEmpty = true ↔
    ∀ identifier, Step.record identifier ∉ history ∧ Step.note identifier ∉ history

namespace Reflects

variable {registry : UsageRegistry} {history : List Step}

theorem classify_eq (reflects : Reflects registry history) (identifier : String) :
    registry.classify identifier = occurrenceAfter history identifier := by
  have later : registry.classify identifier = .later ↔ Step.record identifier ∈ history := by
    rw [classify_eq_later_iff_entryOrNew, reflects.entryOrNew_eq]
    exact decide_eq_true_iff
  unfold occurrenceAfter
  split
  next recorded => exact later.mpr recorded
  next unrecorded =>
    cases found : registry.classify identifier with
    | first => rfl
    | later => exact absurd (later.mp found) unrecorded

theorem answer_eq (reflects : Reflects registry history) (step : Step) :
    registry.answer step = answerAfter history step := by
  cases step with
  | record identifier =>
    exact congrArg some ((registry.recordAndClassify_fst identifier).trans
      (reflects.classify_eq identifier))
  | note identifier => rfl
  | classify identifier => exact congrArg some (reflects.classify_eq identifier)
  | reset => rfl

theorem accountsFor (reflects : Reflects registry history) : AccountsFor registry history where
  seenCount identifier := by
    rw [UsageRegistry.seenCount, reflects.entry, entryAfter?]
    cases rank : (countedOrder history).idxOf? identifier with
    | some index => rfl
    | none =>
      have uncounted := List.idxOf?_eq_none_iff.mp rank
      exact (Nat.eq_zero_of_not_pos (mt timesCounted_pos_iff.mp uncounted)).symm
  get?_isSome identifier := by
    rw [reflects.entry, entryAfter?, Option.isSome_map, List.isSome_idxOf?]
    exact timesCounted_pos_iff.symm
  firstUseRendered identifier entry found := by
    rw [reflects.entry, entryAfter?] at found
    obtain ⟨rank, _, rfl⟩ := Option.map_eq_some_iff.mp found
    exact decide_eq_true_iff
  size := reflects.size_eq
  isEmpty := by
    have empty : registry.isEmpty = true ↔ countedOrder history = [] := by
      rw [← List.length_eq_zero_iff, ← reflects.size_eq, SortedMap.size, List.length_eq_zero_iff]
      exact List.isEmpty_iff
    rw [empty, List.eq_nil_iff_forall_not_mem]
    simp only [mem_countedOrder, not_or]

end Reflects

/-! ## The transcript of a run -/

theorem transcript_append (registry : UsageRegistry) (front back : List Step) :
    registry.transcript (front ++ back) =
      registry.transcript front ++ (registry.run front).transcript back := by
  induction front generalizing registry with
  | nil => rfl
  | cons step rest ih => exact congrArg ((step, registry.answer step) :: ·) (ih _)

/-- An operation is answered by the registry that the earlier ones lead to. -/
theorem getElem?_transcript (registry : UsageRegistry) (steps : List Step) (position : Nat) :
    (registry.transcript steps)[position]? =
      steps[position]?.map fun step =>
        (step, (registry.run (steps.take position)).answer step) := by
  induction steps generalizing registry position with
  | nil => rfl
  | cons step rest ih =>
    cases position with
    | zero => rfl
    | succ position => exact ih _ position

/-- The operations since the last reset, each with its answer. -/
def sinceResetAnswered (steps : List Step) : List (Step × Option Occurrence) :=
  (empty.transcript steps).rtakeWhile fun exchange => exchange.1 != .reset

/-- Since the last reset, the recordings of an identifier found its first use once, if
there were any. -/
theorem count_first_sinceResetAnswered (steps : List Step) (identifier : String) :
    (sinceResetAnswered steps).count (.record identifier, some .first) =
      if Step.record identifier ∈ sinceReset steps then 1 else 0 := by
  induction steps using List.reverseRecOn with
  | nil => rfl
  | append_singleton steps last ih =>
    have answered : sinceResetAnswered (steps ++ [last]) =
        if last = .reset then []
        else sinceResetAnswered steps ++ [(last, answerAfter (sinceReset steps) last)] := by
      simp [sinceResetAnswered, transcript_append, transcript, List.rtakeWhile_concat,
        (reflects_run steps).answer_eq]
    rw [answered]
    cases last with
    | reset => simp [sinceReset_concat_reset]
    | note other => simp [sinceReset_concat, ih]
    | classify other => simp [sinceReset_concat, ih]
    | record other =>
      -- Only the first recording of the identifier is answered with a first use.
      by_cases known : Step.record identifier ∈ sinceReset steps
      · by_cases same : other = identifier
        · simp [sinceReset_concat, ih, known, same, answerAfter, occurrenceAfter]
        · simp [sinceReset_concat, ih, known, same]
      · by_cases same : other = identifier
        · simp [sinceReset_concat, ih, known, same, answerAfter, occurrenceAfter]
        · simp [sinceReset_concat, ih, known, same, Ne.symm same]

/-- **What a registry answers during a run, and what it holds after it, is read off the
operations since the last reset.**  A recording is answered with the first use exactly
if none of the same identifier came before it, so once for an identifier between two
resets; a classification is answered in the same way, and leaving it out changes nothing. -/
theorem transcript_eq_history (steps : List Step) :
    empty.transcript steps = steps.mapIdx (fun position step =>
      (step, answerAfter (sinceReset (steps.take position)) step)) ∧
    (∀ identifier, (sinceResetAnswered steps).count (.record identifier, some .first) =
      if Step.record identifier ∈ sinceReset steps then 1 else 0) ∧
    AccountsFor (empty.run steps) (sinceReset steps) ∧
    ∀ before identifier after,
      empty.run (before ++ .classify identifier :: after) = empty.run (before ++ after) := by
  refine ⟨List.ext_getElem? fun position => ?_, count_first_sinceResetAnswered steps,
    (reflects_run steps).accountsFor, ?_⟩
  · rw [getElem?_transcript, List.getElem?_mapIdx]
    cases steps[position]? with
    | none => rfl
    | some step =>
      have answer := (reflects_run (steps.take position)).answer_eq step
      simp only [Option.map_some, answer]
  · intro before identifier after
    rw [run_append, run_append]
    rfl

end UsageRegistry

end Acronyms
