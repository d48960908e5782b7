import Acronyms.Usage

/-!
# How the operations of a registry change its classifications

The next occurrence of an identifier is a later one exactly when the flag of its entry
is set.  Recording an identifier sets the flag and leaves every other identifier alone
(`classify_record`).  Noting an identifier counts an occurrence and changes no
classification at all (`classify_note`).

The flag decides whether a recording gives out a first-use rank, and the rank decides
the first-use order.  Every operation keeps the two in agreement (`FlagsAgree.step`), so
they agree after every run (`flagsAgree_run`).
-/

set_option autoImplicit false

namespace Acronyms.UsageRegistry

/-! ## Entries after an operation -/

/-- Recording counts the occurrence and sets the flag.  An entry whose flag was not set
gets the next free first-use rank. -/
theorem entries_record (registry : UsageRegistry) (identifier : String) :
    (registry.record identifier).entries = registry.entries.insert identifier
      { registry.entryOrNew identifier with
        seenCount := (registry.entryOrNew identifier).seenCount + 1
        firstUseRendered := true
        firstUseRank :=
          if (registry.entryOrNew identifier).firstUseRendered = true then
            (registry.entryOrNew identifier).firstUseRank
          else some registry.firstUses } := by
  unfold record
  dsimp only
  split
  next consumed => rw [← consumed]
  next fresh => rfl

/-- After a recording the flag of the identifier is set. -/
theorem get?_record_self (registry : UsageRegistry) (identifier : String) :
    (registry.record identifier).get? identifier =
      some { registry.entryOrNew identifier with
        seenCount := (registry.entryOrNew identifier).seenCount + 1
        firstUseRendered := true
        firstUseRank :=
          if (registry.entryOrNew identifier).firstUseRendered = true then
            (registry.entryOrNew identifier).firstUseRank
          else some registry.firstUses } := by
  rw [get?, entries_record, SortedMap.get?_insert_self]

theorem get?_record_of_ne (registry : UsageRegistry) {identifier other : String}
    (differ : other ≠ identifier) :
    (registry.record identifier).get? other = registry.get? other := by
  rw [get?, entries_record, SortedMap.get?_insert_of_ne _ _ differ, get?]

/-- Recording consumes a first use if the identifier had none. -/
theorem firstUses_record (registry : UsageRegistry) (identifier : String) :
    (registry.record identifier).firstUses =
      if (registry.entryOrNew identifier).firstUseRendered = true then registry.firstUses
      else registry.firstUses + 1 := by
  unfold record
  dsimp only
  split
  next consumed => rfl
  next fresh => rfl

/-- Noting counts the occurrence and keeps the flag and the ranks. -/
theorem get?_note_self (registry : UsageRegistry) (identifier : String) :
    (registry.note identifier).get? identifier =
      some { registry.entryOrNew identifier with
        seenCount := (registry.entryOrNew identifier).seenCount + 1 } :=
  SortedMap.get?_insert_self registry.entries identifier _

theorem get?_note_of_ne (registry : UsageRegistry) {identifier other : String}
    (differ : other ≠ identifier) :
    (registry.note identifier).get? other = registry.get? other :=
  SortedMap.get?_insert_of_ne registry.entries _ differ

/-! ## Classifications -/

/-- The next occurrence is a later one exactly when an entry whose flag is set stands in
the registry. -/
theorem classify_eq_later_iff (registry : UsageRegistry) (identifier : String) :
    registry.classify identifier = .later ↔
      ∃ entry, registry.get? identifier = some entry ∧ entry.firstUseRendered = true := by
  unfold classify
  cases registry.get? identifier with
  | none => simp
  | some entry => by_cases consumed : entry.firstUseRendered = true <;> simp [consumed]

/-- An identifier is classified by the flag of its entry, whether the entry stands in
the registry or would be a new one. -/
theorem classify_eq_later_iff_entryOrNew (registry : UsageRegistry) (identifier : String) :
    registry.classify identifier = .later ↔
      (registry.entryOrNew identifier).firstUseRendered = true := by
  rw [classify_eq_later_iff]
  unfold entryOrNew
  cases registry.get? identifier with
  | none => simp
  | some entry => simp

/-- A recording answers what a classification just before it would. -/
theorem recordAndClassify_fst (registry : UsageRegistry) (identifier : String) :
    (registry.recordAndClassify identifier).1 = registry.classify identifier := by
  unfold recordAndClassify classify entryOrNew
  cases registry.get? identifier with
  | none => rfl
  | some entry => rfl

/-- **Recording consumes the first use of one identifier and of no other.** -/
theorem classify_record (registry : UsageRegistry) (identifier other : String) :
    (registry.record identifier).classify other = .later ↔
      identifier = other ∨ registry.classify other = .later := by
  by_cases same : identifier = other
  · subst same
    have consumed : (registry.record identifier).classify identifier = .later :=
      (classify_eq_later_iff _ _).mpr ⟨_, registry.get?_record_self identifier, rfl⟩
    simp [consumed]
  · have kept := registry.get?_record_of_ne (Ne.symm same)
    simp only [classify_eq_later_iff, kept, same, false_or]

/-- **Noting consumes no first use.** -/
theorem classify_note (registry : UsageRegistry) (identifier other : String) :
    (registry.note identifier).classify other = .later ↔ registry.classify other = .later := by
  by_cases same : identifier = other
  · subst same
    rw [classify_eq_later_iff, classify_eq_later_iff_entryOrNew, get?_note_self]
    simp
  · have kept := registry.get?_note_of_ne (Ne.symm same)
    simp only [classify_eq_later_iff, kept]

/-- A note changes no answer to a classification. -/
theorem classify_note_eq (registry : UsageRegistry) (identifier other : String) :
    (registry.note identifier).classify other = registry.classify other := by
  have same := registry.classify_note identifier other
  cases before : registry.classify other with
  | later => exact same.mpr before
  | first =>
    cases after : (registry.note identifier).classify other with
    | first => rfl
    | later => rw [same.mp after] at before; cases before

/-! ## The flag and the first-use rank -/

/-- In every entry the flag is set exactly if there is a first-use rank. -/
def FlagsAgree (registry : UsageRegistry) : Prop :=
  ∀ identifier, ∀ entry ∈ registry.get? identifier,
    entry.firstUseRendered = entry.firstUseRank.isSome

namespace FlagsAgree

variable {registry : UsageRegistry}

theorem empty : UsageRegistry.empty.FlagsAgree := by
  intro identifier entry found
  cases found

/-- A new entry has neither a flag nor a rank. -/
theorem entryOrNew (agree : registry.FlagsAgree) (identifier : String) :
    (registry.entryOrNew identifier).firstUseRendered =
      (registry.entryOrNew identifier).firstUseRank.isSome := by
  unfold UsageRegistry.entryOrNew
  cases found : registry.get? identifier with
  | none => rfl
  | some entry => exact agree identifier entry found

/-- A recording gives out a rank exactly if there was none. -/
theorem get?_record_self (agree : registry.FlagsAgree) (identifier : String) :
    (registry.record identifier).get? identifier =
      some { registry.entryOrNew identifier with
        seenCount := (registry.entryOrNew identifier).seenCount + 1
        firstUseRendered := true
        firstUseRank :=
          some ((registry.entryOrNew identifier).firstUseRank.getD registry.firstUses) } := by
  rw [UsageRegistry.get?_record_self, agree.entryOrNew]
  cases (registry.entryOrNew identifier).firstUseRank with
  | none => rfl
  | some rank => rfl

/-- Flags and ranks still agree after one entry is replaced by one in which they do. -/
theorem of_replaced (agree : registry.FlagsAgree) {changed : UsageRegistry} {identifier : String}
    {replacing : UsageEntry} (self : changed.get? identifier = some replacing)
    (others : ∀ other, other ≠ identifier → changed.get? other = registry.get? other)
    (agrees : replacing.firstUseRendered = replacing.firstUseRank.isSome) :
    changed.FlagsAgree := by
  intro other entry found
  by_cases same : other = identifier
  · rw [same, self] at found
    cases found
    exact agrees
  · rw [others other same] at found
    exact agree other entry found

theorem record (agree : registry.FlagsAgree) (identifier : String) :
    (registry.record identifier).FlagsAgree :=
  agree.of_replaced (agree.get?_record_self identifier)
    (fun _ differ => registry.get?_record_of_ne differ) rfl

theorem note (agree : registry.FlagsAgree) (identifier : String) :
    (registry.note identifier).FlagsAgree :=
  agree.of_replaced (registry.get?_note_self identifier)
    (fun _ differ => registry.get?_note_of_ne differ) (agree.entryOrNew identifier)

/-- **Every operation keeps the flags and the ranks in agreement.** -/
theorem step (agree : registry.FlagsAgree) (next : Step) : (registry.step next).FlagsAgree := by
  cases next with
  | record identifier => exact agree.record identifier
  | note identifier => exact agree.note identifier
  | classify _ => exact agree
  | reset => exact FlagsAgree.empty

theorem run (agree : registry.FlagsAgree) (steps : List Step) :
    (registry.run steps).FlagsAgree := by
  induction steps generalizing registry with
  | nil => exact agree
  | cons next rest ih => exact ih (agree.step next)

end FlagsAgree

/-- **After every run the flags and the ranks agree.** -/
theorem flagsAgree_run (steps : List Step) : (empty.run steps).FlagsAgree :=
  FlagsAgree.empty.run steps

end Acronyms.UsageRegistry
