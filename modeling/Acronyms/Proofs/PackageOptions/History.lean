import Acronyms.Proofs.PackageOptions.Single

/-!
# Options and the assignments they were given

Options are built step by step: one is set, assignments are collected, or options that were
built elsewhere are merged in.  Whatever the steps, their options are those of one list of
assignments (`run_ofList`), which is told from the steps without building anything
(`assigned`): a merge appends the assignments that the merged options were given, however
deep its own merges go.

What options hold is told from that list (`Reflects`).  Each key that was assigned is stored
once, in the order of the first assignments, with the value of its last assignment, and the
reports are the invalid ones among these.  **Nothing else holds what the assignments say**, so
that they determine the options with their order.
-/

set_option autoImplicit false

namespace Acronyms.PackageOptions

/-! ## Building options -/

/-- A step in building options. -/
inductive Step where
  /-- Set one option. -/
  | set (key value : String)
  /-- Start over with what a list of assignments leaves. -/
  | collect (assignments : List (String × String))
  /-- Merge in options that were built by steps of their own. -/
  | merge (other : List Step)

mutual

/-- The options after a step. -/
def step (options : PackageOptions) : Step → PackageOptions
  | .set key value => options.set key value
  | .collect assignments => ofList assignments
  | .merge other => options.merge (run empty other)

/-- The options after a sequence of steps. -/
def run (options : PackageOptions) : List Step → PackageOptions
  | [] => options
  | next :: rest => run (step options next) rest

end

mutual

/-- The assignments behind the options after a step, given those behind the options
before it. -/
def assignedBy (before : List (String × String)) : Step → List (String × String)
  | .set key value => before ++ [(key, value)]
  | .collect assignments => assignments
  | .merge other => before ++ assigned [] other

/-- The assignments behind the options after a sequence of steps, in the order in which they
were made. -/
def assigned (before : List (String × String)) : List Step → List (String × String)
  | [] => before
  | next :: rest => assigned (assignedBy before next) rest

end

mutual

/-- **A step takes the options of some assignments to those of the assignments after it.** -/
theorem step_ofList (before : List (String × String)) :
    ∀ next : Step, (ofList before).step next = ofList (assignedBy before next)
  | .set key value => (setAll_append empty before [(key, value)]).symm
  | .collect _ => rfl
  | .merge other => by
    have built : run empty other = ofList (assigned [] other) := run_ofList [] other
    rw [step, built, merge_ofList, assignedBy]
    exact (setAll_append empty before _).symm

/-- **So does a sequence of steps.** -/
theorem run_ofList (before : List (String × String)) :
    ∀ steps : List Step, (ofList before).run steps = ofList (assigned before steps)
  | [] => rfl
  | next :: rest => by
    rw [run, step_ofList before next, run_ofList (assignedBy before next) rest]
    rfl

end

/-! ## What assignments say -/

/-- A value was assigned to a key, and no later assignment was to the same key. -/
def LastAssigned (assignments : List (String × String)) (key value : String) : Prop :=
  ∃ front back, assignments = front ++ (key, value) :: back ∧ key ∉ back.map (·.1)

/-- The first assignment of a key comes before that of another. -/
def FirstBefore (assignments : List (String × String)) (left right : String) : Prop :=
  (assignments.map (·.1)).idxOf left < (assignments.map (·.1)).idxOf right

/-- A value that an option may not have: for the two styles anything but a style, and for
`single` anything but `true`, `false` and an integer from zero to `maxCount`, which may be
written with a plus sign.  Other options may have any value. -/
inductive IsInvalid : String → String → Prop where
  | style {key value : String} : key = "first-style" ∨ key = "single-style" → value ∉ styles →
      IsInvalid key value
  | single {value : String} : value ≠ "true" → value ≠ "false" →
      (∀ number, IntegerText value.toList number →
        value.toList.head? = some '-' ∨ maxCount < number) →
      IsInvalid "single" value

/-- What options hold, told from a list of assignments. -/
structure Reflects (options : PackageOptions) (assignments : List (String × String)) : Prop where
  distinct : (options.items.map (·.1)).Nodup
  ordered : (options.items.map (·.1)).Pairwise (FirstBefore assignments)
  stored : ∀ key value, (key, value) ∈ options.items ↔ LastAssigned assignments key value
  get? : ∀ key value, options.get? key = some value ↔ LastAssigned assignments key value
  unassigned : ∀ key, options.get? key = none ↔ key ∉ assignments.map (·.1)
  problems : ∃ reported : List (String × String),
    options.problems = reported.map (fun item => s!"unknown value '{item.2}' for '{item.1}'") ∧
    (reported.map (·.1)).Pairwise (FirstBefore assignments) ∧
    ∀ key value, (key, value) ∈ reported ↔
      LastAssigned assignments key value ∧ IsInvalid key value

/-- The last assignment to a key is the first one found from the end. -/
theorem lookup_reverse_eq_some_iff {assignments : List (String × String)} {key value : String} :
    assignments.reverse.lookup key = some value ↔ LastAssigned assignments key value := by
  rw [List.lookup_eq_some_iff]
  constructor
  · rintro ⟨back, front, split, others⟩
    refine ⟨front.reverse, back.reverse, ?_, ?_⟩
    · simpa using congrArg List.reverse split
    · rw [List.map_reverse, List.mem_reverse, List.mem_map]
      rintro ⟨item, member, rfl⟩
      simpa using others item member
  · rintro ⟨front, back, rfl, others⟩
    refine ⟨back.reverse, front.reverse, by simp, fun item member => ?_⟩
    rw [bne_iff_ne]
    rintro rfl
    exact others (List.mem_map.mpr ⟨item, List.mem_reverse.mp member, rfl⟩)

theorem isValidItem_eq_false_iff {key value : String} :
    isValidItem (key, value) = false ↔ IsInvalid key value := by
  constructor
  · intro invalid
    by_cases isSingle : key = "single"
    · subst isSingle
      have refused := mt isValidItem_single_iff.mpr (ne_true_of_eq_false invalid)
      obtain ⟨notTrue, others⟩ := not_or.mp refused
      obtain ⟨notFalse, noCount⟩ := not_or.mp others
      refine .single notTrue notFalse fun number text => ?_
      by_cases minus : value.toList.head? = some '-'
      · exact .inl minus
      · exact .inr (Int.not_le.mp fun bound => noCount ⟨number, text, minus, bound⟩)
    · unfold isValidItem at invalid
      dsimp only at invalid
      split at invalid
      next => exact .style (.inl rfl) (by simpa using invalid)
      next => exact .style (.inr rfl) (by simpa using invalid)
      next => exact absurd rfl isSingle
      next => cases invalid
  · rintro (⟨rfl | rfl, noStyle⟩ | ⟨notTrue, notFalse, noCount⟩)
    · simpa [isValidItem] using noStyle
    · simpa [isValidItem] using noStyle
    · refine eq_false_of_ne_true fun valid => ?_
      obtain isTrue | isFalse | ⟨number, text, unsigned, bound⟩ := isValidItem_single_iff.mp valid
      · exact notTrue isTrue
      · exact notFalse isFalse
      · rcases noCount number text with minus | beyond
        · exact unsigned minus
        · exact Int.not_lt.mpr bound beyond

/-! ## The account of options -/

/-- The keys of some assignments stand in the order of their first assignments. -/
theorem pairwise_firstBefore (assignments : List (String × String)) :
    ((ofList assignments).items.map (·.1)).Pairwise (FirstBefore assignments) := by
  rw [map_fst_ofList]
  exact pairwise_idxOf_eraseDups (assignments.map (·.1))

theorem mem_items_iff {options : PackageOptions} {key value : String} :
    (key, value) ∈ options.items ↔ options.get? key = some value :=
  (lookup_eq_some_iff_mem_of_nodup options.distinct).symm

/-- **Options reflect the assignments that they were given.** -/
theorem reflects_ofList (assignments : List (String × String)) :
    Reflects (ofList assignments) assignments := by
  have get? : ∀ key value, (ofList assignments).get? key = some value ↔
      LastAssigned assignments key value := by
    intro key value
    rw [get?_ofList, lookup_reverse_eq_some_iff]
  refine {
    distinct := (ofList assignments).distinct
    ordered := pairwise_firstBefore assignments
    stored := fun key value => mem_items_iff.trans (get? key value)
    get? := get?
    unassigned := fun key => ?_
    problems := ⟨_, rfl, ?_, fun key value => ?_⟩ }
  · rw [get?_ofList, lookup_eq_none_iff_notMem, List.map_reverse, List.mem_reverse]
  · exact (pairwise_firstBefore assignments).sublist (List.filter_sublist.map _)
  · rw [List.mem_filter, Bool.not_eq_true', isValidItem_eq_false_iff, mem_items_iff, get?]

/-- **The assignments determine the options**, with the order in which they are stored. -/
theorem Reflects.unique {options other : PackageOptions} {assignments : List (String × String)}
    (reflects : Reflects options assignments) (otherReflects : Reflects other assignments) :
    options = other := by
  have same : options.items.Perm other.items := by
    refine (List.perm_ext_iff_of_nodup options.distinct.of_map other.distinct.of_map).mpr ?_
    rintro ⟨key, value⟩
    rw [reflects.stored, otherReflects.stored]
  have ordered := List.pairwise_map.mp reflects.ordered
  have otherOrdered := List.pairwise_map.mp otherReflects.ordered
  refine PackageOptions.ext (same.eq_of_pairwise ?_ ordered otherOrdered)
  intro left right _ _ before after
  exact absurd before (Nat.lt_asymm after)

/-- **Options are told from the assignments behind them.**  Whatever steps built them, they
reflect the assignments that the steps make, and no other options do.  Merging gives the same
items, in the same order, as collecting those of the first options and then those of the
second. -/
theorem run_reflects_assigned (steps : List Step) :
    Reflects (run empty steps) (assigned [] steps) ∧
    (∀ options, Reflects options (assigned [] steps) ↔ options = run empty steps) ∧
    ∀ options other : PackageOptions,
      (options.merge other).items = (ofList (options.items ++ other.items)).items := by
  have built : run empty steps = ofList (assigned [] steps) := run_ofList [] steps
  have reflects : Reflects (run empty steps) (assigned [] steps) := by
    rw [built]
    exact reflects_ofList _
  refine ⟨reflects, fun options => ⟨fun other => other.unique reflects, ?_⟩, ?_⟩
  · rintro rfl
    exact reflects
  · exact fun options other => congrArg items (options.ofList_items_append other.items).symm

example :
    (run empty [.set "single" "true", .merge [.collect [("sort", "x"), ("single", "2")],
      .merge [.set "single" "0", .set "sort" "y"]], .set "list" "z"]).items =
        [("single", "0"), ("sort", "y"), ("list", "z")] := by
  decide

end Acronyms.PackageOptions
