import Acronyms.Proofs.Expansion.Failure
import Acronyms.Proofs.Usage.History

/-!
# What a successful expansion consists of

An expansion uses the registry as a log: a marker that consumes a first use is recorded,
any other counted marker is noted, and a starred marker leaves no trace (`usageSteps`).
The registry after a successful expansion is the registry before it, run through these
operations.

With that a successful plan is described completely (`plan_eq_ok_iff`): every word is
readable, no outcome is an error, the plan holds the outcome of every position and
nothing else, and the registry is run through the operations of the words.  Nothing in
this description is threaded from word to word, so it can be split at any place of the
document.
-/

set_option autoImplicit false

namespace Acronyms.Expansion

open UsageRegistry (Step)

/-! ## The operations of the words -/

/-- The operation that a marker performs on the registry, if it performs one. -/
def usageStep? (policy : Policy) (marker : Marker) : Option Step :=
  if consumesFirstUse policy marker then some (.record marker.identifier)
  else if marker.counted then some (.note marker.identifier)
  else none

/-- The operations that words perform on the registry. -/
def usageSteps (policy : Policy) (tokens : List String) : List Step :=
  (tokens.filterMap Marker.ofToken?).filterMap (usageStep? policy)

theorem usageSteps_append (policy : Policy) (front back : List String) :
    usageSteps policy (front ++ back) = usageSteps policy front ++ usageSteps policy back := by
  simp only [usageSteps, List.filterMap_append]

theorem usageSteps_cons (policy : Policy) (token : String) (rest : List String) :
    usageSteps policy (token :: rest) = usageSteps policy [token] ++ usageSteps policy rest :=
  usageSteps_append policy [token] rest

/-- No word resets the registry. -/
theorem sinceReset_usageSteps (policy : Policy) (tokens : List String) :
    UsageRegistry.sinceReset (usageSteps policy tokens) = usageSteps policy tokens := by
  refine List.rtakeWhile_eq_self_iff.mpr fun step member => ?_
  obtain ⟨marker, _, performed⟩ := List.mem_filterMap.mp member
  unfold usageStep? at performed
  split at performed
  next consumes => rw [← Option.some.inj performed]; rfl
  next spares =>
    split at performed
    next counts => rw [← Option.some.inj performed]; rfl
    next starred => cases performed

theorem registryAfterToken_eq_run (policy : Policy) (registry : UsageRegistry) (token : String) :
    registryAfterToken policy registry token = registry.run (usageSteps policy [token]) := by
  unfold registryAfterToken usageSteps
  cases denoted : Marker.ofToken? token with
  | none => simp [denoted, UsageRegistry.run]
  | some marker =>
    rw [List.filterMap_cons_some denoted, List.filterMap_nil]
    unfold registryAfter usageStep?
    by_cases consumes : consumesFirstUse policy marker = true
    · simp [consumes, UsageRegistry.run, UsageRegistry.step]
    · by_cases counts : marker.counted = true
      · simp [consumes, counts, UsageRegistry.run, UsageRegistry.step]
      · simp [consumes, counts, UsageRegistry.run]

/-! ## Successful plans -/

section Plans

variable {table : Table} {mode : OutputMode} {policy : Policy}

/-- The registry after all markers is the registry before them, run through the
operations of the words. -/
theorem registry_resolveAll {references : String → Nat} {tokens : List String} {start : Nat}
    {registry after : UsageRegistry} {planned replacements : Replacements}
    (resolved : resolveAll table mode policy references registry planned
      (placedMarkers start tokens) = .ok (replacements, after)) :
    after = registry.run (usageSteps policy tokens) := by
  induction tokens generalizing start registry planned with
  | nil =>
    simp only [placedMarkers, resolveAll, Except.ok.injEq, Prod.mk.injEq] at resolved
    exact resolved.2.symm
  | cons token rest ih =>
    rw [usageSteps_cons, UsageRegistry.run_append, ← registryAfterToken_eq_run]
    rcases resolveAll_cons_ok table mode policy references resolved with
      ⟨_, remaining⟩ | ⟨inline, _, remaining⟩
    · exact ih remaining
    · exact ih remaining

/-- What a position is replaced by, if it is. -/
def inlineAt (table : Table) (mode : OutputMode) (policy : Policy) (registry : UsageRegistry)
    (tokens : List String) (position : Nat) : Option Inline :=
  (outcomeAt table mode policy (references tokens) registry tokens position).bind Except.toOption

/-- No marker of the words is refused. -/
def NoneRefused (table : Table) (mode : OutputMode) (policy : Policy) (registry : UsageRegistry)
    (tokens : List String) : Prop :=
  ∀ position error,
    outcomeAt table mode policy (references tokens) registry tokens position ≠ some (.error error)

theorem readable_of_plan {registry after : UsageRegistry} {tokens : List String}
    {replacements : Replacements}
    (planned : plan table mode policy registry tokens = .ok (replacements, after)) :
    AllReadable tokens ∧ NoneRefused table mode policy registry tokens := by
  obtain ⟨readable, unrefused⟩ := readable_of_plan_eq_ok planned
  exact ⟨readable, fun position error fails =>
    unrefused position error (outcomeAt_eq_error_iff.mp fails)⟩

theorem get?_of_plan {registry after : UsageRegistry} {tokens : List String}
    {replacements : Replacements}
    (planned : plan table mode policy registry tokens = .ok (replacements, after))
    (position : Nat) :
    replacements.get? position = inlineAt table mode policy registry tokens position := by
  obtain ⟨_, resolved⟩ := plan_eq_ok planned
  unfold inlineAt
  cases outcome : outcomeAt table mode policy (references tokens) registry tokens position with
  | none =>
    refine get?_resolveAll_of_none table mode policy _ resolved fun place same => ?_
    rw [Nat.zero_add] at same
    rw [← same, outcome]
  | some result =>
    obtain ⟨inline, rfl, placed⟩ := get?_resolveAll_of_some table mode policy _ resolved outcome
    rw [Nat.zero_add] at placed
    exact placed

theorem exists_plan {registry : UsageRegistry} {tokens : List String}
    (readable : AllReadable tokens) (unrefused : NoneRefused table mode policy registry tokens) :
    ∃ replacements after, plan table mode policy registry tokens = .ok (replacements, after) := by
  cases outcome : plan table mode policy registry tokens with
  | ok result => exact ⟨result.1, result.2, rfl⟩
  | error error =>
    rcases plan_eq_error_iff.mp outcome with ⟨fault, malformed, _⟩ | ⟨_, position, refused, _⟩
    · rw [← findSome?_fault?_eq_some_iff, findSome?_fault?_eq_none_iff.mpr readable] at malformed
      cases malformed
    · exact absurd (outcomeAt_eq_error_iff.mpr refused) (unrefused position error)

/-- **A plan succeeds exactly when every word is readable and no marker is refused.**  It
then holds the outcome of every position, and the registry is run through the operations
of the words. -/
theorem plan_eq_ok_iff {registry after : UsageRegistry} {tokens : List String}
    {replacements : Replacements} :
    plan table mode policy registry tokens = .ok (replacements, after) ↔
      (AllReadable tokens ∧ NoneRefused table mode policy registry tokens) ∧
        (∀ position,
          replacements.get? position = inlineAt table mode policy registry tokens position) ∧
        after = registry.run (usageSteps policy tokens) := by
  constructor
  · intro planned
    exact ⟨readable_of_plan planned, get?_of_plan planned,
      registry_resolveAll (plan_eq_ok planned).2⟩
  · rintro ⟨⟨readable, unrefused⟩, placed, rfl⟩
    obtain ⟨found, final, planned⟩ := exists_plan readable unrefused
    have same : found = replacements := SortedMap.ext_get? fun position => by
      rw [get?_of_plan planned, placed]
    rw [planned, same, registry_resolveAll (plan_eq_ok planned).2]

/-- An expansion is its plan, applied. -/
theorem expandFrom_eq_ok_iff {δ : Type} [Document δ] {registry after : UsageRegistry}
    {document expanded : δ} :
    expandFrom table mode policy registry document = .ok (expanded, after) ↔
      ∃ replacements,
        plan table mode policy registry (Document.tokens document) = .ok (replacements, after) ∧
          expanded = Document.apply replacements document := by
  refine ⟨expandFrom_eq_ok, ?_⟩
  rintro ⟨replacements, planned, rfl⟩
  rw [expandFrom, planned]

/-- **A marker of a planned document is replaced by its rendering**, in the variant that the
words before it determine, followed by its trailing text. -/
theorem rendered_of_plan {registry after : UsageRegistry} {tokens : List String}
    {replacements : Replacements}
    (planned : plan table mode policy registry tokens = .ok (replacements, after))
    {position : Nat} {token : String} {marker : Marker} (stands : tokens[position]? = some token)
    (read : Marker.read? token = .ok (some marker)) :
    ∃ acronym output, table.get? marker.identifier = some acronym ∧
      mode.render marker acronym
        (variantAt policy (references tokens) registry tokens position marker)
        policy.pluralSuffix = .ok output ∧
      replacements.get? position = some (mode.inline (output ++ marker.trailing)) := by
  have outcome := outcomeAt_of_marker table mode policy (references tokens) registry stands read
  have placed := get?_of_plan planned position
  rw [inlineAt, outcome] at placed
  cases becomes : outcomeIn table mode policy
      (variantAt policy (references tokens) registry tokens position marker) token marker with
  | error error =>
    rw [becomes] at outcome
    exact absurd outcome ((readable_of_plan planned).2 position error)
  | ok inline =>
    obtain ⟨acronym, output, defined, rendered, rfl⟩ := outcomeIn_eq_ok_iff.mp becomes
    rw [becomes] at placed
    exact ⟨acronym, output, defined, rendered, placed⟩

/-- Every marker of a document that expands is defined. -/
theorem defined_of_plan {registry after : UsageRegistry} {tokens : List String}
    {replacements : Replacements}
    (planned : plan table mode policy registry tokens = .ok (replacements, after))
    {token : String} {marker : Marker} (member : token ∈ tokens)
    (read : Marker.read? token = .ok (some marker)) :
    ∃ acronym, table.get? marker.identifier = some acronym := by
  obtain ⟨position, stands⟩ := List.getElem?_of_mem member
  cases found : table.get? marker.identifier with
  | some acronym => exact ⟨acronym, rfl⟩
  | none =>
    exact absurd ⟨token, marker, stands, read, .undefined found⟩
      ((readable_of_plan_eq_ok planned).2 position _)

end Plans

end Acronyms.Expansion
