import Acronyms.Proofs.Expansion.Success
import Mathlib.Data.Nat.Find

/-!
# What an expansion does not depend on

The output mode, the single-use rule and the plural ending decide how a marker is rendered.
They do not decide how it is counted: the operations of the words on the registry depend on
a policy through its forced forms only (`usageSteps_congr`), so any two successful
expansions of a document from the same registry end in the same registry.

Rendering can fail, and that is the only way in which it shows.  In LaTeX output a marker is
refused exactly when its identifier is not defined (`refusedAt_latex_iff`), and such a
marker is refused in every expansion with the same error.  In resolved text a marker may be
refused for want of a plural besides.  So an expansion into resolved text stops where the
LaTeX one does, or before that for want of a plural (`stopsAt_plain_of_latex`).

The main statement is `expandFrom_independent`, which compares two expansions of one
document throughout.
-/

set_option autoImplicit false

namespace Acronyms.Expansion

variable {table : Table} {registry : UsageRegistry} {tokens : List String} {position : Nat}

/-! ## Counting -/

theorem usageStep?_congr {policy another : Policy}
    (same : policy.forcedFormsMarkUsed = another.forcedFormsMarkUsed) (marker : Marker) :
    usageStep? policy marker = usageStep? another marker := by
  unfold usageStep? consumesFirstUse
  rw [same]

/-- **What the words do to the registry depends on a policy through its forced forms only.** -/
theorem usageSteps_congr {policy another : Policy}
    (same : policy.forcedFormsMarkUsed = another.forcedFormsMarkUsed) (tokens : List String) :
    usageSteps policy tokens = usageSteps another tokens := by
  simp only [usageSteps, funext (usageStep?_congr same)]

theorem registry_of_expandFrom {δ : Type} [Document δ] {mode : OutputMode} {policy : Policy}
    {after : UsageRegistry} {document expanded : δ}
    (succeeds : expandFrom table mode policy registry document = .ok (expanded, after)) :
    after = registry.run (usageSteps policy (Document.tokens document)) := by
  obtain ⟨_, planned, _⟩ := expandFrom_eq_ok_iff.mp succeeds
  exact (plan_eq_ok_iff.mp planned).2.2

/-! ## Markers that are not defined -/

/-- The word at a position denotes a marker that is not defined; the error says so. -/
def UndefinedAt (table : Table) (tokens : List String) (position : Nat) (error : ExpansionError) :
    Prop :=
  ∃ token marker, tokens[position]? = some token ∧ Marker.read? token = .ok (some marker) ∧
    table.get? marker.identifier = none ∧
    error = .unknownIdentifier token marker.identifier

/-- A marker that is not defined is refused, whatever the mode and the policy. -/
theorem UndefinedAt.refusedAt {error : ExpansionError}
    (undefined : UndefinedAt table tokens position error) (mode : OutputMode) (policy : Policy) :
    RefusedAt table mode policy registry tokens position error := by
  obtain ⟨token, marker, stands, read, missing, rfl⟩ := undefined
  exact ⟨token, marker, stands, read, .undefined missing⟩

/-- A marker is refused for not being defined or, in resolved text, for want of a plural. -/
theorem RefusedAt.undefinedAt_or_noPlural {mode : OutputMode} {policy : Policy}
    {error : ExpansionError} (refused : RefusedAt table mode policy registry tokens position error) :
    UndefinedAt table tokens position error ∨
      mode = .plain ∧ ∃ token identifier cause, error = .noPlural token identifier cause := by
  obtain ⟨token, marker, stands, read, refusal⟩ := refused
  cases refusal with
  | undefined missing => exact .inl ⟨token, marker, stands, read, missing, rfl⟩
  | plural _ plain _ _ => exact .inr ⟨plain, _, _, _, rfl⟩

/-- **In LaTeX output a marker is refused exactly when it is not defined.** -/
theorem refusedAt_latex_iff {policy : Policy} {error : ExpansionError} :
    RefusedAt table .latex policy registry tokens position error ↔
      UndefinedAt table tokens position error := by
  refine ⟨fun refused => ?_, fun undefined => undefined.refusedAt _ _⟩
  rcases refused.undefinedAt_or_noPlural with undefined | ⟨plain, _⟩
  · exact undefined
  · cases plain

/-- A marker is refused with one error only. -/
theorem RefusedAt.error_unique {mode : OutputMode} {policy : Policy}
    {error cause : ExpansionError}
    (first : RefusedAt table mode policy registry tokens position error)
    (second : RefusedAt table mode policy registry tokens position cause) : error = cause := by
  have outcome := outcomeAt_eq_error_iff.mpr first
  rw [outcomeAt_eq_error_iff.mpr second] at outcome
  simpa using outcome.symm

/-! ## Where an expansion stops -/

/-- An expansion stops at a position with an error: the marker there is refused with it, and
no marker before it is refused. -/
def StopsAt (table : Table) (mode : OutputMode) (policy : Policy) (registry : UsageRegistry)
    (tokens : List String) (position : Nat) (error : ExpansionError) : Prop :=
  RefusedAt table mode policy registry tokens position error ∧
    ∀ earlier < position, ∀ cause, ¬ RefusedAt table mode policy registry tokens earlier cause

/-- Where a marker is refused, an expansion stops there or before. -/
theorem RefusedAt.exists_stopsAt {mode : OutputMode} {policy : Policy} {error : ExpansionError}
    (refused : RefusedAt table mode policy registry tokens position error) :
    ∃ earlier ≤ position, ∃ cause, StopsAt table mode policy registry tokens earlier cause := by
  classical
  have someRefused : ∃ place cause, RefusedAt table mode policy registry tokens place cause :=
    ⟨position, error, refused⟩
  obtain ⟨cause, first⟩ := Nat.find_spec someRefused
  refine ⟨Nat.find someRefused, Nat.find_le ⟨error, refused⟩, cause, first, ?_⟩
  intro earlier before other refusedEarlier
  exact Nat.find_min someRefused before ⟨other, refusedEarlier⟩

/-- **Where LaTeX output stops, resolved text stops with the same error, or it has stopped
before that for want of a plural.** -/
theorem stopsAt_plain_of_latex {policy : Policy} (another : Policy) {error : ExpansionError}
    (stops : StopsAt table .latex policy registry tokens position error) :
    StopsAt table .plain another registry tokens position error ∨
      ∃ earlier < position, ∃ token identifier cause,
        StopsAt table .plain another registry tokens earlier (.noPlural token identifier cause) := by
  obtain ⟨refused, first⟩ := stops
  have refusedPlain : RefusedAt table .plain another registry tokens position error :=
    (refusedAt_latex_iff.mp refused).refusedAt _ _
  obtain ⟨earlier, notAfter, cause, stopsPlain⟩ := refusedPlain.exists_stopsAt
  rcases notAfter.eq_or_lt with rfl | before
  · rw [refusedPlain.error_unique stopsPlain.1]
    exact .inl stopsPlain
  · rcases stopsPlain.1.undefinedAt_or_noPlural with undefined | ⟨_, token, identifier, plural, rfl⟩
    · exact absurd (undefined.refusedAt _ _) (first earlier before cause)
    · exact .inr ⟨earlier, before, token, identifier, plural, stopsPlain⟩

section Documents

variable {δ : Type} [Document δ] {mode : OutputMode} {policy : Policy} {document : δ}

/-- A document expands exactly when every word is readable and no marker is refused. -/
theorem exists_expandFrom_iff :
    (∃ result, expandFrom table mode policy registry document = .ok result) ↔
      AllReadable (Document.tokens document) ∧
        ∀ position error,
          ¬ RefusedAt table mode policy registry (Document.tokens document) position error := by
  constructor
  · rintro ⟨⟨expanded, after⟩, succeeds⟩
    obtain ⟨_, planned, _⟩ := expandFrom_eq_ok_iff.mp succeeds
    exact readable_of_plan_eq_ok planned
  · rintro ⟨readable, unrefused⟩
    have noneRefused : NoneRefused table mode policy registry (Document.tokens document) :=
      fun position error fails => unrefused position error (outcomeAt_eq_error_iff.mp fails)
    obtain ⟨replacements, after, planned⟩ := exists_plan readable noneRefused
    exact ⟨_, expandFrom_eq_ok_iff.mpr ⟨replacements, planned, rfl⟩⟩

/-- An expansion fails for a malformed word exactly when that is the first one. -/
theorem expandFrom_eq_malformed_iff {fault : MarkerError} :
    expandFrom table mode policy registry document = .error (.malformed fault) ↔
      FirstMalformed (Document.tokens document) fault := by
  rw [expandFrom_eq_error_iff_plan, plan_eq_error_iff]
  constructor
  · rintro (⟨found, malformed, same⟩ | ⟨_, position, ⟨_, _, _, _, refusal⟩, _⟩)
    · cases same
      exact malformed
    · cases refusal
  · exact fun malformed => .inl ⟨fault, malformed, rfl⟩

/-- A document without malformed words fails where its expansion stops. -/
theorem expandFrom_eq_error_of_stopsAt {error : ExpansionError}
    (readable : AllReadable (Document.tokens document))
    (stops : StopsAt table mode policy registry (Document.tokens document) position error) :
    expandFrom table mode policy registry document = .error error :=
  expandFrom_eq_error_iff_plan.mpr (plan_eq_error_iff.mpr (.inr ⟨readable, position, stops⟩))

/-- An expansion that fails has met a malformed word, or has stopped at a position. -/
theorem cases_of_expandFrom_eq_error {error : ExpansionError}
    (fails : expandFrom table mode policy registry document = .error error) :
    (∃ fault, error = .malformed fault ∧ FirstMalformed (Document.tokens document) fault) ∨
      AllReadable (Document.tokens document) ∧
        ∃ position,
          StopsAt table mode policy registry (Document.tokens document) position error := by
  rcases plan_eq_error_iff.mp (expandFrom_eq_error_iff_plan.mp fails) with
    ⟨fault, malformed, same⟩ | ⟨readable, position, stops⟩
  · exact .inl ⟨fault, same, malformed⟩
  · exact .inr ⟨readable, position, stops⟩

end Documents

/-! ## Two expansions of one document -/

/-- **Expansions of one document differ in their texts and in missing plurals, and in
nothing else.**  Two of them that treat forced forms alike and succeed end in the same
registry.  If the document expands into resolved text, it expands into LaTeX.  If LaTeX
output fails for a malformed word, every expansion fails with that error.  If it stops at
a marker that is not defined, resolved text stops there with the same error, or it stops at
an earlier marker for want of a plural; and where only resolved text fails, it fails for
want of a plural. -/
theorem expandFrom_independent {δ : Type} [Document δ] (table : Table) (registry : UsageRegistry)
    (document : δ) :
    (∀ mode other policy another expanded result after final,
      policy.forcedFormsMarkUsed = another.forcedFormsMarkUsed →
      expandFrom table mode policy registry document = .ok (expanded, after) →
      expandFrom table other another registry document = .ok (result, final) →
      final = after) ∧
    (∀ policy another,
      (∃ result, expandFrom table .plain policy registry document = .ok result) →
      ∃ result, expandFrom table .latex another registry document = .ok result) ∧
    (∀ policy fault,
      expandFrom table .latex policy registry document = .error (.malformed fault) →
      ∀ mode another,
        expandFrom table mode another registry document = .error (.malformed fault)) ∧
    (∀ policy token identifier,
      expandFrom table .latex policy registry document =
        .error (.unknownIdentifier token identifier) →
      ∃ position, StopsAt table .latex policy registry (Document.tokens document) position
          (.unknownIdentifier token identifier) ∧
        ∀ another,
          (StopsAt table .plain another registry (Document.tokens document) position
              (.unknownIdentifier token identifier) ∧
            expandFrom table .plain another registry document =
              .error (.unknownIdentifier token identifier)) ∨
          ∃ earlier < position, ∃ word name cause,
            StopsAt table .plain another registry (Document.tokens document) earlier
              (.noPlural word name cause) ∧
            expandFrom table .plain another registry document =
              .error (.noPlural word name cause)) ∧
    ∀ policy another error result,
      expandFrom table .plain policy registry document = .error error →
      expandFrom table .latex another registry document = .ok result →
      ∃ token identifier cause, error = .noPlural token identifier cause := by
  refine ⟨?registries, ?success, ?malformed, ?undefined, ?plural⟩
  case registries =>
    intro mode other policy another expanded result after final same first second
    rw [registry_of_expandFrom first, registry_of_expandFrom second, usageSteps_congr same]
  case success =>
    intro policy another succeeds
    obtain ⟨readable, unrefused⟩ := exists_expandFrom_iff.mp succeeds
    refine exists_expandFrom_iff.mpr ⟨readable, fun position error refused => ?_⟩
    exact unrefused position error ((refusedAt_latex_iff.mp refused).refusedAt _ _)
  case malformed =>
    intro policy fault fails mode another
    exact expandFrom_eq_malformed_iff.mpr (expandFrom_eq_malformed_iff.mp fails)
  case undefined =>
    intro policy token identifier fails
    rcases cases_of_expandFrom_eq_error fails with ⟨_, impossible, _⟩ | ⟨readable, position, stops⟩
    · cases impossible
    · refine ⟨position, stops, fun another => ?_⟩
      rcases stopsAt_plain_of_latex another stops with
        same | ⟨earlier, before, word, name, cause, sooner⟩
      · exact .inl ⟨same, expandFrom_eq_error_of_stopsAt readable same⟩
      · exact .inr ⟨earlier, before, word, name, cause, sooner,
          expandFrom_eq_error_of_stopsAt readable sooner⟩
  case plural =>
    intro policy another error result fails succeeds
    obtain ⟨readable, unrefused⟩ := exists_expandFrom_iff.mp ⟨result, succeeds⟩
    rcases cases_of_expandFrom_eq_error fails with
      ⟨fault, rfl, malformed⟩ | ⟨_, position, refused, _⟩
    · rw [expandFrom_eq_malformed_iff.mpr malformed] at succeeds
      cases succeeds
    · rcases refused.undefinedAt_or_noPlural with undefined | ⟨_, noPlural⟩
      · exact absurd (undefined.refusedAt _ _) (unrefused position error)
      · exact noPlural

end Acronyms.Expansion
