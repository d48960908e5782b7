import Acronyms.Proofs.Expansion.Reference

/-!
# When an expansion fails, and with which error

A part of a definition lacks a plural when it has no irregular form and no ending of its
own, and does not end in a character that the default ending may follow.  Rendering
fails exactly for a plural of a variant that shows such a part, and only where the
output is resolved text; it names the first such part (`render_eq_error_iff`).

A marker is refused (`Refusal`) when its identifier is not defined, or when rendering it
fails.  The main statement is `expandFrom_eq_error_iff_refused`: **the error of an
expansion is the first malformed word of the whole document, or else the refusal of its
first refused marker**, and without either the expansion succeeds.
-/

set_option autoImplicit false

namespace Acronyms

/-! ## Plurals that no rule yields -/

/-- Neither an override nor the default ending gives a part a plural. -/
def Acronym.LacksPlural (acronym : Acronym) (part : Part) : Prop :=
  acronym.pluralForm part = none ∧ acronym.pluralEnding part = none ∧
    ∀ last ∈ (acronym.text part).toList.getLast?, Text.isAlphanumeric last = false

instance (acronym : Acronym) (part : Part) : Decidable (acronym.LacksPlural part) :=
  inferInstanceAs (Decidable (_ ∧ _ ∧ _))

/-- The parts that a variant shows, in their order. -/
def Variant.parts : Variant → List Part
  | .short => [.short]
  | .long => [.long]
  | .full => [.long, .short]

/-- The first part of a variant that lacks a plural. -/
def Acronym.firstLacking? (acronym : Acronym) (variant : Variant) : Option Part :=
  variant.parts.find? fun part => decide (acronym.LacksPlural part)

namespace Acronym

theorem takesDefaultEnding_eq_false_iff {singular : String} :
    takesDefaultEnding singular = false ↔
      ∀ last ∈ singular.toList.getLast?, Text.isAlphanumeric last = false := by
  unfold takesDefaultEnding
  cases singular.toList.getLast? with
  | none => simp
  | some last => simp

/-- A part has no plural exactly when it lacks one; the error shows its singular. -/
theorem plural_eq_error_iff {acronym : Acronym} {part : Part} {defaultEnding : String}
    {cause : PluralError} :
    acronym.plural part defaultEnding = .error cause ↔
      acronym.LacksPlural part ∧ cause = ⟨acronym.text part⟩ := by
  unfold plural LacksPlural
  rw [← takesDefaultEnding_eq_false_iff]
  cases acronym.pluralForm part with
  | some form => simp
  | none =>
    cases acronym.pluralEnding part with
    | some ending => simp
    | none =>
      cases takesDefaultEnding (acronym.text part) with
      | true => simp
      | false => simp [eq_comm]

/-- A part in the singular never fails; in the plural it fails as its plural does. -/
theorem renderPart_eq_error_iff {acronym : Acronym} {part : Part} {inPlural : Bool}
    {defaultEnding : String} {cause : PluralError} :
    acronym.renderPart part inPlural defaultEnding = .error cause ↔
      inPlural = true ∧ acronym.LacksPlural part ∧ cause = ⟨acronym.text part⟩ := by
  unfold renderPart
  cases inPlural with
  | true => simp [plural_eq_error_iff]
  | false => simp

end Acronym

namespace Plain

/-- **The text of a variant fails in the plural exactly when a part it shows lacks one**;
the first such part is the cause. -/
theorem variantText_eq_error_iff {acronym : Acronym} {variant : Variant} {inPlural : Bool}
    {defaultEnding : String} {cause : PluralError} :
    variantText acronym variant inPlural defaultEnding = .error cause ↔
      inPlural = true ∧ ∃ part, acronym.firstLacking? variant = some part ∧
        cause = ⟨acronym.text part⟩ := by
  cases variant with
  | short =>
    simp [variantText, Acronym.renderPart_eq_error_iff, Acronym.firstLacking?, Variant.parts,
      and_assoc]
  | long =>
    simp [variantText, Acronym.renderPart_eq_error_iff, Acronym.firstLacking?, Variant.parts,
      and_assoc]
  | full =>
    -- The spelled-out form is rendered first, so its failure hides the other one.
    cases longText : acronym.renderPart .long inPlural defaultEnding with
    | error first =>
      obtain ⟨rfl, lacks, rfl⟩ := Acronym.renderPart_eq_error_iff.mp longText
      simp [variantText, longText, lacks, Acronym.firstLacking?, Variant.parts, eq_comm, bind,
        Except.bind]
    | ok long =>
      have found : inPlural = true → ¬ acronym.LacksPlural .long := by
        intro plural lacks
        rw [Acronym.renderPart_eq_error_iff.mpr ⟨plural, lacks, rfl⟩] at longText
        cases longText
      cases shortText : acronym.renderPart .short inPlural defaultEnding with
      | error second =>
        obtain ⟨rfl, lacks, rfl⟩ := Acronym.renderPart_eq_error_iff.mp shortText
        simp [variantText, longText, shortText, lacks, found, Acronym.firstLacking?,
          Variant.parts, eq_comm, bind, Except.bind]
      | ok short =>
        have foundShort : inPlural = true → ¬ acronym.LacksPlural .short := by
          intro plural lacks
          rw [Acronym.renderPart_eq_error_iff.mpr ⟨plural, lacks, rfl⟩] at shortText
          cases shortText
        simp only [variantText, longText, shortText, bind, Except.bind, pure, Except.pure]
        constructor
        · intro impossible
          cases impossible
        · rintro ⟨plural, part, lacking, _⟩
          simp [Acronym.firstLacking?, Variant.parts, found plural, foundShort plural] at lacking

end Plain

/-- **Rendering fails only in resolved text, for a plural of a variant that shows a part
without one.** -/
theorem OutputMode.render_eq_error_iff {mode : OutputMode} {marker : Marker} {acronym : Acronym}
    {variant : Variant} {defaultEnding : String} {cause : PluralError} :
    mode.render marker acronym variant defaultEnding = .error cause ↔
      mode = .plain ∧ marker.plural = true ∧
        ∃ part, acronym.firstLacking? variant = some part ∧ cause = ⟨acronym.text part⟩ := by
  cases mode with
  | latex => simp [render]
  | plain =>
    simp only [render, Plain.render, true_and]
    have fails : Plain.variantText acronym variant marker.plural defaultEnding = .error cause ↔ _ :=
      Plain.variantText_eq_error_iff
    rw [← fails]
    cases Plain.variantText acronym variant marker.plural defaultEnding with
    | error first => simp [Except.map]
    | ok text => simp [Except.map]

namespace Expansion

/-! ## Refused markers -/

/-- The errors with which a marker of a given variant is refused: its identifier is not
defined, or, in resolved text, it asks for the plural of a part that lacks one. -/
inductive Refusal (table : Table) (mode : OutputMode) (variant : Variant) (token : String)
    (marker : Marker) : ExpansionError → Prop where
  | undefined (missing : table.get? marker.identifier = none) :
      Refusal table mode variant token marker (.unknownIdentifier token marker.identifier)
  | plural {acronym : Acronym} {part : Part}
      (defined : table.get? marker.identifier = some acronym) (plain : mode = .plain)
      (inPlural : marker.plural = true) (lacks : acronym.firstLacking? variant = some part) :
      Refusal table mode variant token marker
        (.noPlural token marker.identifier ⟨acronym.text part⟩)

/-- The outcome of a marker is an error exactly when the marker is refused with it. -/
theorem outcomeIn_eq_error_iff {table : Table} {mode : OutputMode} {policy : Policy}
    {variant : Variant} {token : String} {marker : Marker} {error : ExpansionError} :
    outcomeIn table mode policy variant token marker = .error error ↔
      Refusal table mode variant token marker error := by
  unfold outcomeIn
  constructor
  · intro fails
    cases defined : table.get? marker.identifier with
    | none =>
      simp only [defined, Except.error.injEq] at fails
      subst fails
      exact .undefined defined
    | some acronym =>
      cases rendered : mode.render marker acronym variant policy.pluralSuffix with
      | ok output => simp [defined, rendered] at fails
      | error cause =>
        simp only [defined, rendered, Except.error.injEq] at fails
        subst fails
        obtain ⟨plain, inPlural, part, lacks, rfl⟩ := OutputMode.render_eq_error_iff.mp rendered
        exact .plural defined plain inPlural lacks
  · intro refused
    cases refused with
    | undefined missing => simp only [missing]
    | plural defined plain inPlural lacks =>
      have fails : mode.render marker _ variant policy.pluralSuffix = .error _ :=
        OutputMode.render_eq_error_iff.mpr ⟨plain, inPlural, _, lacks, rfl⟩
      simp only [defined, fails]

/-- The word at a position denotes a marker that is refused, in the variant that the
words before it determine. -/
def RefusedAt (table : Table) (mode : OutputMode) (policy : Policy) (registry : UsageRegistry)
    (tokens : List String) (position : Nat) (error : ExpansionError) : Prop :=
  ∃ token marker, tokens[position]? = some token ∧ Marker.read? token = .ok (some marker) ∧
    Refusal table mode (variantAt policy (references tokens) registry tokens position marker)
      token marker error

theorem outcomeAt_eq_error_iff {table : Table} {mode : OutputMode} {policy : Policy}
    {registry : UsageRegistry} {tokens : List String} {position : Nat} {error : ExpansionError} :
    outcomeAt table mode policy (references tokens) registry tokens position =
        some (.error error) ↔
      RefusedAt table mode policy registry tokens position error := by
  constructor
  · intro fails
    obtain ⟨token, marker, stands, read, outcome⟩ := outcomeAt_eq_some _ _ _ _ _ fails
    exact ⟨token, marker, stands, read, outcomeIn_eq_error_iff.mp outcome⟩
  · rintro ⟨token, marker, stands, read, refused⟩
    rw [outcomeAt_of_marker _ _ _ _ _ stands read, outcomeIn_eq_error_iff.mpr refused]

/-! ## The whole pass -/

/-- Every word is ordinary or a well-formed marker. -/
def AllReadable (tokens : List String) : Prop :=
  ∀ token ∈ tokens, ∃ found, Marker.read? token = .ok found

/-- The first word that is a malformed marker is malformed in the given way. -/
def FirstMalformed (tokens : List String) (fault : MarkerError) : Prop :=
  ∃ before token after, tokens = before ++ token :: after ∧
    Marker.read? token = .error fault ∧ AllReadable before

/-- The first refused marker of a document is refused with the given error. -/
def FirstRefused (table : Table) (mode : OutputMode) (policy : Policy)
    (registry : UsageRegistry) (tokens : List String) (error : ExpansionError) : Prop :=
  ∃ position, RefusedAt table mode policy registry tokens position error ∧
    ∀ earlier < position, ∀ cause,
      ¬ RefusedAt table mode policy registry tokens earlier cause

theorem fault?_eq_none_iff {token : String} :
    fault? token = none ↔ ∃ found, Marker.read? token = .ok found := by
  unfold fault?
  cases Marker.read? token with
  | error error => simp
  | ok found => simp

theorem fault?_eq_some_iff {token : String} {fault : MarkerError} :
    fault? token = some fault ↔ Marker.read? token = .error fault := by
  unfold fault?
  cases Marker.read? token with
  | error error => simp
  | ok found => simp

theorem findSome?_fault?_eq_none_iff {tokens : List String} :
    tokens.findSome? fault? = none ↔ AllReadable tokens := by
  simp only [List.findSome?_eq_none_iff, fault?_eq_none_iff, AllReadable]

theorem findSome?_fault?_eq_some_iff {tokens : List String} {fault : MarkerError} :
    tokens.findSome? fault? = some fault ↔ FirstMalformed tokens fault := by
  simp only [List.findSome?_eq_some_iff, fault?_eq_some_iff, fault?_eq_none_iff, FirstMalformed,
    AllReadable]

/-- A plan fails with the first malformed word, or else with the first refusal. -/
theorem plan_eq_error_iff {table : Table} {mode : OutputMode} {policy : Policy}
    {registry : UsageRegistry} {tokens : List String} {error : ExpansionError} :
    plan table mode policy registry tokens = .error error ↔
      (∃ fault, FirstMalformed tokens fault ∧ error = .malformed fault) ∨
        (AllReadable tokens ∧ FirstRefused table mode policy registry tokens error) := by
  rw [plan_eq, ← findSome?_fault?_eq_none_iff]
  simp only [← findSome?_fault?_eq_some_iff]
  cases tokens.findSome? fault? with
  | some fault => simp [eq_comm]
  | none =>
    simp only [resolveAll_eq_error_iff, FirstFailure, outcomeAt_eq_error_iff, ne_eq, FirstRefused]
    simp

/-- A plan that succeeds has read every word and refused no marker. -/
theorem readable_of_plan_eq_ok {table : Table} {mode : OutputMode} {policy : Policy}
    {registry after : UsageRegistry} {tokens : List String} {replacements : Replacements}
    (planned : plan table mode policy registry tokens = .ok (replacements, after)) :
    AllReadable tokens ∧
      ∀ position error, ¬ RefusedAt table mode policy registry tokens position error := by
  obtain ⟨faultless, resolved⟩ := plan_eq_ok planned
  refine ⟨fun token member => fault?_eq_none_iff.mp (faultless token member), ?_⟩
  intro position error refused
  obtain ⟨inline, impossible, _⟩ := get?_resolveAll_of_some table mode policy _ resolved
    (outcomeAt_eq_error_iff.mpr refused)
  cases impossible

/-- In LaTeX output no marker is refused for want of a plural. -/
theorem not_refusedAt_latex_noPlural {table : Table} {policy : Policy}
    {registry : UsageRegistry} {tokens : List String} {position : Nat}
    {token identifier : String} {cause : PluralError} :
    ¬ RefusedAt table .latex policy registry tokens position
      (.noPlural token identifier cause) := by
  rintro ⟨_, _, _, _, refused⟩
  cases refused with
  | plural _ plain _ _ => cases plain

theorem expandFrom_eq_error_iff_plan {δ : Type} [Document δ] {table : Table} {mode : OutputMode}
    {policy : Policy} {registry : UsageRegistry} {document : δ} {error : ExpansionError} :
    expandFrom table mode policy registry document = .error error ↔
      plan table mode policy registry (Document.tokens document) = .error error := by
  unfold expandFrom
  cases plan table mode policy registry (Document.tokens document) with
  | error first => simp
  | ok result => simp

/-- **An expansion fails with the first malformed word of the document; without one,
with the refusal of its first refused marker; and without either it succeeds.**  In
LaTeX output no marker is refused for want of a plural. -/
theorem expandFrom_eq_error_iff_refused {δ : Type} [Document δ] (table : Table)
    (mode : OutputMode) (policy : Policy) (registry : UsageRegistry) (document : δ) :
    (∀ error, expandFrom table mode policy registry document = .error error ↔
      (∃ fault, FirstMalformed (Document.tokens document) fault ∧ error = .malformed fault) ∨
        (AllReadable (Document.tokens document) ∧
          FirstRefused table mode policy registry (Document.tokens document) error)) ∧
    ((∃ result, expandFrom table mode policy registry document = .ok result) ↔
      AllReadable (Document.tokens document) ∧
        ∀ position error,
          ¬ RefusedAt table mode policy registry (Document.tokens document) position error) ∧
    ∀ token identifier cause,
      expandFrom table .latex policy registry document ≠
        .error (.noPlural token identifier cause) := by
  have fails : ∀ error, expandFrom table mode policy registry document = .error error ↔ _ :=
    fun error => expandFrom_eq_error_iff_plan.trans plan_eq_error_iff
  refine ⟨fails, ⟨?_, ?_⟩, ?_⟩
  · rintro ⟨⟨expanded, after⟩, succeeds⟩
    obtain ⟨replacements, planned, _⟩ := expandFrom_eq_ok succeeds
    exact readable_of_plan_eq_ok planned
  · rintro ⟨readable, unrefused⟩
    cases outcome : expandFrom table mode policy registry document with
    | ok result => exact ⟨result, rfl⟩
    | error error =>
      rcases (fails error).mp outcome with ⟨fault, malformed, _⟩ | ⟨_, position, refused, _⟩
      · rw [← findSome?_fault?_eq_some_iff, findSome?_fault?_eq_none_iff.mpr readable] at malformed
        cases malformed
      · exact absurd refused (unrefused position error)
  · intro token identifier cause failure
    rcases plan_eq_error_iff.mp (expandFrom_eq_error_iff_plan.mp failure) with
      ⟨_, _, impossible⟩ | ⟨_, position, refused, _⟩
    · cases impossible
    · exact not_refusedAt_latex_noPlural refused

end Expansion

end Acronyms
