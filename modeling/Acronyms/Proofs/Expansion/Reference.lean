import Acronyms.Proofs.Expansion.History
import Acronyms.TextDocument

/-!
# An expansion, position by position

The reading pass stops at the first malformed word (`readMarkers_eq`).  When no word is
malformed, the resolving pass follows the outcomes of the single positions: it fails
with the first outcome that is an error (`resolveAll_eq_error_iff`), and otherwise plans
for every position its outcome and nothing else (`replacement_of_resolveAll`).

The main statement is `expandFrom_replacements`: **what a successful expansion does to a
word is a function of that word, of the classification at the start and of the uses of
one identifier**, with no registry threaded through the document.
-/

set_option autoImplicit false

namespace Acronyms.Expansion

/-! ## Reading -/

/-- What is wrong with a word that is a malformed marker. -/
def fault? (token : String) : Option MarkerError :=
  match Marker.read? token with
  | .error error => some error
  | .ok _ => none

/-- The markers that a list of words denotes, the first of which has the given
position. -/
def placedMarkers : Nat → List String → List PlacedMarker
  | _, [] => []
  | position, token :: rest =>
    match Marker.ofToken? token with
    | some marker => ⟨position, token, marker⟩ :: placedMarkers (position + 1) rest
    | none => placedMarkers (position + 1) rest

/-- **Reading fails with the first fault, and otherwise yields every marker.** -/
theorem readMarkers_eq (position : Nat) (tokens : List String) :
    readMarkers position tokens =
      match tokens.findSome? fault? with
      | some error => .error error
      | none => .ok (placedMarkers position tokens) := by
  induction tokens generalizing position with
  | nil => rfl
  | cons token rest ih =>
    simp only [readMarkers, placedMarkers, List.findSome?_cons, fault?, Marker.ofToken?]
    cases Marker.read? token with
    | error error => rfl
    | ok found =>
      cases found with
      | none => exact ih (position + 1)
      | some marker =>
        simp only [ih (position + 1)]
        cases rest.findSome? fault? with
        | some error => rfl
        | none => rfl

/-- The references of the markers are the uses among the words. -/
theorem countedReferences_placedMarkers (position : Nat) (tokens : List String)
    (identifier : String) :
    countedReferences (placedMarkers position tokens) identifier =
      (usesOf identifier tokens).length := by
  induction tokens generalizing position with
  | nil => rfl
  | cons token rest ih =>
    have later := ih (position + 1)
    unfold countedReferences usesOf at later ⊢
    rw [placedMarkers]
    cases denoted : Marker.ofToken? token with
    | none => simpa [denoted] using later
    | some marker =>
      rw [List.filterMap_cons_some denoted, List.countP_cons, List.filter_cons, later]
      split
      next own => rfl
      next other => rfl

/-! ## Resolving -/

/-- An error is the first failure of a sequence of outcomes. -/
def FirstFailure {ε α : Type} (outcome : Nat → Option (Except ε α)) (position : Nat)
    (error : ε) : Prop :=
  outcome position = some (.error error) ∧
    ∀ earlier < position, ∀ cause, outcome earlier ≠ some (.error cause)

/-- The first failure is the first outcome or, when that is none, the first failure of
the remaining sequence. -/
theorem exists_firstFailure_iff {ε α : Type} {outcome : Nat → Option (Except ε α)} {error : ε} :
    (∃ position, FirstFailure outcome position error) ↔
      outcome 0 = some (.error error) ∨
        (∀ cause, outcome 0 ≠ some (.error cause)) ∧
          ∃ position, FirstFailure (fun index => outcome (index + 1)) position error := by
  constructor
  · rintro ⟨position, fails, before⟩
    cases position with
    | zero => exact Or.inl fails
    | succ position =>
      refine Or.inr ⟨before 0 (Nat.succ_pos position), position, fails, ?_⟩
      intro earlier less
      exact before (earlier + 1) (Nat.succ_lt_succ less)
  · rintro (fails | ⟨passes, position, fails, before⟩)
    · exact ⟨0, fails, fun earlier less => absurd less (Nat.not_lt_zero earlier)⟩
    · refine ⟨position + 1, fails, ?_⟩
      intro earlier less
      cases earlier with
      | zero => exact passes
      | succ earlier => exact before earlier (Nat.lt_of_succ_lt_succ less)

section Resolving

variable (table : Table) (mode : OutputMode) (policy : Policy) (references : String → Nat)

/-- **Resolving fails exactly with the first failure among the outcomes.** -/
theorem resolveAll_eq_error_iff (tokens : List String) (start : Nat) (registry : UsageRegistry)
    (planned : Replacements) (error : ExpansionError) :
    resolveAll table mode policy references registry planned (placedMarkers start tokens) =
        .error error ↔
      ∃ position, FirstFailure (outcomeAt table mode policy references registry tokens)
        position error := by
  induction tokens generalizing start registry planned with
  | nil => simp [placedMarkers, resolveAll, FirstFailure, outcomeAt]
  | cons token rest ih =>
    rw [exists_firstFailure_iff]
    simp only [outcomeAt_succ, outcomeAt_zero table mode policy references registry start,
      placedMarkers]
    cases denoted : Marker.ofToken? token with
    | none => simp [registryAfterToken, denoted, ih]
    | some marker =>
      cases resolved : resolve table mode policy references registry ⟨start, token, marker⟩ with
      | error cause => simp [resolveAll, resolved]
      | ok inline => simp [resolveAll, resolved, registryAfterToken, denoted, ih]

/-- What a successful resolution does at its first word: a marker's outcome is an
inline, which is planned for its position; any other word changes nothing. -/
theorem resolveAll_cons_ok {start : Nat} {registry : UsageRegistry} {planned : Replacements}
    {token : String} {rest : List String} {result : Replacements × UsageRegistry}
    (resolved : resolveAll table mode policy references registry planned
      (placedMarkers start (token :: rest)) = .ok result) :
    (outcomeAt table mode policy references registry (token :: rest) 0 = none ∧
        resolveAll table mode policy references (registryAfterToken policy registry token) planned
          (placedMarkers (start + 1) rest) = .ok result) ∨
      ∃ inline,
        outcomeAt table mode policy references registry (token :: rest) 0 = some (.ok inline) ∧
        resolveAll table mode policy references (registryAfterToken policy registry token)
          (planned.insert start inline) (placedMarkers (start + 1) rest) = .ok result := by
  rw [outcomeAt_zero table mode policy references registry start]
  cases denoted : Marker.ofToken? token with
  | none =>
    refine Or.inl ⟨rfl, ?_⟩
    simpa only [placedMarkers, denoted, registryAfterToken] using resolved
  | some marker =>
    simp only [placedMarkers, denoted, resolveAll] at resolved
    cases outcome : resolve table mode policy references registry ⟨start, token, marker⟩ with
    | error cause => simp [outcome] at resolved
    | ok inline =>
      refine Or.inr ⟨inline, congrArg some outcome, ?_⟩
      simpa only [outcome, registryAfterToken, denoted] using resolved

theorem get?_resolveAll_of_none {tokens : List String} {start place : Nat}
    {registry after : UsageRegistry} {planned replacements : Replacements}
    (resolved : resolveAll table mode policy references registry planned
      (placedMarkers start tokens) = .ok (replacements, after))
    (ordinary : ∀ position, place = start + position →
      outcomeAt table mode policy references registry tokens position = none) :
    replacements.get? place = planned.get? place := by
  induction tokens generalizing start registry planned with
  | nil =>
    simp only [placedMarkers, resolveAll, Except.ok.injEq, Prod.mk.injEq] at resolved
    rw [resolved.1]
  | cons token rest ih =>
    have later : ∀ position, place = start + 1 + position →
        outcomeAt table mode policy references (registryAfterToken policy registry token) rest
          position = none := by
      intro position same
      rw [← outcomeAt_succ]
      exact ordinary (position + 1) (by omega)
    rcases resolveAll_cons_ok table mode policy references resolved with
      ⟨_, remaining⟩ | ⟨inline, first, remaining⟩
    · exact ih remaining later
    · have differ : place ≠ start := by
        intro same
        rw [ordinary 0 same] at first
        cases first
      rw [ih remaining later, SortedMap.get?_insert_of_ne _ _ differ]

/-- **A successful resolution plans the outcome of every marker at its position.** -/
theorem get?_resolveAll_of_some {tokens : List String} {start position : Nat}
    {registry after : UsageRegistry} {planned replacements : Replacements}
    {outcome : Except ExpansionError Inline}
    (resolved : resolveAll table mode policy references registry planned
      (placedMarkers start tokens) = .ok (replacements, after))
    (stands : outcomeAt table mode policy references registry tokens position = some outcome) :
    ∃ inline, outcome = .ok inline ∧ replacements.get? (start + position) = some inline := by
  induction tokens generalizing start position registry planned with
  | nil => simp [outcomeAt] at stands
  | cons token rest ih =>
    cases position with
    | succ position =>
      rw [outcomeAt_succ] at stands
      have shift : start + (position + 1) = start + 1 + position := by omega
      rw [shift]
      rcases resolveAll_cons_ok table mode policy references resolved with
        ⟨_, remaining⟩ | ⟨inline, _, remaining⟩
      · exact ih remaining stands
      · exact ih remaining stands
    | zero =>
      rcases resolveAll_cons_ok table mode policy references resolved with
        ⟨ordinary, _⟩ | ⟨inline, first, remaining⟩
      · rw [ordinary] at stands
        cases stands
      · rw [first] at stands
        refine ⟨inline, (Option.some.inj stands).symm, ?_⟩
        -- Everything planned from here on stands at a later position.
        have kept : replacements.get? start = (planned.insert start inline).get? start :=
          get?_resolveAll_of_none table mode policy references remaining
            (fun position same => absurd same (by omega))
        rw [Nat.add_zero, kept, SortedMap.get?_insert_self]

end Resolving

/-! ## The whole pass -/

/-- How often the words of a document count an identifier. -/
def references (tokens : List String) (identifier : String) : Nat :=
  (usesOf identifier tokens).length

/-- A plan is the first fault of the words, or the resolution of all their markers. -/
theorem plan_eq (table : Table) (mode : OutputMode) (policy : Policy) (registry : UsageRegistry)
    (tokens : List String) :
    plan table mode policy registry tokens =
      match tokens.findSome? fault? with
      | some error => .error (.malformed error)
      | none =>
        resolveAll table mode policy (references tokens) registry ∅ (placedMarkers 0 tokens) := by
  have counts : countedReferences (placedMarkers 0 tokens) = references tokens :=
    funext fun identifier => countedReferences_placedMarkers 0 tokens identifier
  rw [plan, readMarkers_eq]
  cases tokens.findSome? fault? with
  | some error => rfl
  | none => simp only [counts]

theorem plan_eq_ok {table : Table} {mode : OutputMode} {policy : Policy}
    {registry after : UsageRegistry} {tokens : List String} {replacements : Replacements}
    (planned : plan table mode policy registry tokens = .ok (replacements, after)) :
    (∀ token ∈ tokens, fault? token = none) ∧
      resolveAll table mode policy (references tokens) registry ∅ (placedMarkers 0 tokens) =
        .ok (replacements, after) := by
  rw [plan_eq] at planned
  cases read : tokens.findSome? fault? with
  | some error => simp [read] at planned
  | none => exact ⟨List.findSome?_eq_none_iff.mp read, by simpa only [read] using planned⟩

theorem expandFrom_eq_ok {δ : Type} [Document δ] {table : Table} {mode : OutputMode}
    {policy : Policy} {registry after : UsageRegistry} {document expanded : δ}
    (succeeds : expandFrom table mode policy registry document = .ok (expanded, after)) :
    ∃ replacements,
      plan table mode policy registry (Document.tokens document) = .ok (replacements, after) ∧
        expanded = Document.apply replacements document := by
  unfold expandFrom at succeeds
  cases planned : plan table mode policy registry (Document.tokens document) with
  | error error => simp [planned] at succeeds
  | ok result =>
    obtain ⟨replacements, final⟩ := result
    simp only [planned, Except.ok.injEq, Prod.mk.injEq] at succeeds
    exact ⟨replacements, by rw [succeeds.2], succeeds.1.symm⟩

/-- The variant of a marker depends on a document through the uses of one identifier
only: those before the marker, and the number of all of them. -/
theorem variantAt_congr {policy : Policy} {registry other : UsageRegistry}
    {tokens words : List String} {position place : Nat} {marker : Marker}
    (known : other.classify marker.identifier = registry.classify marker.identifier)
    (before : usesOf marker.identifier (words.take place) =
      usesOf marker.identifier (tokens.take position))
    (count : references words marker.identifier = references tokens marker.identifier) :
    variantAt policy (references words) other words place marker =
      variantAt policy (references tokens) registry tokens position marker := by
  have consumed : ConsumedBefore policy other words place marker.identifier ↔
      ConsumedBefore policy registry tokens position marker.identifier := by
    rw [ConsumedBefore, known, before, ConsumedBefore]
  simp only [variantAt, consumed, count]

/-- **A successful expansion replaces word by word.**  An ordinary word gets no
replacement; a marker gets its rendering in the variant that the uses before it
determine, followed by its trailing text.  That variant is the same in every other
document with the same uses of the marker's identifier before it and as many in all,
whatever else the documents hold. -/
theorem expandFrom_replacements {δ : Type} [Document δ] (table : Table) (mode : OutputMode)
    (policy : Policy) (registry after : UsageRegistry) (document expanded : δ)
    (succeeds : expandFrom table mode policy registry document = .ok (expanded, after)) :
    (∃ replacements : Replacements,
      expanded = Document.apply replacements document ∧
      (∀ position, (Document.tokens document).length ≤ position →
        replacements.get? position = none) ∧
      ∀ position token, (Document.tokens document)[position]? = some token →
        (Marker.read? token = .ok none ∧ replacements.get? position = none) ∨
        ∃ marker acronym output,
          Marker.read? token = .ok (some marker) ∧
          table.get? marker.identifier = some acronym ∧
          mode.render marker acronym
            (variantAt policy (references (Document.tokens document)) registry
              (Document.tokens document) position marker) policy.pluralSuffix = .ok output ∧
          replacements.get? position = some (mode.inline (output ++ marker.trailing))) ∧
    ∀ (other : UsageRegistry) (words : List String) (place position : Nat) (marker : Marker),
      other.classify marker.identifier = registry.classify marker.identifier →
      usesOf marker.identifier (words.take place) =
        usesOf marker.identifier ((Document.tokens document).take position) →
      references words marker.identifier =
        references (Document.tokens document) marker.identifier →
      variantAt policy (references words) other words place marker =
        variantAt policy (references (Document.tokens document)) registry
          (Document.tokens document) position marker := by
  refine ⟨?_, fun other words place position marker => variantAt_congr⟩
  obtain ⟨replacements, planned, applied⟩ := expandFrom_eq_ok succeeds
  obtain ⟨faultless, resolved⟩ := plan_eq_ok planned
  -- Where no marker stands the plan is the empty one it started from.
  have silent : ∀ position, outcomeAt table mode policy (references (Document.tokens document))
      registry (Document.tokens document) position = none →
        replacements.get? position = none := by
    intro position ordinary
    refine get?_resolveAll_of_none table mode policy _ resolved ?_
    intro place same
    rw [Nat.zero_add] at same
    rw [← same, ordinary]
  refine ⟨replacements, applied, ?_, ?_⟩
  · intro position beyond
    apply silent
    rw [outcomeAt, List.getElem?_eq_none beyond, Option.bind_none]
  · intro position token stands
    have readable := faultless token (List.mem_of_getElem? stands)
    cases read : Marker.read? token with
    | error error => simp [fault?, read] at readable
    | ok found =>
      cases found with
      | none =>
        have ordinary := outcomeAt_of_ordinary table mode policy
          (references (Document.tokens document)) registry stands read
        exact Or.inl ⟨rfl, silent position ordinary⟩
      | some marker =>
        have outcome := outcomeAt_of_marker table mode policy
          (references (Document.tokens document)) registry stands read
        obtain ⟨inline, becomes, placed⟩ :=
          get?_resolveAll_of_some table mode policy _ resolved outcome
        obtain ⟨acronym, output, defined, rendered, rfl⟩ := outcomeIn_eq_ok_iff.mp becomes
        rw [Nat.zero_add] at placed
        exact Or.inr ⟨marker, acronym, output, rfl, defined, rendered, placed⟩

/-! ## A worked expansion

The second reference to an identifier is short, because the first one consumed its
first use; the word between them is left alone. -/

/-- One definition. -/
def workedTable : Table :=
  SortedMap.ofList [("ml", { long := "machine learning", short := "ML" })]

/-- Two references to it, with trailing text. -/
def workedText : TextDocument := TextDocument.ofText "ac:ml, then ac:ml."

theorem eq_ok_of_toOption {ε α : Type} {result : Except ε α} {value : α}
    (valued : result.toOption = some value) : result = .ok value := by
  cases result with
  | error error => cases valued
  | ok found => rw [Option.some.inj valued]

/-- The worked text expands, and the last word of it is replaced by the short form. -/
theorem expandFrom_replacements_workedText :
    ∃ expanded after,
      expandFrom workedTable .plain {} .empty workedText = .ok (expanded, after) ∧
      ∃ replacements, expanded = Document.apply replacements workedText ∧
        replacements.get? 1 = none ∧ replacements.get? 2 = some (.text "ML.") := by
  have expands : expandFrom workedTable .plain {} .empty workedText = .ok
      (⟨[⟨"machine learning (ML),", false⟩, ⟨" ", true⟩, ⟨"then", false⟩, ⟨" ", true⟩,
        ⟨"ML.", false⟩]⟩, UsageRegistry.empty.run [.record "ml", .record "ml"]) :=
    eq_ok_of_toOption (by decide +kernel)
  obtain ⟨⟨replacements, applied, _, placed⟩, _⟩ :=
    expandFrom_replacements workedTable .plain {} .empty _ workedText _ expands
  refine ⟨_, _, expands, replacements, applied, ?_, ?_⟩
  · rcases placed 1 "then" (by decide +kernel) with ⟨_, ordinary⟩ | ⟨marker, _, _, read, _⟩
    · exact ordinary
    · have ordinary : Marker.read? "then" = .ok none := eq_ok_of_toOption (by decide +kernel)
      rw [ordinary] at read
      cases read
  · have denoted : Marker.read? "ac:ml." = .ok (some { identifier := "ml", trailing := "." }) :=
      eq_ok_of_toOption (by decide +kernel)
    rcases placed 2 "ac:ml." (by decide +kernel) with
      ⟨ordinary, _⟩ | ⟨marker, acronym, output, read, defined, rendered, planned⟩
    · rw [denoted] at ordinary
      cases ordinary
    · rw [denoted] at read
      cases read
      cases defined
      have short : variantAt {} (references (Document.tokens workedText)) .empty
          (Document.tokens workedText) 2 { identifier := "ml", trailing := "." } = .short := by
        decide +kernel
      rw [short] at rendered
      cases rendered
      exact planned

end Acronyms.Expansion
