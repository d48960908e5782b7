import Acronyms.Expansion
import Acronyms.Proofs.Usage.Classification

/-!
# What the words before a marker say about it

An expansion threads a registry through the markers of a document.  This module says
without a registry what a marker finds when its turn comes.

The first use of an identifier is consumed before a position of a document
(`ConsumedBefore`) when the registry at the start of the expansion knew it as
consumed, or when a word before the position denotes a counted marker of that
identifier that consumes it.  The variant of a marker (`variantAt`) is the form it
forces; for an automatic marker it is decided by `ConsumedBefore` and by the number
of counted markers of its identifier in the whole document.

Reading one word and going on with the registry after it changes neither
(`consumedBefore_succ`, `variantAt_succ`).  That is the step on which every statement
about a whole expansion rests: the outcome at a position (`outcomeAt`) is the same
seen from the start of the document and from the word in front of it.
-/

set_option autoImplicit false

namespace Acronyms

/-- The marker that a word denotes, if it denotes one. -/
def Marker.ofToken? (token : String) : Option Marker :=
  match Marker.read? token with
  | .ok found => found
  | .error _ => none

theorem Marker.ofToken?_eq_some_iff {token : String} {marker : Marker} :
    Marker.ofToken? token = some marker ↔ Marker.read? token = .ok (some marker) := by
  unfold Marker.ofToken?
  cases Marker.read? token with
  | error error => simp
  | ok found => simp

namespace Expansion

/-! ## Uses of an identifier -/

/-- The counted markers of an identifier among some words, in their order. -/
def usesOf (identifier : String) (tokens : List String) : List Marker :=
  (tokens.filterMap Marker.ofToken?).filter fun marker =>
    marker.counted && marker.identifier == identifier

theorem mem_usesOf {identifier : String} {tokens : List String} {marker : Marker} :
    marker ∈ usesOf identifier tokens ↔
      (∃ token ∈ tokens, Marker.read? token = .ok (some marker)) ∧
        marker.counted = true ∧ marker.identifier = identifier := by
  simp [usesOf, Marker.ofToken?_eq_some_iff]

theorem usesOf_append (identifier : String) (front back : List String) :
    usesOf identifier (front ++ back) = usesOf identifier front ++ usesOf identifier back := by
  simp [usesOf]

/-- The first use of an identifier is consumed before a position: the registry at the
start says so, or an earlier word denotes a counted marker of the identifier that is
automatic, or that forces a form where forced forms mark an identifier as used. -/
def ConsumedBefore (policy : Policy) (registry : UsageRegistry) (tokens : List String)
    (position : Nat) (identifier : String) : Prop :=
  registry.classify identifier = .later ∨
    ∃ marker ∈ usesOf identifier (tokens.take position),
      marker.form = .auto ∨ policy.forcedFormsMarkUsed = true

instance (policy : Policy) (registry : UsageRegistry) (tokens : List String) (position : Nat)
    (identifier : String) : Decidable (ConsumedBefore policy registry tokens position identifier) :=
  inferInstanceAs (Decidable (_ ∨ _))

/-- The variant of a marker that stands at a position of a document, given how often
the whole document counts each identifier. -/
def variantAt (policy : Policy) (references : String → Nat) (registry : UsageRegistry)
    (tokens : List String) (position : Nat) (marker : Marker) : Variant :=
  match marker.form with
  | .short => .short
  | .long => .long
  | .full => .full
  | .auto =>
    if ConsumedBefore policy registry tokens position marker.identifier then .short
    else if policy.single = true ∧ references marker.identifier ≤ 1 then .long
    else .full

/-! ## From one word to the next -/

/-- The registry after a word. -/
def registryAfterToken (policy : Policy) (registry : UsageRegistry) (token : String) :
    UsageRegistry :=
  match Marker.ofToken? token with
  | some marker => registryAfter policy registry marker
  | none => registry

/-- A marker consumes the first use of its own identifier, if it consumes any. -/
theorem classify_registryAfter (policy : Policy) (registry : UsageRegistry) (marker : Marker)
    (identifier : String) :
    (registryAfter policy registry marker).classify identifier = .later ↔
      registry.classify identifier = .later ∨
        (consumesFirstUse policy marker = true ∧ marker.identifier = identifier) := by
  unfold registryAfter
  by_cases consumes : consumesFirstUse policy marker = true
  · simp only [consumes, if_true, UsageRegistry.classify_record, true_and]
    exact or_comm
  · by_cases counted : marker.counted = true
    · simp [consumes, counted, UsageRegistry.classify_note]
    · simp [consumes, counted]

theorem consumedBefore_zero {policy : Policy} {registry : UsageRegistry} {tokens : List String}
    {identifier : String} :
    ConsumedBefore policy registry tokens 0 identifier ↔
      registry.classify identifier = .later := by
  simp [ConsumedBefore, usesOf]

/-- Among the uses that one word makes there is one that consumes the first use
exactly when the marker it denotes does so for that identifier. -/
theorem exists_mem_usesOf_singleton {policy : Policy} {token identifier : String}
    {marker : Marker} (denoted : Marker.ofToken? token = some marker) :
    (∃ used ∈ usesOf identifier [token],
        used.form = .auto ∨ policy.forcedFormsMarkUsed = true) ↔
      consumesFirstUse policy marker = true ∧ marker.identifier = identifier := by
  have read := Marker.ofToken?_eq_some_iff.mp denoted
  simp only [mem_usesOf, List.mem_singleton, exists_eq_left, read, Except.ok.injEq,
    Option.some.injEq, and_assoc, exists_eq_left', consumesFirstUse, Bool.and_eq_true,
    Bool.or_eq_true, beq_iff_eq]
  exact and_congr_right fun _ => and_comm

/-- **What is consumed before a position can be seen from the next word on**: the
registry after the first word takes the place of that word. -/
theorem consumedBefore_succ {policy : Policy} {registry : UsageRegistry} {token : String}
    {rest : List String} {position : Nat} {identifier : String} :
    ConsumedBefore policy registry (token :: rest) (position + 1) identifier ↔
      ConsumedBefore policy (registryAfterToken policy registry token) rest position
        identifier := by
  have split : usesOf identifier ((token :: rest).take (position + 1)) =
      usesOf identifier [token] ++ usesOf identifier (rest.take position) := by
    rw [List.take_succ_cons, ← usesOf_append, List.singleton_append]
  unfold ConsumedBefore registryAfterToken
  simp only [split, List.mem_append, or_and_right, exists_or]
  cases denoted : Marker.ofToken? token with
  | none => simp [usesOf, denoted]
  | some marker =>
    rw [exists_mem_usesOf_singleton denoted, classify_registryAfter, or_assoc]

theorem variantAt_zero (policy : Policy) (references : String → Nat) (registry : UsageRegistry)
    (tokens : List String) (marker : Marker) :
    variantAt policy references registry tokens 0 marker =
      variantOf policy marker.form (occurrenceOf registry marker)
        (references marker.identifier) := by
  unfold variantAt occurrenceOf
  cases marker.form with
  | short => rfl
  | long => rfl
  | full => rfl
  | auto =>
    simp only [consumedBefore_zero]
    cases registry.classify marker.identifier with
    | later => rfl
    | first => simp [variantOf]

theorem variantAt_succ (policy : Policy) (references : String → Nat) (registry : UsageRegistry)
    (token : String) (rest : List String) (position : Nat) (marker : Marker) :
    variantAt policy references registry (token :: rest) (position + 1) marker =
      variantAt policy references (registryAfterToken policy registry token) rest position
        marker := by
  simp only [variantAt, consumedBefore_succ]

/-! ## The outcome at a position -/

/-- What the marker that a word denotes becomes in a given variant. -/
def outcomeIn (table : Table) (mode : OutputMode) (policy : Policy) (variant : Variant)
    (token : String) (marker : Marker) : Except ExpansionError Inline :=
  match table.get? marker.identifier with
  | none => .error (.unknownIdentifier token marker.identifier)
  | some acronym =>
    match mode.render marker acronym variant policy.pluralSuffix with
    | .error cause => .error (.noPlural token marker.identifier cause)
    | .ok output => .ok (mode.inline (output ++ marker.trailing))

/-- A marker becomes an inline exactly when it is defined and renders; the inline is
the rendering with the trailing text after it. -/
theorem outcomeIn_eq_ok_iff {table : Table} {mode : OutputMode} {policy : Policy}
    {variant : Variant} {token : String} {marker : Marker} {inline : Inline} :
    outcomeIn table mode policy variant token marker = .ok inline ↔
      ∃ acronym output, table.get? marker.identifier = some acronym ∧
        mode.render marker acronym variant policy.pluralSuffix = .ok output ∧
        inline = mode.inline (output ++ marker.trailing) := by
  unfold outcomeIn
  cases table.get? marker.identifier with
  | none => simp
  | some acronym =>
    cases rendered : mode.render marker acronym variant policy.pluralSuffix with
    | error cause => simp [rendered]
    | ok output => simp [rendered, eq_comm]

/-- What becomes of the word at a position of a document, if it denotes a marker. -/
def outcomeAt (table : Table) (mode : OutputMode) (policy : Policy) (references : String → Nat)
    (registry : UsageRegistry) (tokens : List String) (position : Nat) :
    Option (Except ExpansionError Inline) :=
  tokens[position]?.bind fun token =>
    (Marker.ofToken? token).map fun marker =>
      outcomeIn table mode policy (variantAt policy references registry tokens position marker)
        token marker

section Outcome

variable (table : Table) (mode : OutputMode) (policy : Policy) (references : String → Nat)
variable (registry : UsageRegistry)

/-- Resolving a marker with a registry is its outcome in front of the remaining words. -/
theorem outcomeAt_zero (start : Nat) (token : String) (rest : List String) :
    outcomeAt table mode policy references registry (token :: rest) 0 =
      (Marker.ofToken? token).map fun marker =>
        resolve table mode policy references registry ⟨start, token, marker⟩ := by
  simp only [outcomeAt, List.getElem?_cons_zero, Option.bind_some, variantAt_zero]
  rfl

/-- **The outcome at a later position is the outcome seen from the next word on.** -/
theorem outcomeAt_succ (token : String) (rest : List String) (position : Nat) :
    outcomeAt table mode policy references registry (token :: rest) (position + 1) =
      outcomeAt table mode policy references (registryAfterToken policy registry token) rest
        position := by
  simp only [outcomeAt, List.getElem?_cons_succ, variantAt_succ]

variable {tokens : List String} {position : Nat} {token : String}

theorem outcomeAt_of_ordinary (stands : tokens[position]? = some token)
    (ordinary : Marker.read? token = .ok none) :
    outcomeAt table mode policy references registry tokens position = none := by
  simp [outcomeAt, stands, Marker.ofToken?, ordinary]

theorem outcomeAt_of_marker {marker : Marker} (stands : tokens[position]? = some token)
    (read : Marker.read? token = .ok (some marker)) :
    outcomeAt table mode policy references registry tokens position =
      some (outcomeIn table mode policy
        (variantAt policy references registry tokens position marker) token marker) := by
  simp [outcomeAt, stands, Marker.ofToken?, read]

theorem outcomeAt_eq_some {outcome : Except ExpansionError Inline}
    (stands : outcomeAt table mode policy references registry tokens position = some outcome) :
    ∃ token marker, tokens[position]? = some token ∧ Marker.read? token = .ok (some marker) ∧
      outcomeIn table mode policy (variantAt policy references registry tokens position marker)
        token marker = outcome := by
  obtain ⟨token, found, mapped⟩ := Option.bind_eq_some_iff.mp stands
  obtain ⟨marker, denoted, same⟩ := Option.map_eq_some_iff.mp mapped
  exact ⟨token, marker, found, Marker.ofToken?_eq_some_iff.mp denoted, same⟩

end Outcome

end Expansion

end Acronyms
