import Acronyms.Marker.Reading
import Acronyms.Render
import Acronyms.Usage

/-!
# Expanding a document

An expansion reads the words of a document in order, resolves every marker
against a table of definitions and replaces it by its rendering followed by the
marker's trailing text.  It happens in two passes: first every word is read, so
that a malformed marker stops the expansion whatever comes before it; then the
markers are resolved one after the other, each seeing the usage that the earlier
ones left.

What an automatic marker becomes depends on that usage: short once the first use
is consumed, and otherwise full, unless the single-use policy holds and the whole
document counts the identifier at most once; then it is spelled out.

The expansion is a function of the registry.  It returns a new registry only
when every marker was resolved, so a failure leaves no trace.
-/

set_option autoImplicit false

namespace Acronyms

/-- The choices of an expansion that the markers do not make. -/
@[ext]
structure Policy where
  /-- Whether a marker that forces a form consumes the first use. -/
  forcedFormsMarkUsed : Bool := true
  /-- Whether an acronym that is counted only once is spelled out. -/
  single : Bool := false
  /-- The plural ending of definitions without an override. -/
  pluralSuffix : String := "s"
  deriving DecidableEq, Repr, Inhabited

/-- Why a document could not be expanded. -/
inductive ExpansionError where
  /-- A word is a malformed marker. -/
  | malformed (error : MarkerError)
  /-- A marker refers to an identifier that is not defined. -/
  | unknownIdentifier (token identifier : String)
  /-- A marker asks for a plural that no rule yields. -/
  | noPlural (token identifier : String) (cause : PluralError)
  deriving DecidableEq, Repr

namespace ExpansionError

def token : ExpansionError → String
  | malformed error => error.token
  | unknownIdentifier token _ => token
  | noPlural token _ _ => token

def message : ExpansionError → String
  | malformed error => error.message
  | unknownIdentifier token identifier =>
    s!"Unknown acronym '{identifier}' in marker '{token}'"
  | noPlural token identifier cause =>
    s!"Cannot pluralize acronym '{identifier}' in marker '{token}': {cause.message}"

end ExpansionError

/-- A word that was read as a marker, with its position in the document. -/
structure PlacedMarker where
  position : Nat
  token : String
  marker : Marker
  deriving DecidableEq, Repr

namespace Expansion

/-! ## Reading the words -/

/-- The markers of a list of words, the first of which has the given position. -/
def readMarkers : Nat → List String → Except MarkerError (List PlacedMarker)
  | _, [] => .ok []
  | position, token :: rest =>
    match Marker.read? token with
    | .error error => .error error
    | .ok none => readMarkers (position + 1) rest
    | .ok (some marker) =>
      match readMarkers (position + 1) rest with
      | .error error => .error error
      | .ok markers => .ok (⟨position, token, marker⟩ :: markers)

/-- How many of the markers count an identifier. -/
def countedReferences (markers : List PlacedMarker) (identifier : String) : Nat :=
  markers.countP fun placed => placed.marker.counted && placed.marker.identifier == identifier

/-! ## Resolving one marker -/

/-- Whether a marker consumes the first use of its acronym. -/
def consumesFirstUse (policy : Policy) (marker : Marker) : Bool :=
  marker.counted && (marker.form == .auto || policy.forcedFormsMarkUsed)

/-- What the occurrence is to its identifier: the first use as long as no earlier
marker consumed it. -/
def occurrenceOf (registry : UsageRegistry) (marker : Marker) : Occurrence :=
  registry.classify marker.identifier

/-- The registry after a marker: consumed, merely counted, or left alone. -/
def registryAfter (policy : Policy) (registry : UsageRegistry) (marker : Marker) :
    UsageRegistry :=
  if consumesFirstUse policy marker then registry.record marker.identifier
  else if marker.counted then registry.note marker.identifier
  else registry

/-- The variant of a marker, given what its occurrence is and how often the whole
document counts its identifier. -/
def variantOf (policy : Policy) (form : Form) (occurrence : Occurrence) (references : Nat) :
    Variant :=
  match form, occurrence with
  | .short, _ => .short
  | .long, _ => .long
  | .full, _ => .full
  | .auto, .later => .short
  | .auto, .first => if policy.single && references ≤ 1 then .long else .full

def resolve (table : Table) (mode : OutputMode) (policy : Policy) (references : String → Nat)
    (registry : UsageRegistry) (placed : PlacedMarker) : Except ExpansionError Inline :=
  let marker := placed.marker
  match table.get? marker.identifier with
  | none => .error (.unknownIdentifier placed.token marker.identifier)
  | some acronym =>
    let variant := variantOf policy marker.form (occurrenceOf registry marker)
      (references marker.identifier)
    match mode.render marker acronym variant policy.pluralSuffix with
    | .error cause => .error (.noPlural placed.token marker.identifier cause)
    | .ok output => .ok (mode.inline (output ++ marker.trailing))

/-! ## Resolving all markers -/

/-- Resolve markers one after the other, collecting their replacements. -/
def resolveAll (table : Table) (mode : OutputMode) (policy : Policy) (references : String → Nat) :
    UsageRegistry → Replacements → List PlacedMarker →
      Except ExpansionError (Replacements × UsageRegistry)
  | registry, planned, [] => .ok (planned, registry)
  | registry, planned, placed :: rest =>
    match resolve table mode policy references registry placed with
    | .error error => .error error
    | .ok inline =>
      resolveAll table mode policy references (registryAfter policy registry placed.marker)
        (planned.insert placed.position inline) rest

/-- The replacements for a list of words, and the registry after them. -/
def plan (table : Table) (mode : OutputMode) (policy : Policy) (registry : UsageRegistry)
    (tokens : List String) : Except ExpansionError (Replacements × UsageRegistry) :=
  match readMarkers 0 tokens with
  | .error error => .error (.malformed error)
  | .ok markers =>
    resolveAll table mode policy (countedReferences markers) registry ∅ markers

def expandFrom {δ : Type} [Document δ] (table : Table) (mode : OutputMode) (policy : Policy)
    (registry : UsageRegistry) (document : δ) : Except ExpansionError (δ × UsageRegistry) :=
  match plan table mode policy registry (Document.tokens document) with
  | .error error => .error error
  | .ok (replacements, after) => .ok (Document.apply replacements document, after)

def expand {δ : Type} [Document δ] (table : Table) (mode : OutputMode) (policy : Policy)
    (document : δ) : Except ExpansionError (δ × UsageRegistry) :=
  expandFrom table mode policy .empty document

end Expansion

end Acronyms
