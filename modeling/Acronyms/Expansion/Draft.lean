import Acronyms.Expansion

/-!
# Expanding on a draft

A registry that is kept from document to document is changed by every expansion.  So that
a failing expansion leaves no trace in it, the markers are counted in a draft, a copy of
the registry, and the draft takes the place of the registry when every marker is resolved.

A marker is counted before it is rendered.  One that cannot be rendered has therefore been
counted in the draft, and so have all markers before it.  The draft is handed over with
the error as it stands, and it is the expansion of the document that drops it.
-/

set_option autoImplicit false

namespace Acronyms.Expansion

/-- Count a marker in a draft and say what its occurrence is.  A starred marker is not
counted; a forced form that must not consume the first use is noted. -/
def countIn (policy : Policy) (draft : UsageRegistry) (marker : Marker) :
    Occurrence × UsageRegistry :=
  if !marker.counted then (draft.classify marker.identifier, draft)
  else if marker.form == .auto || policy.forcedFormsMarkUsed then
    draft.recordAndClassify marker.identifier
  else
    let noted := draft.note marker.identifier
    (noted.classify marker.identifier, noted)

/-- Resolve a marker on a draft; the draft is handed over whether this succeeds or not. -/
def resolveIn (table : Table) (mode : OutputMode) (policy : Policy) (references : String → Nat)
    (draft : UsageRegistry) (placed : PlacedMarker) :
    Except ExpansionError Inline × UsageRegistry :=
  let marker := placed.marker
  match table.get? marker.identifier with
  | none => (.error (.unknownIdentifier placed.token marker.identifier), draft)
  | some acronym =>
    let (occurrence, counted) := countIn policy draft marker
    let variant := variantOf policy marker.form occurrence (references marker.identifier)
    match mode.render marker acronym variant policy.pluralSuffix with
    | .error cause => (.error (.noPlural placed.token marker.identifier cause), counted)
    | .ok output => (.ok (mode.inline (output ++ marker.trailing)), counted)

/-- Resolve markers on a draft, up to the first that fails. -/
def resolveAllIn (table : Table) (mode : OutputMode) (policy : Policy)
    (references : String → Nat) :
    UsageRegistry → Replacements → List PlacedMarker →
      Except ExpansionError Replacements × UsageRegistry
  | draft, planned, [] => (.ok planned, draft)
  | draft, planned, placed :: rest =>
    match resolveIn table mode policy references draft placed with
    | (.error error, counted) => (.error error, counted)
    | (.ok inline, counted) =>
      resolveAllIn table mode policy references counted
        (planned.insert placed.position inline) rest

/-- Expand a document and change a registry in place.  References are only counted where
the single-use policy asks for them, and a document without markers needs no draft. -/
def expandIn {δ : Type} [Document δ] (table : Table) (mode : OutputMode) (policy : Policy)
    (registry : UsageRegistry) (document : δ) : Except ExpansionError δ × UsageRegistry :=
  match readMarkers 0 (Document.tokens document) with
  | .error error => (.error (.malformed error), registry)
  | .ok [] => (.ok (Document.apply ∅ document), registry)
  | .ok markers =>
    let references := if policy.single then countedReferences markers else fun _ => 0
    match resolveAllIn table mode policy references registry ∅ markers with
    | (.error error, _) => (.error error, registry)
    | (.ok replacements, draft) => (.ok (Document.apply replacements document), draft)

end Acronyms.Expansion
