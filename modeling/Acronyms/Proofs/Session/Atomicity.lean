import Acronyms.Proofs.Expansion.Success
import Acronyms.Session

/-!
# A failing request leaves a session as it was

An expansion on a draft agrees with the expansion that returns a new registry only on
success (`expandIn_eq`): the draft follows the same registries marker by marker, and
whatever it holds when a marker fails is dropped.

So a request that is answered with a failure or with a listing does not change the
session.  The main statement is `trace_effective`: **such requests can be left out of
any sequence of requests**; the others are answered as before, and the session ends in
the same state.
-/

set_option autoImplicit false

namespace Acronyms

namespace Expansion

/-! ## The draft follows the expansion -/

section Draft

variable (table : Table) (mode : OutputMode) (policy : Policy)

/-- Counting in a draft finds the occurrence that the registry before it knows. -/
theorem countIn_eq (draft : UsageRegistry) (marker : Marker) :
    countIn policy draft marker =
      (occurrenceOf draft marker, registryAfter policy draft marker) := by
  unfold countIn occurrenceOf registryAfter consumesFirstUse
  by_cases counts : marker.counted = true
  · by_cases consumes : (marker.form == .auto || policy.forcedFormsMarkUsed) = true
    · simp only [counts, consumes, Bool.not_true, Bool.and_self, if_true]
      exact Prod.ext (draft.recordAndClassify_fst marker.identifier) rfl
    · simp [counts, consumes, UsageRegistry.classify_note_eq]
  · simp [counts]

variable (references : String → Nat)

/-- **On a draft a marker has the result that it has with the registry.**  A defined
marker is counted in the draft, even one that cannot be rendered. -/
theorem resolveIn_eq (draft : UsageRegistry) (placed : PlacedMarker) :
    resolveIn table mode policy references draft placed =
      (resolve table mode policy references draft placed,
        if table.contains placed.marker.identifier then registryAfter policy draft placed.marker
        else draft) := by
  unfold resolveIn resolve SortedMap.contains
  simp only [countIn_eq]
  cases table.get? placed.marker.identifier with
  | none => rfl
  | some acronym =>
    cases rendered : mode.render placed.marker acronym (variantOf policy placed.marker.form
        (occurrenceOf draft placed.marker) (references placed.marker.identifier))
        policy.pluralSuffix with
    | error cause => simp [rendered]
    | ok output => simp [rendered]

theorem contains_of_resolve_eq_ok {registry : UsageRegistry} {placed : PlacedMarker}
    {inline : Inline}
    (resolved : resolve table mode policy references registry placed = .ok inline) :
    table.contains placed.marker.identifier = true := by
  unfold resolve at resolved
  unfold SortedMap.contains
  cases defined : table.get? placed.marker.identifier with
  | none => simp [defined] at resolved
  | some acronym => rfl

/-- **On a draft markers have the result that they have with the registry.**  If all are
resolved the draft is the registry after them; if one fails some draft is left over. -/
theorem exists_resolveAllIn_eq (markers : List PlacedMarker) (draft : UsageRegistry)
    (planned : Replacements) :
    ∃ left, resolveAllIn table mode policy references draft planned markers =
      match resolveAll table mode policy references draft planned markers with
      | .ok (replacements, after) => (.ok replacements, after)
      | .error error => (.error error, left) := by
  induction markers generalizing draft planned with
  | nil => exact ⟨draft, rfl⟩
  | cons placed rest ih =>
    cases first : resolve table mode policy references draft placed with
    | error cause =>
      simp only [resolveAllIn, resolveIn_eq, resolveAll, first]
      exact ⟨_, rfl⟩
    | ok inline =>
      have known := contains_of_resolve_eq_ok table mode policy references first
      simp only [resolveAllIn, resolveIn_eq, resolveAll, first, known, if_true]
      exact ih _ _

/-- Without the single-use policy no variant depends on the references. -/
theorem resolveAll_of_not_single {policy : Policy} (single : policy.single = false)
    (references other : String → Nat) (registry : UsageRegistry) (planned : Replacements)
    (markers : List PlacedMarker) :
    resolveAll table mode policy references registry planned markers =
      resolveAll table mode policy other registry planned markers := by
  have variant : ∀ form occurrence left right,
      variantOf policy form occurrence left = variantOf policy form occurrence right := by
    intro form occurrence left right
    cases form <;> cases occurrence <;> simp [variantOf, single]
  induction markers generalizing registry planned with
  | nil => rfl
  | cons placed rest ih =>
    have first : resolve table mode policy references registry placed =
        resolve table mode policy other registry placed := by
      unfold resolve
      simp only [variant _ _ (references placed.marker.identifier)
        (other placed.marker.identifier)]
    simp only [resolveAll, first, ih]

/-- **An expansion in place changes the registry as the expansion does, and not at all
if it fails.** -/
theorem expandIn_eq {δ : Type} [Document δ] (registry : UsageRegistry) (document : δ) :
    expandIn table mode policy registry document =
      match expandFrom table mode policy registry document with
      | .ok (expanded, after) => (.ok expanded, after)
      | .error error => (.error error, registry) := by
  unfold expandIn expandFrom plan
  cases readMarkers 0 (Document.tokens document) with
  | error error => rfl
  | ok markers =>
    cases markers with
    | nil => rfl
    | cons placed rest =>
      have counted : resolveAll table mode policy
          (if policy.single then countedReferences (placed :: rest) else fun _ => 0)
            registry ∅ (placed :: rest) =
          resolveAll table mode policy (countedReferences (placed :: rest)) registry ∅
            (placed :: rest) := by
        cases single : policy.single with
        | true => rfl
        | false => exact resolveAll_of_not_single table mode single _ _ _ _ _
      obtain ⟨left, onDraft⟩ := exists_resolveAllIn_eq table mode policy
        (if policy.single then countedReferences (placed :: rest) else fun _ => 0)
        (placed :: rest) registry ∅
      simp only [onDraft, counted]
      -- The draft that a failure leaves over is dropped.
      cases resolveAll table mode policy (countedReferences (placed :: rest)) registry ∅
          (placed :: rest) with
      | ok result => rfl
      | error error => rfl

end Draft

end Expansion

namespace Session

variable {δ : Type} [Document δ]

/-! ## Requests that leave no trace -/

/-- Whether an answer tells that something was done: a document is expanded, or the usage
forgotten. -/
def Answer.isEffective : Answer δ → Bool
  | .expanded _ => true
  | .failed _ => false
  | .done => true
  | .listed _ => false

/-- The requests of a session without the listings and the failing expansions. -/
def effective (session : Session) (requests : List (Request δ)) : List (Request δ) :=
  ((requests.zip (session.trace requests)).filter fun exchange =>
    exchange.2.1.isEffective).map Prod.fst

/-- An expansion commits the registry after it, or leaves the session alone. -/
theorem step_expand (session : Session) (document : δ) :
    session.step (.expand document) =
      match Expansion.expandFrom session.table session.mode session.policy session.registry
        document with
      | .ok (expanded, registry) => (.expanded expanded, { session with registry })
      | .error error => (.failed error, session) := by
  simp only [step, Expansion.expandIn_eq]
  cases Expansion.expandFrom session.table session.mode session.policy session.registry
    document with
  | ok result => rfl
  | error error => rfl

/-- **A request that is not effective leaves the session as it was.** -/
theorem step_of_not_effective {session : Session} {request : Request δ}
    (idle : (session.step request).1.isEffective = false) :
    (session.step request).2 = session := by
  cases request with
  | expand document =>
    rw [step_expand] at idle ⊢
    cases outcome : Expansion.expandFrom session.table session.mode session.policy
        session.registry document with
    | ok result => simp [outcome, Answer.isEffective] at idle
    | error error => rfl
  | reset => cases idle
  | list filter sort => rfl

/-- A request is answered by the session that the earlier ones lead to. -/
theorem getElem?_trace (session : Session) (requests : List (Request δ)) (position : Nat) :
    (session.trace requests)[position]? =
      requests[position]?.map fun request =>
        (session.run (requests.take position)).step request := by
  induction requests generalizing session position with
  | nil => rfl
  | cons request rest ih =>
    cases position with
    | zero => rfl
    | succ position => exact ih _ position

theorem run_append (session : Session) (front back : List (Request δ)) :
    session.run (front ++ back) = (session.run front).run back := by
  induction front generalizing session with
  | nil => rfl
  | cons request rest ih => exact ih _

/-- A request is kept exactly if its answer is effective, and an idle one leaves the
others to the session as it was. -/
theorem effective_cons (session : Session) (request : Request δ) (rest : List (Request δ)) :
    session.effective (request :: rest) =
      if (session.step request).1.isEffective
      then request :: (session.step request).2.effective rest
      else session.effective rest := by
  unfold effective
  rw [trace, List.zip_cons_cons, List.filter_cons]
  split
  next works => rfl
  next idle => rw [step_of_not_effective (Bool.eq_false_iff.mpr idle)]

/-- **Failing expansions and listings can be left out of a session.**  A failing
expansion leaves the session as it was before it.  Without these requests the others
have the same answers and lead to the same sessions. -/
theorem trace_effective (session : Session) (requests : List (Request δ)) :
    (∀ position document error, requests[position]? = some (.expand document) →
      ((session.trace requests)[position]?).map Prod.fst = some (.failed error) →
        session.run (requests.take (position + 1)) = session.run (requests.take position)) ∧
    session.trace (session.effective requests) =
      (session.trace requests).filter (fun result => result.1.isEffective) ∧
    session.run (session.effective requests) = session.run requests := by
  refine ⟨?_, ?_, ?_⟩
  · intro position document error stands answered
    rw [getElem?_trace, stands, Option.map_some, Option.map_some, Option.some.injEq] at answered
    rw [List.take_add_one, stands, run_append]
    exact step_of_not_effective (by rw [answered]; rfl)
  · induction requests generalizing session with
    | nil => rfl
    | cons request rest ih =>
      rw [effective_cons, trace, List.filter_cons]
      split
      next works => rw [trace, ih]
      next idle => rw [step_of_not_effective (Bool.eq_false_iff.mpr idle), ih]
  · induction requests generalizing session with
    | nil => rfl
    | cons request rest ih =>
      rw [effective_cons, run]
      split
      next works => rw [run, ih]
      next idle => rw [step_of_not_effective (Bool.eq_false_iff.mpr idle), ih]

end Session

end Acronyms
