import Acronyms.Proofs.Expansion.Success
import Acronyms.Proofs.TextDocument.Concatenation

/-!
# Expanding piece by piece

Unless the single-use policy looks at a whole document, a marker sees of it only the words
before it, and all that these leave behind is the registry.  A document can therefore be
cut at any word: the outcomes of the front are its own, and those of the back are its own
from the registry that the front leaves (`outcomeAt_references_append_left`,
`outcomeAt_references_append_right`).  So the words of the whole are planned exactly when
those of the two parts are planned one after the other (`plan_append`,
`exists_plans_of_plan_append`).

The main statement is `expandFrom_ofText_append`: **expanding two texts one after the
other is expanding them joined**, provided that joining them fuses no words.
-/

set_option autoImplicit false

namespace Acronyms.Expansion

open TextDocument (ofText Separable)

section Append

variable {table : Table} {mode : OutputMode} {policy : Policy}

/-! ## Outcomes -/

/-- Outside the single-use policy no outcome depends on how often identifiers are
counted. -/
theorem outcomeAt_of_not_single (notSingle : policy.single = false)
    {references other : String → Nat} {registry : UsageRegistry} {tokens : List String}
    {position : Nat} :
    outcomeAt table mode policy other registry tokens position =
      outcomeAt table mode policy references registry tokens position := by
  simp only [outcomeAt, variantAt, notSingle, Bool.false_eq_true, false_and, if_false]

/-- Words behind a position do not change its outcome. -/
theorem outcomeAt_append_left {references : String → Nat} {registry : UsageRegistry}
    {front : List String} (back : List String) {position : Nat}
    (inFront : position < front.length) :
    outcomeAt table mode policy references registry (front ++ back) position =
      outcomeAt table mode policy references registry front position := by
  have before : (front ++ back).take position = front.take position :=
    List.take_append_of_le_length inFront.le
  have consumed : ∀ identifier,
      ConsumedBefore policy registry (front ++ back) position identifier ↔
        ConsumedBefore policy registry front position identifier := by
    intro identifier
    rw [ConsumedBefore, before, ConsumedBefore]
  simp only [outcomeAt, variantAt, consumed, List.getElem?_append_left inFront]

/-- Words before a position change its outcome through the registry they leave. -/
theorem outcomeAt_append_right {references : String → Nat} {registry : UsageRegistry}
    (front back : List String) (position : Nat) :
    outcomeAt table mode policy references registry (front ++ back) (front.length + position) =
      outcomeAt table mode policy references (registry.run (usageSteps policy front)) back
        position := by
  induction front generalizing registry with
  | nil => simp [usageSteps, UsageRegistry.run]
  | cons token rest ih =>
    rw [List.cons_append, List.length_cons, Nat.add_right_comm, outcomeAt_succ, ih,
      usageSteps_cons, UsageRegistry.run_append, registryAfterToken_eq_run]

variable {registry : UsageRegistry} {front back : List String}

/-- In the whole the front has the outcomes that it has on its own. -/
theorem outcomeAt_references_append_left (notSingle : policy.single = false) {position : Nat}
    (inFront : position < front.length) :
    outcomeAt table mode policy (references (front ++ back)) registry (front ++ back) position =
      outcomeAt table mode policy (references front) registry front position := by
  rw [outcomeAt_append_left back inFront, outcomeAt_of_not_single notSingle]

/-- In the whole the back has the outcomes that it has on its own, from the registry that
the front leaves. -/
theorem outcomeAt_references_append_right (notSingle : policy.single = false) (position : Nat) :
    outcomeAt table mode policy (references (front ++ back)) registry (front ++ back)
        (front.length + position) =
      outcomeAt table mode policy (references back) (registry.run (usageSteps policy front)) back
        position := by
  rw [outcomeAt_append_right, outcomeAt_of_not_single notSingle]

/-! ## Plans -/

theorem allReadable_append : AllReadable (front ++ back) ↔ AllReadable front ∧ AllReadable back :=
  List.forall_mem_append

/-- No marker of the whole is refused exactly when none of the front is, and none of the
back from the registry that the front leaves. -/
theorem noneRefused_append (notSingle : policy.single = false) :
    NoneRefused table mode policy registry (front ++ back) ↔
      NoneRefused table mode policy registry front ∧
        NoneRefused table mode policy (registry.run (usageSteps policy front)) back := by
  constructor
  · intro unrefused
    refine ⟨fun position error fails => ?_, fun position error fails => ?_⟩
    · obtain ⟨_, _, stands, _⟩ := outcomeAt_eq_some _ _ _ _ _ fails
      have inFront : position < front.length := (List.getElem?_eq_some_iff.mp stands).1
      rw [← outcomeAt_references_append_left notSingle inFront] at fails
      exact unrefused position error fails
    · rw [← outcomeAt_references_append_right notSingle] at fails
      exact unrefused (front.length + position) error fails
  · rintro ⟨frontUnrefused, backUnrefused⟩ position error fails
    rcases lt_or_ge position front.length with inFront | behind
    · rw [outcomeAt_references_append_left notSingle inFront] at fails
      exact frontUnrefused position error fails
    · obtain ⟨index, rfl⟩ := Nat.exists_eq_add_of_le behind
      rw [outcomeAt_references_append_right notSingle] at fails
      exact backUnrefused index error fails

/-- **Two parts that are planned one after the other are planned as a whole**, and the plan
of the whole is that of the front with that of the back behind it. -/
theorem plan_append (notSingle : policy.single = false) {first second : Replacements}
    {between after : UsageRegistry}
    (frontPlanned : plan table mode policy registry front = .ok (first, between))
    (backPlanned : plan table mode policy between back = .ok (second, after)) :
    ∃ whole, plan table mode policy registry (front ++ back) = .ok (whole, after) ∧
      (∀ position < front.length, whole.get? position = first.get? position) ∧
      ∀ position, whole.get? (front.length + position) = second.get? position := by
  obtain ⟨⟨frontReadable, frontUnrefused⟩, firstPlaced, rfl⟩ := plan_eq_ok_iff.mp frontPlanned
  obtain ⟨⟨backReadable, backUnrefused⟩, secondPlaced, rfl⟩ := plan_eq_ok_iff.mp backPlanned
  have readable : AllReadable (front ++ back) :=
    allReadable_append.mpr ⟨frontReadable, backReadable⟩
  have unrefused : NoneRefused table mode policy registry (front ++ back) :=
    (noneRefused_append notSingle).mpr ⟨frontUnrefused, backUnrefused⟩
  obtain ⟨whole, after, planned⟩ := exists_plan readable unrefused
  obtain ⟨_, placed, rfl⟩ := plan_eq_ok_iff.mp planned
  refine ⟨whole, ?_, ?_, ?_⟩
  · rw [planned, usageSteps_append, UsageRegistry.run_append]
  · intro position inFront
    rw [placed, firstPlaced, inlineAt, outcomeAt_references_append_left notSingle inFront, inlineAt]
  · intro position
    rw [placed, secondPlaced, inlineAt, outcomeAt_references_append_right notSingle, inlineAt]

/-- The two parts of words that are planned as a whole are planned one after the other. -/
theorem exists_plans_of_plan_append (notSingle : policy.single = false) {whole : Replacements}
    {after : UsageRegistry}
    (planned : plan table mode policy registry (front ++ back) = .ok (whole, after)) :
    ∃ first between second, plan table mode policy registry front = .ok (first, between) ∧
      plan table mode policy between back = .ok (second, after) := by
  obtain ⟨⟨readable, unrefused⟩, _, rfl⟩ := plan_eq_ok_iff.mp planned
  obtain ⟨frontReadable, backReadable⟩ := allReadable_append.mp readable
  obtain ⟨frontUnrefused, backUnrefused⟩ := (noneRefused_append notSingle).mp unrefused
  obtain ⟨first, between, frontPlanned⟩ := exists_plan frontReadable frontUnrefused
  obtain ⟨_, _, rfl⟩ := plan_eq_ok_iff.mp frontPlanned
  obtain ⟨second, after, backPlanned⟩ := exists_plan backReadable backUnrefused
  obtain ⟨_, _, rfl⟩ := plan_eq_ok_iff.mp backPlanned
  rw [usageSteps_append, UsageRegistry.run_append]
  exact ⟨first, _, second, frontPlanned, backPlanned⟩

end Append

/-! ## Texts -/

/-- **Expanding two texts one after the other is expanding them joined.**  Where joining
the texts fuses no words, the joined text expands exactly when the first one does and the
second one does from the registry that the first one leaves.  The expanded text is then
the two expanded texts, joined, and the registry is the one that the second one leaves. -/
theorem expandFrom_ofText_append (table : Table) (mode : OutputMode) (policy : Policy)
    (registry : UsageRegistry) (front back : String) (notSingle : policy.single = false)
    (separable : Separable front back) :
    ((∃ expanded, expandFrom table mode policy registry (ofText (front ++ back)) = .ok expanded) ↔
      ∃ first between second,
        expandFrom table mode policy registry (ofText front) = .ok (first, between) ∧
        expandFrom table mode policy between (ofText back) = .ok second) ∧
    ∀ whole final first between second after,
      expandFrom table mode policy registry (ofText (front ++ back)) = .ok (whole, final) →
      expandFrom table mode policy registry (ofText front) = .ok (first, between) →
      expandFrom table mode policy between (ofText back) = .ok (second, after) →
      whole.toText = first.toText ++ second.toText ∧ final = after := by
  have words : Document.tokens (ofText (front ++ back)) =
      Document.tokens (ofText front) ++ Document.tokens (ofText back) :=
    TextDocument.words_append separable
  constructor
  · constructor
    · rintro ⟨⟨whole, after⟩, succeeds⟩
      obtain ⟨replacements, planned, _⟩ := expandFrom_eq_ok_iff.mp succeeds
      rw [words] at planned
      obtain ⟨first, between, second, frontPlanned, backPlanned⟩ :=
        exists_plans_of_plan_append notSingle planned
      exact ⟨_, between, (_, after), expandFrom_eq_ok_iff.mpr ⟨first, frontPlanned, rfl⟩,
        expandFrom_eq_ok_iff.mpr ⟨second, backPlanned, rfl⟩⟩
    · rintro ⟨_, between, ⟨_, after⟩, frontSucceeds, backSucceeds⟩
      obtain ⟨first, frontPlanned, _⟩ := expandFrom_eq_ok_iff.mp frontSucceeds
      obtain ⟨second, backPlanned, _⟩ := expandFrom_eq_ok_iff.mp backSucceeds
      obtain ⟨replacements, planned, _⟩ := plan_append notSingle frontPlanned backPlanned
      rw [← words] at planned
      exact ⟨(_, after), expandFrom_eq_ok_iff.mpr ⟨replacements, planned, rfl⟩⟩
  · intro whole final _ between _ after wholeSucceeds frontSucceeds backSucceeds
    obtain ⟨first, frontPlanned, rfl⟩ := expandFrom_eq_ok_iff.mp frontSucceeds
    obtain ⟨second, backPlanned, rfl⟩ := expandFrom_eq_ok_iff.mp backSucceeds
    obtain ⟨replacements, planned, inFront, inBack⟩ :=
      plan_append notSingle frontPlanned backPlanned
    rw [← words] at planned
    have expanded : expandFrom table mode policy registry (ofText (front ++ back)) =
        .ok (Document.apply replacements (ofText (front ++ back)), after) :=
      expandFrom_eq_ok_iff.mpr ⟨replacements, planned, rfl⟩
    rw [expanded] at wholeSucceeds
    cases wholeSucceeds
    exact ⟨TextDocument.toText_apply_append separable inFront inBack, rfl⟩

/-- The worked text, cut between two blanks: the short form behind the cut shows that the
first use before it is remembered. -/
theorem expandFrom_ofText_append_workedParts :
    Policy.single {} = false ∧ Separable "ac:ml, then " " ac:ml." ∧
      ∃ whole after,
        expandFrom workedTable .plain {} .empty (ofText ("ac:ml, then " ++ " ac:ml.")) =
          .ok (whole, after) ∧
        whole.toText = "machine learning (ML), then " ++ " ML." ∧
        after.seenCount "ml" = 2 := by
  have notSingle : Policy.single {} = false := rfl
  have ends : "ac:ml, then ".toList.getLast? = some ' ' := by decide +kernel
  have separable : Separable "ac:ml, then " " ac:ml." := by
    refine Or.inl fun last member => ?_
    rw [ends, Option.mem_some] at member
    rw [← member]
    decide
  obtain ⟨expands, joins⟩ := expandFrom_ofText_append workedTable .plain {} .empty
    "ac:ml, then " " ac:ml." notSingle separable
  have front : expandFrom workedTable .plain {} .empty (ofText "ac:ml, then ") = .ok
      (⟨[⟨"machine learning (ML),", false⟩, ⟨" ", true⟩, ⟨"then", false⟩, ⟨" ", true⟩]⟩,
        UsageRegistry.empty.run [.record "ml"]) := eq_ok_of_toOption (by decide +kernel)
  have back : expandFrom workedTable .plain {} (UsageRegistry.empty.run [.record "ml"])
      (ofText " ac:ml.") = .ok (⟨[⟨" ", true⟩, ⟨"ML.", false⟩]⟩,
        UsageRegistry.empty.run [.record "ml", .record "ml"]) :=
    eq_ok_of_toOption (by decide +kernel)
  obtain ⟨⟨whole, after⟩, succeeds⟩ := expands.mpr ⟨_, _, _, front, back⟩
  obtain ⟨text, final⟩ := joins whole after _ _ _ _ succeeds front back
  refine ⟨notSingle, separable, whole, after, succeeds, ?_, ?_⟩
  · rw [text]
    decide +kernel
  · rw [final]
    decide +kernel

end Acronyms.Expansion
