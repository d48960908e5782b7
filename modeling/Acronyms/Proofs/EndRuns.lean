import Mathlib.Data.List.DropRight

/-!
# Runs at the ends of a list

A list is a run of elements of one kind before a rest that starts with none of them
(`exists_run_start`), and such a run behind elements that end in none (`exists_run_end`).
Texts are cut in this way at blanks, at spaces and at the end of an identifier.
-/

set_option autoImplicit false

namespace Acronyms

variable {α : Type}

/-- What is left when a run is dropped does not start with an element of it. -/
theorem eq_false_of_head?_dropWhile {inRun : α → Bool} {list : List α} :
    ∀ first ∈ (list.dropWhile inRun).head?, inRun first = false := by
  intro first begins
  have stop := List.head?_dropWhile_not inRun list
  rw [Option.mem_def.mp begins] at stop
  exact stop

/-- A list is a run before elements that do not start with one of the run. -/
theorem exists_run_start (inRun : α → Bool) (list : List α) :
    ∃ run rest, list = run ++ rest ∧ (∀ element ∈ run, inRun element = true) ∧
      ∀ first ∈ rest.head?, inRun first = false :=
  ⟨list.takeWhile inRun, list.dropWhile inRun, List.takeWhile_append_dropWhile.symm,
    fun _ => List.mem_takeWhile_imp, eq_false_of_head?_dropWhile⟩

/-- A list is a run behind elements that do not end in one of the run. -/
theorem exists_run_end (inRun : α → Bool) (list : List α) :
    ∃ body run, list = body ++ run ∧ (∀ last ∈ body.getLast?, inRun last = false) ∧
      ∀ element ∈ run, inRun element = true := by
  refine ⟨list.rdropWhile inRun, list.rtakeWhile inRun, List.rdropWhile_append_rtakeWhile.symm,
    ?_, fun _ => List.mem_rtakeWhile_imp⟩
  intro last ends
  obtain ⟨nonempty, rfl⟩ := List.mem_getLast?_eq_getLast ends
  exact Bool.eq_false_iff.mpr (List.rdropWhile_last_not _ _ nonempty)

end Acronyms
