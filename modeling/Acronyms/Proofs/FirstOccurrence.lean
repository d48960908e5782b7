import Mathlib.Data.List.DropRight
import Mathlib.Data.List.Nodup

/-!
# Distinct elements in the order of first occurrence

The distinct elements of a list, each where it first occurs, grow at the end
(`eraseDups_concat`): **a further element changes no earlier rank**, and gets the next
free one if it is new (`idxOf?_added_self`, `idxOf?_added_of_ne`).  Both the registry of
usage and the package options keep their entries in such an order.
-/

set_option autoImplicit false

namespace Acronyms

variable {α : Type} [BEq α] [LawfulBEq α]

/-! ## Distinct elements -/

/-- A further element extends the distinct elements exactly when it is new. -/
theorem eraseDups_concat (list : List α) (last : α) :
    (list ++ [last]).eraseDups =
      if last ∈ list.eraseDups then list.eraseDups else list.eraseDups ++ [last] := by
  rw [List.eraseDups_append]
  by_cases known : last ∈ list
  · simp [List.removeAll, known]
  · simp [List.removeAll, known, List.eraseDups_cons]

theorem nodup_eraseDups (list : List α) : list.eraseDups.Nodup := by
  induction list using List.reverseRecOn with
  | nil => exact List.nodup_nil
  | append_singleton list last ih =>
    rw [eraseDups_concat]
    split
    next known => exact ih
    next fresh =>
      rw [← List.concat_eq_append]
      exact List.Nodup.concat fresh ih

theorem eraseDups_of_nodup {list : List α} (nodup : list.Nodup) : list.eraseDups = list := by
  induction list using List.reverseRecOn with
  | nil => rfl
  | append_singleton list last ih =>
    obtain ⟨front, _, apart⟩ := List.nodup_append.mp nodup
    have fresh : last ∉ list := fun member => apart last member last (by simp) rfl
    rw [eraseDups_concat, ih front, if_neg fresh]

/-- Behind a front, only the distinct elements of a list matter. -/
theorem eraseDups_append_eraseDups (front list : List α) :
    (front ++ list.eraseDups).eraseDups = (front ++ list).eraseDups := by
  induction list using List.reverseRecOn with
  | nil => rfl
  | append_singleton list last ih =>
    rw [eraseDups_concat, ← List.append_assoc, eraseDups_concat, ← ih]
    split
    next known => rw [if_pos (by simp [List.mem_eraseDups.mp known])]
    next => rw [← List.append_assoc, eraseDups_concat]

/-- The distinct elements of a selection are the selected ones of the distinct elements. -/
theorem eraseDups_filter (select : α → Bool) (list : List α) :
    (list.filter select).eraseDups = list.eraseDups.filter select := by
  induction list using List.reverseRecOn with
  | nil => rfl
  | append_singleton list last ih =>
    rw [eraseDups_concat, List.filter_append]
    cases selected : select last with
    | false => split <;> simp [selected, ih]
    | true =>
      have kept : [last].filter select = [last] := by simp [selected]
      rw [kept, eraseDups_concat, ih]
      by_cases known : last ∈ list.eraseDups <;> simp [known, selected]

/-! ## Ranks -/

/-- The rank of an added element is the rank that it had, or the next free one. -/
theorem idxOf?_added_self (list : List α) (added : α) :
    (if added ∈ list then list else list ++ [added]).idxOf? added =
      some ((list.idxOf? added).getD list.length) := by
  cases rank : list.idxOf? added with
  | none =>
    rw [if_neg (List.idxOf?_eq_none_iff.mp rank)]
    unfold List.idxOf? at rank ⊢
    simp [List.findIdx?_append, rank]
  | some index =>
    have known : added ∈ list := List.isSome_idxOf?.mp (by rw [rank]; rfl)
    rw [if_pos known, rank]
    rfl

/-- An added element changes no other rank. -/
theorem idxOf?_added_of_ne (list : List α) {element added : α} (differ : element ≠ added) :
    (if added ∈ list then list else list ++ [added]).idxOf? element = list.idxOf? element := by
  split
  next known => rfl
  next fresh =>
    unfold List.idxOf?
    simp [List.findIdx?_append, Ne.symm differ]

/-- In a list without repetition the positions of the elements increase. -/
theorem pairwise_idxOf_lt {list : List α} (nodup : list.Nodup) :
    list.Pairwise fun left right => list.idxOf left < list.idxOf right := by
  rw [List.pairwise_iff_getElem]
  intro first second firstBound secondBound less
  rwa [nodup.idxOf_getElem, nodup.idxOf_getElem]

/-- The distinct elements stand in the order of their first occurrences. -/
theorem pairwise_idxOf_eraseDups (list : List α) :
    list.eraseDups.Pairwise fun left right => list.idxOf left < list.idxOf right := by
  induction list using List.reverseRecOn with
  | nil => exact List.Pairwise.nil
  | append_singleton list last ih =>
    have kept : ∀ element ∈ list.eraseDups, (list ++ [last]).idxOf element = list.idxOf element :=
      fun element member => List.idxOf_append_of_mem (List.mem_eraseDups.mp member)
    have front : list.eraseDups.Pairwise fun left right =>
        (list ++ [last]).idxOf left < (list ++ [last]).idxOf right :=
      ih.imp_of_mem fun leftMember rightMember less => by
        rwa [kept _ leftMember, kept _ rightMember]
    rw [eraseDups_concat]
    split
    next known => exact front
    next fresh =>
      refine List.pairwise_append.mpr ⟨front, List.pairwise_singleton _ _, ?_⟩
      intro left leftMember right rightMember
      obtain rfl := List.mem_singleton.mp rightMember
      have new : right ∉ list := fun member => fresh (List.mem_eraseDups.mpr member)
      rw [kept left leftMember, List.idxOf_append_of_notMem new]
      exact Nat.lt_add_right _ (List.idxOf_lt_length_iff.mpr (List.mem_eraseDups.mp leftMember))

end Acronyms
