import Acronyms.Path
import Mathlib.Data.List.Infix

/-!
# Ancestors of a directory

Going up from a directory ends, because the directory that a path lies in is a shorter text.
So no two paths are ancestors of each other (`ancestors_antisymm`).

For a directory that is given by its names below the root of the machine (`absolute`), going
up leaves the last name out (`parent?_absolute`), so **its ancestors are the directories of
its leading names**, the longest first (`ancestors_absolute`).  A file seen from it has one
name more (`join_absolute`).
-/

set_option autoImplicit false

namespace Acronyms.Path

/-! ## One step up -/

theorem self_mem_ancestors (path : String) : path ∈ ancestors path := by
  rw [ancestors_eq]
  exact List.mem_cons_self

theorem mem_ancestors_of_parent?_eq_some {path up other : String}
    (found : parent? path = some up) :
    other ∈ ancestors path ↔ other = path ∨ other ∈ ancestors up := by
  rw [ancestors_eq, found, List.mem_cons]
  rfl

theorem mem_ancestors_of_parent?_eq_none {path other : String} (found : parent? path = none) :
    other ∈ ancestors path ↔ other = path := by
  rw [ancestors_eq, found]
  exact List.mem_singleton

/-- Every other ancestor is a shorter text. -/
theorem eq_or_length_lt_of_mem_ancestors {path other : String} (above : other ∈ ancestors path) :
    other = path ∨ other.length < path.length := by
  induction path using ancestors.induct with
  | case1 path ih =>
    cases found : parent? path with
    | none => exact .inl ((mem_ancestors_of_parent?_eq_none found).mp above)
    | some up =>
      obtain same | further := (mem_ancestors_of_parent?_eq_some found).mp above
      · exact .inl same
      · have shorter := length_lt_of_parent? found
        obtain rfl | later := ih up found further
        · exact .inr shorter
        · exact .inr (later.trans shorter)

theorem ancestors_antisymm {path other : String} (above : other ∈ ancestors path)
    (below : path ∈ ancestors other) : other = path := by
  obtain same | shorter := eq_or_length_lt_of_mem_ancestors above
  · exact same
  · obtain same | longer := eq_or_length_lt_of_mem_ancestors below
    · exact same.symm
    · omega

/-! ## Names below the root -/

/-- A name of a directory: some text without a slash, and not the dot of the directory
itself. -/
structure IsName (name : String) : Prop where
  solid : isIdle name = false
  whole : '/' ∉ name.toList

/-- The path of names below the root of the machine. -/
def absolute (names : List String) : String := "/" ++ "/".intercalate names

/-! ## Pieces between slashes -/

theorem splitAtSlashes_of_notMem {piece : List Char} (whole : '/' ∉ piece) :
    splitAtSlashes piece = [piece] := by
  induction piece with
  | nil => rfl
  | cons character rest ih =>
    obtain ⟨other, later⟩ := not_or.mp (mt List.mem_cons.mpr whole)
    rw [splitAtSlashes, if_neg (Ne.symm other), ih later]

theorem splitAtSlashes_append {piece : List Char} (whole : '/' ∉ piece) (rest : List Char) :
    splitAtSlashes (piece ++ '/' :: rest) = piece :: splitAtSlashes rest := by
  induction piece with
  | nil => rw [List.nil_append, splitAtSlashes, if_pos rfl]
  | cons character piece ih =>
    obtain ⟨other, later⟩ := not_or.mp (mt List.mem_cons.mpr whole)
    rw [List.cons_append, splitAtSlashes, if_neg (Ne.symm other), ih later]

/-- Pieces without slashes are found again between the slashes that join them. -/
theorem splitAtSlashes_intercalate (first : List Char) (rest : List (List Char))
    (whole : ∀ piece ∈ first :: rest, '/' ∉ piece) :
    splitAtSlashes (['/'].intercalate (first :: rest)) = first :: rest := by
  induction rest generalizing first with
  | nil =>
    rw [List.intercalate_singleton]
    exact splitAtSlashes_of_notMem (whole first List.mem_cons_self)
  | cons second rest ih =>
    obtain ⟨head, tail⟩ := List.forall_mem_cons.mp whole
    rw [List.intercalate_cons_cons, List.append_assoc, List.singleton_append,
      splitAtSlashes_append head, ih second tail]

/-! ## Going up -/

section Named

variable {names : List String} (named : ∀ name ∈ names, IsName name)

include named

/-- The components of names below the root are these names, behind the empty one that the root
stands for. -/
theorem components_absolute (nonempty : names ≠ []) :
    components (absolute names) = "" :: names := by
  obtain ⟨first, rest, rfl⟩ := List.exists_cons_of_ne_nil nonempty
  have whole : ∀ piece ∈ first.toList :: rest.map String.toList, '/' ∉ piece := by
    rw [← List.map_cons]
    rintro _ member
    obtain ⟨name, given, rfl⟩ := List.mem_map.mp member
    exact (named name given).whole
  have pieces := splitAtSlashes_intercalate _ _ whole
  have text : (absolute (first :: rest)).toList =
      '/' :: ['/'].intercalate (first.toList :: rest.map String.toList) := by
    rw [absolute, String.toList_append, String.toList_intercalate]
    rfl
  rw [components, text, splitAtSlashes, if_pos rfl, pieces]
  simp [Function.comp_def]

theorem trimIdle_names (first : String) : trimIdle (first :: names) = first :: names := by
  obtain rfl | ⟨front, last, rfl⟩ := names.eq_nil_or_concat
  · rfl
  · have solid := (named last (by simp)).solid
    simp [trimIdle, solid]

/-- The components of names below the root without idle ones at the end; the root has an idle
one. -/
theorem trimIdle_components_absolute : trimIdle (components (absolute names)) = "" :: names := by
  obtain rfl | ⟨first, rest, rfl⟩ : names = [] ∨ ∃ first rest, names = first :: rest := by
    cases names <;> simp
  · decide +kernel
  · rw [components_absolute named (List.cons_ne_nil _ _), trimIdle_names named]

end Named

/-- The root of the machine lies in no directory. -/
theorem parent?_root : parent? (absolute []) = none := by
  decide +kernel

/-- **A directory lies in the directory of all its names but the last.** -/
theorem parent?_absolute {names : List String} {last : String}
    (named : ∀ name ∈ names ++ [last], IsName name) :
    parent? (absolute (names ++ [last])) = some (absolute names) := by
  have front : ∀ name ∈ names, IsName name := fun name member =>
    named name (List.mem_append_left _ member)
  rw [parent?, trimIdle_components_absolute named]
  cases names with
  | nil => rfl
  | cons first rest =>
    have again : trimIdle ("" :: (first :: (rest ++ [last])).dropLast) = "" :: first :: rest := by
      rw [← List.cons_append, List.dropLast_concat, trimIdle_names front]
    simp only [List.cons_append, again]
    rw [absolute, String.intercalate_cons_cons]
    rfl

/-- **The ancestors of a directory are the directories of its leading names**, the longest
first. -/
theorem ancestors_absolute {names : List String} (named : ∀ name ∈ names, IsName name) :
    ancestors (absolute names) = names.inits.reverse.map absolute := by
  induction names using List.reverseRecOn with
  | nil =>
    rw [ancestors_eq, parent?_root]
    rfl
  | append_singleton names last ih =>
    have front : ∀ name ∈ names, IsName name := fun name member =>
      named name (List.mem_append_left _ member)
    rw [ancestors_eq, parent?_absolute named, Option.map_some, ih front]
    simp [List.inits_append]

/-- Names below the root are told apart by their paths. -/
theorem absolute_injective {names others : List String} (named : ∀ name ∈ names, IsName name)
    (othersNamed : ∀ name ∈ others, IsName name) (same : absolute names = absolute others) :
    names = others := by
  have trimmed := trimIdle_components_absolute named
  rw [same, trimIdle_components_absolute othersNamed] at trimmed
  exact (List.cons.inj trimmed).2.symm

theorem mem_ancestors_absolute_iff {names others : List String}
    (named : ∀ name ∈ names, IsName name) (othersNamed : ∀ name ∈ others, IsName name) :
    absolute others ∈ ancestors (absolute names) ↔ others <+: names := by
  rw [ancestors_absolute named]
  simp only [List.mem_map, List.mem_reverse, List.mem_inits]
  constructor
  · rintro ⟨leading, front, same⟩
    have leadingNamed : ∀ name ∈ leading, IsName name := fun name member =>
      named name (front.subset member)
    rwa [← absolute_injective leadingNamed othersNamed same]
  · exact fun front => ⟨others, front, rfl⟩

/-! ## Joining -/

theorem toList_absolute {names : List String} (nonempty : names ≠ []) :
    (absolute names).toList = names.flatMap fun name => '/' :: name.toList := by
  obtain ⟨first, rest, rfl⟩ := List.exists_cons_of_ne_nil nonempty
  induction rest generalizing first with
  | nil => simp [absolute]
  | cons second rest ih =>
    have later := ih second (List.cons_ne_nil _ _)
    rw [absolute, String.intercalate_cons_cons, List.flatMap_cons, ← later]
    simp [absolute]

/-- A path seen from names below the root is behind them. -/
theorem join_absolute {names : List String} {path : String}
    (named : ∀ name ∈ names, IsName name) (relative : isAbsolute path = false) :
    join (absolute names) path = absolute (names ++ [path]) := by
  obtain rfl | ⟨front, last, rfl⟩ := names.eq_nil_or_concat'
  · simp [join, absolute, relative]
  · obtain ⟨solid, whole⟩ := named last (by simp)
    have text : (absolute (front ++ [last])).toList = _ := toList_absolute (by simp)
    have visible : last.toList ≠ [] := by
      intro empty
      rw [String.toList_eq_nil_iff.mp empty] at solid
      cases solid
    have unslashed : (absolute (front ++ [last])).toList.getLast? ≠ some '/' := by
      rw [text, List.flatMap_append, List.flatMap_singleton, List.getLast?_append_cons,
        List.getLast?_cons_of_ne_nil visible]
      exact fun found => whole (List.mem_of_getLast? found)
    rw [join, if_neg, if_neg unslashed]
    · apply String.toList_injective
      rw [toList_absolute (by simp), List.flatMap_append, ← text]
      simp
    · simp [relative, absolute]

end Acronyms.Path
