import Acronyms.Glossary
import Acronyms.Proofs.FirstOccurrence

/-!
# Entries written one after the other

Definitions are kept in a sorted map and options in the order of their first assignment,
but both are written entry by entry, and an entry answers for its own key only.  So after
any number of writes a key has **the value that it was given last**
(`read_foldl_write`), which is the first one that is found from the end of the list.

The order is told from the writes as well.  A sorted map has none of its own, and options
keep their keys in the order of first assignment (`map_fst_setAll`).  Hence a list of
assignments may be collected before it is merged (`SortedMap.union_ofList`,
`PackageOptions.merge_ofList`), and **merging is associative**, down to the order in which
the options are stored.
-/

set_option autoImplicit false

namespace Acronyms

/-! ## Writing -/

/-- **After entries are written one after the other, a key has the value that it was given
last**, and the state before them answers for the keys that none of them has. -/
theorem read_foldl_write {κ α σ : Type} [BEq κ] [LawfulBEq κ] {read : σ → κ → Option α}
    {write : σ → κ × α → σ}
    (own : ∀ state entry, read (write state entry) entry.1 = some entry.2)
    (others : ∀ state entry key, key ≠ entry.1 → read (write state entry) key = read state key)
    (entries : List (κ × α)) (state : σ) (key : κ) :
    read (entries.foldl write state) key = (entries.reverse.lookup key).or (read state key) := by
  induction entries generalizing state with
  | nil => rfl
  | cons entry rest ih =>
    rw [List.foldl_cons, ih, List.reverse_cons, List.lookup_append, Option.or_assoc]
    by_cases same : key = entry.1
    · rw [same, own, lookup_cons_same]
      rfl
    · rw [others _ _ _ same, lookup_cons_of_ne same]
      rfl

/-- A key has no value in an entry list exactly when no entry is its own. -/
theorem lookup_eq_none_iff_notMem {κ α : Type} [BEq κ] [LawfulBEq κ] {key : κ}
    {entries : List (κ × α)} : entries.lookup key = none ↔ key ∉ entries.map (·.1) := by
  rw [List.lookup_eq_none_iff, List.mem_map]
  simp only [bne_iff_ne, not_exists, not_and]
  exact forall₂_congr fun entry _ => not_congr eq_comm

/-- Where only the values of entries are changed, a key has its changed value. -/
theorem lookup_map_snd {κ α β : Type} [BEq κ] [LawfulBEq κ] (change : α → β)
    (entries : List (κ × α)) (key : κ) :
    (entries.map fun entry => (entry.1, change entry.2)).lookup key =
      (entries.lookup key).map change := by
  induction entries with
  | nil => rfl
  | cons entry rest ih =>
    obtain ⟨other, value⟩ := entry
    simp only [List.map_cons, List.lookup_cons, ih]
    cases key == other <;> rfl

/-- Of entries with distinct keys, the last one of a key is the first one. -/
theorem lookup_reverse_of_nodup {κ α : Type} [BEq κ] [LawfulBEq κ] {entries : List (κ × α)}
    (distinct : (entries.map (·.1)).Nodup) (key : κ) :
    entries.reverse.lookup key = entries.lookup key := by
  induction entries with
  | nil => rfl
  | cons entry rest ih =>
    obtain ⟨fresh, distinctRest⟩ := List.nodup_cons.mp distinct
    rw [List.reverse_cons, List.lookup_append, ih distinctRest]
    by_cases same : key = entry.1
    · rw [same, lookup_eq_none_iff_notMem.mpr fresh, lookup_cons_same, lookup_cons_same]
      rfl
    · rw [lookup_cons_of_ne same, lookup_cons_of_ne same]
      exact Option.or_none

/-- Of entries with distinct keys, an entry answers for its key. -/
theorem lookup_eq_some_iff_mem_of_nodup {κ α : Type} [BEq κ] [LawfulBEq κ]
    {entries : List (κ × α)} (distinct : (entries.map (·.1)).Nodup) {key : κ} {value : α} :
    entries.lookup key = some value ↔ (key, value) ∈ entries := by
  induction entries with
  | nil => simp
  | cons entry rest ih =>
    obtain ⟨fresh, distinctRest⟩ := List.nodup_cons.mp distinct
    by_cases same : key = entry.1
    · have absent : (key, value) ∉ rest := fun member =>
        fresh (List.mem_map.mpr ⟨(key, value), member, same⟩)
      rw [same, lookup_cons_same, List.mem_cons, ← same, or_iff_left absent, Option.some.injEq,
        Prod.ext_iff, and_iff_right same, eq_comm]
    · have other : (key, value) ≠ entry := fun equal => same (congrArg Prod.fst equal)
      rw [lookup_cons_of_ne same, ih distinctRest, List.mem_cons, or_iff_right other]

/-- A selection that keeps the keys of entries answers for a key with what it makes of the
entry of the key. -/
theorem lookup_filterMap_of_nodup {κ α β : Type} [BEq κ] [LawfulBEq κ]
    {select : κ × α → Option (κ × β)}
    (keeps : ∀ entry selected, select entry = some selected → selected.1 = entry.1)
    {entries : List (κ × α)} (distinct : (entries.map (·.1)).Nodup) (key : κ) :
    (entries.filterMap select).lookup key =
      (entries.lookup key).bind fun value => (select (key, value)).map (·.2) := by
  induction entries with
  | nil => rfl
  | cons entry rest ih =>
    obtain ⟨fresh, distinctRest⟩ := List.nodup_cons.mp distinct
    have later := ih distinctRest
    by_cases same : key = entry.1
    · subst same
      rw [lookup_eq_none_iff_notMem.mpr fresh] at later
      rw [lookup_cons_same, Option.bind_some]
      cases selection : select entry with
      | none => rw [List.filterMap_cons_none selection, later]; rfl
      | some selected =>
        rw [List.filterMap_cons_some selection, ← keeps entry selected selection, lookup_cons_same]
        rfl
    · rw [lookup_cons_of_ne same, ← later]
      cases selection : select entry with
      | none => rw [List.filterMap_cons_none selection]
      | some selected =>
        rw [List.filterMap_cons_some selection]
        exact lookup_cons_of_ne (keeps entry selected selection ▸ same) _

theorem nodup_keys_filterMap {κ α β : Type} {select : κ × α → Option (κ × β)}
    (keeps : ∀ entry selected, select entry = some selected → selected.1 = entry.1)
    {entries : List (κ × α)} (distinct : (entries.map (·.1)).Nodup) :
    ((entries.filterMap select).map (·.1)).Nodup := by
  refine List.pairwise_map.mpr ((List.pairwise_map.mp distinct).filterMap select ?_)
  intro first second differ left leftSelected right rightSelected
  rw [keeps first left leftSelected, keeps second right rightSelected]
  exact differ

/-- Entry lists with the same distinct keys in the same order are equal if they have the
same look-ups. -/
theorem eq_of_keys_of_lookup {κ α : Type} [BEq κ] [LawfulBEq κ] :
    ∀ {left right : List (κ × α)}, (left.map (·.1)).Nodup →
      left.map (·.1) = right.map (·.1) → (∀ key, left.lookup key = right.lookup key) →
      left = right
  | [], [], _, _, _ => rfl
  | first :: left, second :: right, distinct, keys, agree => by
    obtain ⟨heads, tails⟩ : first.1 = second.1 ∧ left.map (·.1) = right.map (·.1) :=
      List.cons.inj keys
    obtain ⟨fresh, distinctLeft⟩ := List.nodup_cons.mp distinct
    have values : first.2 = second.2 := by
      have found := agree first.1
      rw [lookup_cons_same, heads, lookup_cons_same] at found
      exact Option.some.inj found
    have rests : left = right := by
      refine eq_of_keys_of_lookup distinctLeft tails fun key => ?_
      by_cases here : key = first.1
      · rw [here, lookup_eq_none_iff_notMem.mpr fresh, lookup_eq_none_iff_notMem.mpr (tails ▸ fresh)]
      · have found := agree key
        rwa [lookup_cons_of_ne here, lookup_cons_of_ne (heads ▸ here)] at found
    rw [rests, Prod.ext heads values]

/-! ## Sorted maps -/

namespace SortedMap

section Laws

variable {κ α : Type} [Ord κ] [Std.TransOrd κ] [Std.LawfulEqOrd κ] [BEq κ] [LawfulBEq κ]

theorem get?_insertAll (map : SortedMap κ α) (entries : List (κ × α)) (key : κ) :
    (map.insertAll entries).get? key = (entries.reverse.lookup key).or (map.get? key) :=
  read_foldl_write (fun state entry => get?_insert_self state entry.1 entry.2)
    (fun state entry _ differ => get?_insert_of_ne state entry.2 differ) entries map key

omit [BEq κ] [LawfulBEq κ] in
theorem insertAll_append (map : SortedMap κ α) (front back : List (κ × α)) :
    map.insertAll (front ++ back) = (map.insertAll front).insertAll back :=
  List.foldl_append

theorem get?_ofList (entries : List (κ × α)) (key : κ) :
    (ofList entries).get? key = entries.reverse.lookup key := by
  rw [ofList, get?_insertAll, get?_empty, Option.or_none]

/-- **A joined map answers from the second map, and from the first where that has nothing.** -/
theorem get?_union (map other : SortedMap κ α) (key : κ) :
    (map.union other).get? key = (other.get? key).or (map.get? key) := by
  rw [union, get?_insertAll, lookup_reverse_of_nodup other.nodup_keys]
  rfl

/-- Entries may be collected before they are put into a map. -/
theorem union_ofList (map : SortedMap κ α) (entries : List (κ × α)) :
    map.union (ofList entries) = map.insertAll entries :=
  ext_get? fun key => by rw [get?_union, get?_ofList, get?_insertAll]

theorem union_assoc (first second third : SortedMap κ α) :
    (first.union second).union third = first.union (second.union third) :=
  ext_get? fun key => by simp only [get?_union, Option.or_assoc]

theorem empty_union (map : SortedMap κ α) : (empty : SortedMap κ α).union map = map :=
  ext_get? fun key => by rw [get?_union, get?_empty, Option.or_none]

end Laws

end SortedMap

/-! ## Package options -/

theorem lookup_setItem_self (key value : String) (items : List (String × String)) :
    (setItem key value items).lookup key = some value := by
  induction items with
  | nil => exact lookup_cons_same (key, value) []
  | cons first rest ih =>
    obtain ⟨head, kept⟩ := first
    rw [setItem]
    split
    next => exact lookup_cons_same (key, value) rest
    next differ => rw [lookup_cons_of_ne (Ne.symm differ), ih]

theorem lookup_setItem_of_ne {key other : String} (value : String) (differ : other ≠ key)
    (items : List (String × String)) :
    (setItem key value items).lookup other = items.lookup other := by
  induction items with
  | nil => exact lookup_cons_of_ne differ []
  | cons first rest ih =>
    obtain ⟨head, kept⟩ := first
    rw [setItem]
    split
    next same => rw [lookup_cons_of_ne differ, lookup_cons_of_ne (same ▸ differ)]
    next => rw [List.lookup_cons, List.lookup_cons, ih]

namespace PackageOptions

theorem get?_set_self (options : PackageOptions) (key value : String) :
    (options.set key value).get? key = some value :=
  lookup_setItem_self key value options.items

theorem get?_set_of_ne (options : PackageOptions) {key other : String} (value : String)
    (differ : other ≠ key) : (options.set key value).get? other = options.get? other :=
  lookup_setItem_of_ne value differ options.items

theorem get?_setAll (options : PackageOptions) (assignments : List (String × String))
    (key : String) :
    (options.setAll assignments).get? key =
      (assignments.reverse.lookup key).or (options.get? key) :=
  read_foldl_write (fun state item => get?_set_self state item.1 item.2)
    (fun state item _ differ => get?_set_of_ne state item.2 differ) assignments options key

/-- **Options keep their keys in the order of first assignment.** -/
theorem map_fst_setAll (options : PackageOptions) (assignments : List (String × String)) :
    (options.setAll assignments).items.map (·.1) =
      (options.items.map (·.1) ++ assignments.map (·.1)).eraseDups := by
  induction assignments using List.reverseRecOn with
  | nil =>
    rw [List.map_nil, List.append_nil, eraseDups_of_nodup options.distinct]
    rfl
  | append_singleton assignments last ih =>
    rw [List.map_append, List.map_singleton, ← List.append_assoc, eraseDups_concat, ← ih, setAll,
      List.foldl_append]
    exact map_fst_setItem last.1 last.2 _

/-- **Options with the same keys in the same order and the same values are equal.** -/
theorem ext_get? {left right : PackageOptions}
    (keys : left.items.map (·.1) = right.items.map (·.1))
    (agree : ∀ key, left.get? key = right.get? key) : left = right :=
  PackageOptions.ext (eq_of_keys_of_lookup left.distinct keys agree)

theorem get?_ofList (assignments : List (String × String)) (key : String) :
    (ofList assignments).get? key = assignments.reverse.lookup key := by
  rw [ofList, get?_setAll]
  exact Option.or_none

theorem map_fst_ofList (assignments : List (String × String)) :
    (ofList assignments).items.map (·.1) = (assignments.map (·.1)).eraseDups :=
  map_fst_setAll empty assignments

/-- **Merged options answer from the second ones, and from the first where those have
nothing.** -/
theorem get?_merge (options other : PackageOptions) (key : String) :
    (options.merge other).get? key = (other.get? key).or (options.get? key) := by
  rw [merge, get?_setAll, lookup_reverse_of_nodup other.distinct]
  rfl

/-- **Assignments may be collected before they are merged.** -/
theorem merge_ofList (options : PackageOptions) (assignments : List (String × String)) :
    options.merge (ofList assignments) = options.setAll assignments := by
  refine ext_get? ?_ fun key => by rw [get?_merge, get?_ofList, get?_setAll]
  rw [merge, map_fst_setAll, map_fst_setAll, map_fst_ofList, eraseDups_append_eraseDups]

/-- Options are those that their own items assign. -/
theorem ofList_items (options : PackageOptions) : ofList options.items = options := by
  refine ext_get? ?_ fun key => ?_
  · rw [map_fst_ofList, eraseDups_of_nodup options.distinct]
  · rw [get?_ofList, lookup_reverse_of_nodup options.distinct]
    rfl

theorem setAll_append (options : PackageOptions) (front back : List (String × String)) :
    options.setAll (front ++ back) = (options.setAll front).setAll back :=
  List.foldl_append

/-- Assigning to options is assigning behind their own items. -/
theorem ofList_items_append (options : PackageOptions) (assignments : List (String × String)) :
    ofList (options.items ++ assignments) = options.setAll assignments := by
  have own : empty.setAll options.items = options := options.ofList_items
  rw [ofList, setAll_append, own]

/-- Assigning to merged options is assigning to the second ones first. -/
theorem merge_setAll (first second : PackageOptions) (assignments : List (String × String)) :
    (first.merge second).setAll assignments = first.merge (second.setAll assignments) :=
  calc (first.merge second).setAll assignments
      = first.setAll (second.items ++ assignments) := (setAll_append first _ _).symm
    _ = first.merge (ofList (second.items ++ assignments)) := (merge_ofList first _).symm
    _ = first.merge (second.setAll assignments) := by rw [ofList_items_append]

theorem merge_assoc (first second third : PackageOptions) :
    (first.merge second).merge third = first.merge (second.merge third) :=
  merge_setAll first second third.items

theorem empty_merge (options : PackageOptions) : empty.merge options = options :=
  ofList_items options

end PackageOptions

end Acronyms
