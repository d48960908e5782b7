/-!
# Maps kept in key order

A finite map is the list of its entries in strictly increasing key order, one
entry a key.  The order is part of the value: definitions are listed by
identifier, extra fields by name and planned replacements by position, so the
list itself is what the other modules show.

Insertion is one pass that replaces an entry of the same key.  Its two look-up
laws, `lookup_insertEntry_self` and `lookup_insertEntry_of_ne`, hold for every
entry list; sortedness is needed only for `SortedMap.ext_get?`: **two maps with
the same look-ups are equal**.
-/

set_option autoImplicit false

namespace Acronyms

variable {κ α : Type} [Ord κ]

/-! ## Entry lists -/

/-- Put a key into an entry list before the first larger key, replacing an entry
of the same key that stands there. -/
def insertEntry (key : κ) (value : α) : List (κ × α) → List (κ × α)
  | [] => [(key, value)]
  | (head, kept) :: rest =>
    match compare key head with
    | .lt => (key, value) :: (head, kept) :: rest
    | .eq => (key, value) :: rest
    | .gt => (head, kept) :: insertEntry key value rest

/-- An entry list without the entries of one key. -/
def eraseEntry [BEq κ] (key : κ) (entries : List (κ × α)) : List (κ × α) :=
  entries.filter fun entry => !(entry.1 == key)

/-- The keys of an entry list increase strictly. -/
def KeysIncrease (entries : List (κ × α)) : Prop :=
  entries.Pairwise fun left right => compare left.1 right.1 = .lt

section HeadEntry

variable [BEq κ] [LawfulBEq κ]

omit [Ord κ] in
/-- The head entry answers for its own key. -/
theorem lookup_cons_same (entry : κ × α) (rest : List (κ × α)) :
    (entry :: rest).lookup entry.1 = some entry.2 := by
  obtain ⟨key, value⟩ := entry
  simp

omit [Ord κ] in
/-- The head entry is silent on other keys. -/
theorem lookup_cons_of_ne {key : κ} {entry : κ × α} (differ : key ≠ entry.1)
    (rest : List (κ × α)) : (entry :: rest).lookup key = rest.lookup key := by
  obtain ⟨head, value⟩ := entry
  rw [List.lookup_cons, beq_false_of_ne differ]

end HeadEntry

/-- Every entry after an insertion is the inserted one or was there before. -/
theorem mem_insertEntry {key : κ} {value : α} {entry : κ × α} {entries : List (κ × α)}
    (member : entry ∈ insertEntry key value entries) :
    entry = (key, value) ∨ entry ∈ entries := by
  induction entries with
  | nil => simpa [insertEntry] using member
  | cons first rest ih =>
    simp only [insertEntry] at member
    split at member <;> simp only [List.mem_cons] at member ⊢
    · exact member
    · rcases member with same | old
      · exact Or.inl same
      · exact Or.inr (Or.inr old)
    · rcases member with same | later
      · exact Or.inr (Or.inl same)
      · rcases ih later with new | old
        · exact Or.inl new
        · exact Or.inr (Or.inr old)

section Laws

variable [Std.TransOrd κ] [Std.LawfulEqOrd κ]

/-- Insertion keeps the keys increasing. -/
theorem keysIncrease_insertEntry (key : κ) (value : α) {entries : List (κ × α)}
    (increase : KeysIncrease entries) : KeysIncrease (insertEntry key value entries) := by
  induction entries with
  | nil => simp [insertEntry, KeysIncrease]
  | cons first rest ih =>
    obtain ⟨head, kept⟩ := first
    obtain ⟨below, restIncrease⟩ := List.pairwise_cons.mp increase
    simp only [insertEntry]
    split
    next order =>
      refine List.pairwise_cons.mpr ⟨fun entry member => ?_, increase⟩
      rcases List.mem_cons.mp member with rfl | later
      · exact order
      · exact Std.TransCmp.lt_trans order (below entry later)
    next order =>
      have same : key = head := Std.LawfulEqOrd.eq_of_compare order
      subst same
      exact List.pairwise_cons.mpr ⟨fun entry member => below entry member, restIncrease⟩
    next order =>
      refine List.pairwise_cons.mpr ⟨fun entry member => ?_, ih restIncrease⟩
      rcases mem_insertEntry member with rfl | old
      · exact Std.OrientedCmp.lt_of_gt order
      · exact below entry old

variable [BEq κ] [LawfulBEq κ]

omit [Std.TransOrd κ] in
/-- The inserted key reads back its value. -/
theorem lookup_insertEntry_self (key : κ) (value : α) (entries : List (κ × α)) :
    (insertEntry key value entries).lookup key = some value := by
  induction entries with
  | nil => simp [insertEntry]
  | cons first rest ih =>
    simp only [insertEntry]
    split
    next => simp
    next => simp
    next order =>
      have differ : key ≠ first.1 := fun same => by
        rw [same, Std.ReflOrd.compare_self] at order
        cases order
      rw [lookup_cons_of_ne differ]
      exact ih

omit [Std.TransOrd κ] in
/-- The other keys read what they read before. -/
theorem lookup_insertEntry_of_ne {key other : κ} (value : α) (differ : other ≠ key)
    (entries : List (κ × α)) :
    (insertEntry key value entries).lookup other = entries.lookup other := by
  induction entries with
  | nil => simp [insertEntry, List.lookup_cons, beq_false_of_ne differ]
  | cons first rest ih =>
    simp only [insertEntry]
    split
    next => rw [List.lookup_cons, beq_false_of_ne differ]
    next order =>
      have same : key = first.1 := Std.LawfulEqOrd.eq_of_compare order
      rw [List.lookup_cons, List.lookup_cons, ← same, beq_false_of_ne differ]
    next => rw [List.lookup_cons, List.lookup_cons, ih]

omit [Ord κ] [Std.TransOrd κ] [Std.LawfulEqOrd κ] in
/-- An erased key has no value left. -/
theorem lookup_eraseEntry_self (key : κ) (entries : List (κ × α)) :
    (eraseEntry key entries).lookup key = none := by
  induction entries with
  | nil => rfl
  | cons first rest ih =>
    by_cases same : first.1 = key
    · simpa [eraseEntry, same] using ih
    · have kept : eraseEntry key (first :: rest) = first :: eraseEntry key rest := by
        simp [eraseEntry, same]
      rw [kept, List.lookup_cons, beq_false_of_ne (Ne.symm same)]
      exact ih

omit [Ord κ] [Std.TransOrd κ] [Std.LawfulEqOrd κ] in
/-- Erasing a key leaves the other keys alone. -/
theorem lookup_eraseEntry_of_ne {key other : κ} (differ : other ≠ key)
    (entries : List (κ × α)) :
    (eraseEntry key entries).lookup other = entries.lookup other := by
  induction entries with
  | nil => rfl
  | cons first rest ih =>
    by_cases same : first.1 = key
    · have dropped : eraseEntry key (first :: rest) = eraseEntry key rest := by
        simp [eraseEntry, same]
      rw [dropped, ih, List.lookup_cons, same, beq_false_of_ne differ]
    · have kept : eraseEntry key (first :: rest) = first :: eraseEntry key rest := by
        simp [eraseEntry, same]
      rw [kept, List.lookup_cons, List.lookup_cons, ih]

omit [Std.TransOrd κ] in
/-- An inserted key that is erased again leaves nothing behind. -/
theorem eraseEntry_insertEntry_self (key : κ) (value : α) (entries : List (κ × α)) :
    eraseEntry key (insertEntry key value entries) = eraseEntry key entries := by
  induction entries with
  | nil => simp [insertEntry, eraseEntry]
  | cons first rest ih =>
    simp only [insertEntry]
    split
    next => simp [eraseEntry]
    next order =>
      have same : key = first.1 := Std.LawfulEqOrd.eq_of_compare order
      simp [eraseEntry, same]
    next =>
      unfold eraseEntry at ih ⊢
      rw [List.filter_cons, List.filter_cons, ih]

omit [Ord κ] [Std.TransOrd κ] [Std.LawfulEqOrd κ] [LawfulBEq κ] in
theorem eraseEntry_comm (key other : κ) (entries : List (κ × α)) :
    eraseEntry key (eraseEntry other entries) = eraseEntry other (eraseEntry key entries) := by
  unfold eraseEntry
  rw [List.filter_filter, List.filter_filter]
  exact List.filter_congr fun entry _ => Bool.and_comm _ _

omit [Ord κ] [Std.TransOrd κ] [Std.LawfulEqOrd κ] [LawfulBEq κ] in
theorem eraseEntry_idem (key : κ) (entries : List (κ × α)) :
    eraseEntry key (eraseEntry key entries) = eraseEntry key entries := by
  unfold eraseEntry
  rw [List.filter_filter]
  exact List.filter_congr fun entry _ => Bool.and_self _

/-! ## Extensionality -/

omit [Std.TransOrd κ] in
/-- A key below every key of an entry list has no value there. -/
theorem lookup_eq_none_of_below {key : κ} {entries : List (κ × α)}
    (below : ∀ entry ∈ entries, compare key entry.1 = .lt) : entries.lookup key = none := by
  induction entries with
  | nil => rfl
  | cons first rest ih =>
    have order := below first List.mem_cons_self
    have differ : key ≠ first.1 := fun same => by
      rw [same, Std.ReflOrd.compare_self] at order
      cases order
    rw [lookup_cons_of_ne differ]
    exact ih fun entry member => below entry (List.mem_cons_of_mem _ member)

/-- **Entry lists in key order are determined by their look-ups.** -/
theorem eq_of_lookup_eq : ∀ {left right : List (κ × α)}, KeysIncrease left → KeysIncrease right →
    (∀ key, left.lookup key = right.lookup key) → left = right
  | [], [], _, _, _ => rfl
  | [], second :: _, _, _, agree => by
    have found := agree second.1
    rw [lookup_cons_same] at found
    cases found
  | first :: _, [], _, _, agree => by
    have found := agree first.1
    rw [lookup_cons_same] at found
    cases found
  | first :: left, second :: right, leftIncrease, rightIncrease, agree => by
    obtain ⟨leftBelow, leftRest⟩ := List.pairwise_cons.mp leftIncrease
    obtain ⟨rightBelow, rightRest⟩ := List.pairwise_cons.mp rightIncrease
    have heads : compare first.1 second.1 = .eq := by
      match order : compare first.1 second.1 with
      | .eq => rfl
      | .lt =>
        have missing : (second :: right).lookup first.1 = none :=
          lookup_eq_none_of_below fun entry member => by
            rcases List.mem_cons.mp member with rfl | later
            · exact order
            · exact Std.TransCmp.lt_trans order (rightBelow entry later)
        have found := agree first.1
        rw [missing, lookup_cons_same] at found
        cases found
      | .gt =>
        have missing : (first :: left).lookup second.1 = none :=
          lookup_eq_none_of_below fun entry member => by
            rcases List.mem_cons.mp member with rfl | later
            · exact Std.OrientedCmp.lt_of_gt order
            · exact Std.TransCmp.lt_trans (Std.OrientedCmp.lt_of_gt order) (leftBelow entry later)
        have found := agree second.1
        rw [missing, lookup_cons_same] at found
        cases found
    have same : first.1 = second.1 := Std.LawfulEqOrd.eq_of_compare heads
    have values : first.2 = second.2 := by
      have found := agree first.1
      rw [lookup_cons_same, same, lookup_cons_same] at found
      exact Option.some.inj found
    have rests : left = right := by
      refine eq_of_lookup_eq leftRest rightRest fun key => ?_
      by_cases here : key = first.1
      · rw [here, lookup_eq_none_of_below leftBelow, same, lookup_eq_none_of_below rightBelow]
      · have found := agree key
        rwa [lookup_cons_of_ne here, lookup_cons_of_ne (same ▸ here)] at found
    rw [rests, Prod.ext same values]

/-- In key order an entry list answers for a key exactly with the entry of that key. -/
theorem lookup_eq_some_iff_mem {key : κ} {value : α} {entries : List (κ × α)}
    (increase : KeysIncrease entries) :
    entries.lookup key = some value ↔ (key, value) ∈ entries := by
  induction entries with
  | nil => simp
  | cons first rest ih =>
    obtain ⟨head, kept⟩ := first
    obtain ⟨below, restIncrease⟩ := List.pairwise_cons.mp increase
    by_cases same : key = head
    · subst same
      have absent : (key, value) ∉ rest := fun member => by
        have order := below (key, value) member
        rw [Std.ReflOrd.compare_self] at order
        cases order
      simp [absent, eq_comm]
    · rw [lookup_cons_of_ne same, ih restIncrease]
      simp [same]

end Laws

/-! ## Maps -/

/-- A finite map, held as its entries in strictly increasing key order. -/
@[ext]
structure SortedMap (κ α : Type) [Ord κ] where
  toList : List (κ × α)
  /-- No key stands twice, and the keys stand in order. -/
  increasing : KeysIncrease toList

namespace SortedMap

instance [DecidableEq κ] [DecidableEq α] : DecidableEq (SortedMap κ α) := fun left right =>
  decidable_of_iff (left.toList = right.toList) SortedMap.ext_iff.symm

def empty : SortedMap κ α where
  toList := []
  increasing := List.Pairwise.nil

instance : EmptyCollection (SortedMap κ α) := ⟨empty⟩

instance : Inhabited (SortedMap κ α) := ⟨empty⟩

def size (map : SortedMap κ α) : Nat := map.toList.length

def isEmpty (map : SortedMap κ α) : Bool := map.toList.isEmpty

def keys (map : SortedMap κ α) : List κ := map.toList.map (·.1)

/-- The value of a key, if it has one. -/
def get? [BEq κ] (map : SortedMap κ α) (key : κ) : Option α := map.toList.lookup key

def contains [BEq κ] (map : SortedMap κ α) (key : κ) : Bool := (map.get? key).isSome

def erase [BEq κ] (map : SortedMap κ α) (key : κ) : SortedMap κ α where
  toList := eraseEntry key map.toList
  increasing := List.Pairwise.filter _ map.increasing

variable [Std.TransOrd κ] [Std.LawfulEqOrd κ]

/-- Give a key a value, replacing the one it had. -/
def insert (map : SortedMap κ α) (key : κ) (value : α) : SortedMap κ α where
  toList := insertEntry key value map.toList
  increasing := keysIncrease_insertEntry key value map.increasing

/-- Put a list of entries into a map one after the other, so that later ones win. -/
def insertAll (map : SortedMap κ α) (entries : List (κ × α)) : SortedMap κ α :=
  entries.foldl (fun result entry => result.insert entry.1 entry.2) map

/-- The map of a list of entries; of two entries of one key the later wins. -/
def ofList (entries : List (κ × α)) : SortedMap κ α :=
  insertAll empty entries

/-- Two maps joined; on a common key the second wins. -/
def union (map other : SortedMap κ α) : SortedMap κ α :=
  map.insertAll other.toList

/-! ### Laws -/

variable [BEq κ] [LawfulBEq κ]

omit [Std.TransOrd κ] [Std.LawfulEqOrd κ] [LawfulBEq κ] in
@[simp] theorem get?_empty (key : κ) : (empty : SortedMap κ α).get? key = none := rfl

@[simp] theorem get?_insert_self (map : SortedMap κ α) (key : κ) (value : α) :
    (map.insert key value).get? key = some value :=
  lookup_insertEntry_self key value map.toList

theorem get?_insert_of_ne (map : SortedMap κ α) {key other : κ} (value : α)
    (differ : other ≠ key) : (map.insert key value).get? other = map.get? other :=
  lookup_insertEntry_of_ne value differ map.toList

omit [Std.TransOrd κ] [Std.LawfulEqOrd κ] in
theorem get?_erase_of_ne (map : SortedMap κ α) {key other : κ} (differ : other ≠ key) :
    (map.erase key).get? other = map.get? other :=
  lookup_eraseEntry_of_ne differ map.toList

/-- **Two maps with the same look-ups are equal.** -/
theorem ext_get? {left right : SortedMap κ α} (agree : ∀ key, left.get? key = right.get? key) :
    left = right :=
  SortedMap.ext (eq_of_lookup_eq left.increasing right.increasing agree)

/-- The entries of a map are its look-ups. -/
theorem mem_toList_iff {map : SortedMap κ α} {key : κ} {value : α} :
    (key, value) ∈ map.toList ↔ map.get? key = some value :=
  (lookup_eq_some_iff_mem map.increasing).symm

/-- The keys of a map are those that have a value. -/
theorem mem_keys_iff {map : SortedMap κ α} {key : κ} :
    key ∈ map.keys ↔ ∃ value, map.get? key = some value := by
  simp only [keys, List.mem_map, Prod.exists, exists_and_right, exists_eq_right, mem_toList_iff]

omit [Std.TransOrd κ] [Std.LawfulEqOrd κ] [BEq κ] [LawfulBEq κ] in
theorem pairwise_keys (map : SortedMap κ α) :
    map.keys.Pairwise fun left right => compare left right = .lt :=
  List.pairwise_map.mpr map.increasing

omit [Std.TransOrd κ] [BEq κ] [LawfulBEq κ] in
/-- No key stands twice. -/
theorem nodup_keys (map : SortedMap κ α) : map.keys.Nodup :=
  map.pairwise_keys.imp fun order same => by
    rw [same, Std.ReflOrd.compare_self] at order
    cases order

end SortedMap

end Acronyms
