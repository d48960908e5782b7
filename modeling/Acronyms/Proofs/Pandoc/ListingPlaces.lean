import Acronyms.Proofs.Pandoc.Placeholders

/-!
# The places of the listing placeholders

A placeholder inside another placeholder goes with it, so only the outermost ones are
rendered.  The walk comes to their places in the order of the paths: **every outermost
placeholder has exactly one place in the walk** (`mem_placesOf_iff`, `pairwise_placesOf`).

The settings that the walk lists are those of the placeholders at the places, in order
(`map_settings_placesOf`), and the number of a place is the number of the placeholders
that the walk passes before it (`placeholdersAhead_of_place`).
-/

set_option autoImplicit false

namespace Acronyms.Pandoc

/-! ## Outermost placeholders -/

/-- A placeholder stands at a path. -/
def PlaceholderAt (value : Json) (path : List Nat) : Prop :=
  ∃ inside, value.follow? path = some inside ∧ isPlaceholder inside = true

/-- No placeholder stands above a path. -/
def Exposed (value : Json) (path : List Nat) : Prop :=
  ∀ above, above <+: path → PlaceholderAt value above → above = path

/-- A placeholder that is in no other placeholder stands at a path. -/
def OutermostAt (value : Json) (path : List Nat) : Prop :=
  PlaceholderAt value path ∧ Exposed value path

theorem placeholderAt_nil {value : Json} :
    PlaceholderAt value [] ↔ isPlaceholder value = true := by
  simp [PlaceholderAt, Json.follow?]

theorem placeholderAt_cons {value : Json} {index : Nat} {path : List Nat} :
    PlaceholderAt value (index :: path) ↔
      ∃ child, value.children[index]? = some child ∧ PlaceholderAt child path := by
  simp only [PlaceholderAt, Json.follow?, Option.bind_eq_some_iff]
  constructor
  · rintro ⟨inside, ⟨child, found, followed⟩, listing⟩
    exact ⟨child, found, inside, followed, listing⟩
  · rintro ⟨child, found, inside, followed, listing⟩
    exact ⟨inside, ⟨child, found, followed⟩, listing⟩

theorem exposed_cons {value : Json} {index : Nat} {path : List Nat} :
    Exposed value (index :: path) ↔
      isPlaceholder value = false ∧
        ∀ child, value.children[index]? = some child → Exposed child path := by
  constructor
  · intro exposed
    refine ⟨?_, fun child found above isAbove listing => ?_⟩
    · rw [Bool.eq_false_iff]
      intro listing
      cases exposed [] List.nil_prefix (placeholderAt_nil.mpr listing)
    · have same := exposed (index :: above) (List.cons_prefix_cons.mpr ⟨rfl, isAbove⟩)
        (placeholderAt_cons.mpr ⟨child, found, listing⟩)
      exact (List.cons.inj same).2
  · rintro ⟨other, below⟩ above isAbove listing
    cases above with
    | nil =>
      rw [placeholderAt_nil, other] at listing
      cases listing
    | cons first above =>
      obtain ⟨rfl, within⟩ := List.cons_prefix_cons.mp isAbove
      obtain ⟨child, found, inside⟩ := placeholderAt_cons.mp listing
      rw [below child found above within inside]

theorem outermostAt_nil {value : Json} :
    OutermostAt value [] ↔ isPlaceholder value = true := by
  rw [OutermostAt, placeholderAt_nil, and_iff_left_iff_imp]
  exact fun _ above isAbove _ => List.prefix_nil.mp isAbove

theorem outermostAt_cons {value : Json} {index : Nat} {path : List Nat} :
    OutermostAt value (index :: path) ↔
      isPlaceholder value = false ∧
        ∃ child, value.children[index]? = some child ∧ OutermostAt child path := by
  simp only [OutermostAt, placeholderAt_cons, exposed_cons]
  constructor
  · rintro ⟨⟨child, found, listing⟩, other, below⟩
    exact ⟨other, child, found, listing, below child found⟩
  · rintro ⟨other, child, found, listing, exposed⟩
    refine ⟨⟨child, found, listing⟩, other, fun same again => ?_⟩
    obtain rfl : child = same := Option.some.inj (found.symm.trans again)
    exact exposed

/-! ## Listing the places -/

mutual

/-- The places of the outermost placeholders of a value, in the order of the walk. -/
def placesOf : Json → List (List Nat)
  | .array items => placesOfItems 0 items
  | .object members => if isListing members then [[]] else placesOfMembers 0 members
  | _ => []

/-- The places in a list of values, the first of which has the given index. -/
def placesOfItems (index : Nat) : List Json → List (List Nat)
  | [] => []
  | item :: rest => (placesOf item).map (index :: ·) ++ placesOfItems (index + 1) rest

/-- The places in the members of an object, the first of which has the given index. -/
def placesOfMembers (index : Nat) : List (String × Json) → List (List Nat)
  | [] => []
  | (_, value) :: rest => (placesOf value).map (index :: ·) ++ placesOfMembers (index + 1) rest

end

/-- The places in each child of a value. -/
def placesByChild (value : Json) : List (List (List Nat)) :=
  value.children.mapIdx fun index child => (placesOf child).map (index :: ·)

theorem getElem?_placesByChild (value : Json) (index : Nat) :
    (placesByChild value)[index]? =
      value.children[index]?.map fun child => (placesOf child).map (index :: ·) := by
  rw [placesByChild, List.getElem?_mapIdx]

theorem placesOfItems_eq (index : Nat) (items : List Json) :
    placesOfItems index items =
      (items.mapIdx fun offset item => (placesOf item).map ((index + offset) :: ·)).flatten := by
  induction items generalizing index with
  | nil => rfl
  | cons item rest ih =>
    rw [placesOfItems, ih, List.mapIdx_cons, List.flatten_cons]
    simp only [Nat.add_zero, Nat.add_assoc, Nat.add_comm 1]

theorem placesOfMembers_eq (index : Nat) (members : Json.Members) :
    placesOfMembers index members = placesOfItems index (members.map Prod.snd) := by
  induction members generalizing index with
  | nil => rfl
  | cons member rest ih => simp [placesOfMembers, placesOfItems, ih]

theorem placesOf_of_placeholder {value : Json} (listing : isPlaceholder value = true) :
    placesOf value = [[]] := by
  cases value with
  | object members => exact if_pos listing
  | _ => cases listing

/-- The places in a value that is no placeholder are those in its children. -/
theorem placesOf_eq {value : Json} (other : isPlaceholder value = false) :
    placesOf value = (placesByChild value).flatten := by
  have counted : ∀ items : List Json, placesOfItems 0 items =
      (items.mapIdx fun index item => (placesOf item).map (index :: ·)).flatten := by
    intro items
    simp only [placesOfItems_eq, Nat.zero_add]
  cases value with
  | array items => exact counted items
  | object members =>
    have notListing : ¬isListing members = true := Bool.eq_false_iff.mp other
    rw [placesOf, if_neg notListing, placesOfMembers_eq]
    exact counted (members.map Prod.snd)
  | _ => rfl

theorem mem_placesByChild_flatten {value : Json} {path : List Nat} :
    path ∈ (placesByChild value).flatten ↔
      ∃ index child below, path = index :: below ∧ value.children[index]? = some child ∧
        below ∈ placesOf child := by
  constructor
  · intro member
    obtain ⟨places, listed, inside⟩ := List.mem_flatten.mp member
    obtain ⟨index, stands⟩ := List.getElem?_of_mem listed
    rw [getElem?_placesByChild] at stands
    obtain ⟨child, found, rfl⟩ := Option.map_eq_some_iff.mp stands
    obtain ⟨below, place, rfl⟩ := List.mem_map.mp inside
    exact ⟨index, child, below, rfl, found, place⟩
  · rintro ⟨index, child, below, rfl, found, place⟩
    have listed := getElem?_placesByChild value index
    rw [found, Option.map_some] at listed
    exact List.mem_flatten.mpr ⟨_, List.mem_of_getElem? listed, List.mem_map_of_mem place⟩

/-- **The places are those of the outermost placeholders.** -/
theorem mem_placesOf_iff {value : Json} {path : List Nat} :
    path ∈ placesOf value ↔ OutermostAt value path := by
  induction path generalizing value with
  | nil =>
    rw [outermostAt_nil]
    cases listed : isPlaceholder value with
    | true => simp [placesOf_of_placeholder listed]
    | false =>
      rw [placesOf_eq listed, mem_placesByChild_flatten]
      simp
  | cons index path ih =>
    rw [outermostAt_cons]
    cases listed : isPlaceholder value with
    | true => simp [placesOf_of_placeholder listed]
    | false =>
      rw [placesOf_eq listed, mem_placesByChild_flatten]
      simp [← ih]

/-- **The places are in the order of the paths.** -/
theorem pairwise_placesOf (value : Json) : (placesOf value).Pairwise (· < ·) := by
  induction value using Json.induction_on_children with
  | step value ih =>
    cases listed : isPlaceholder value with
    | true => simp [placesOf_of_placeholder listed]
    | false =>
      rw [placesOf_eq listed, List.pairwise_flatten]
      constructor
      · intro places member
        obtain ⟨index, stands⟩ := List.getElem?_of_mem member
        rw [getElem?_placesByChild] at stands
        obtain ⟨child, found, rfl⟩ := Option.map_eq_some_iff.mp stands
        refine List.pairwise_map.mpr ((ih child (List.mem_of_getElem? found)).imp ?_)
        exact fun order => List.cons_lt_cons_iff.mpr (.inr ⟨rfl, order⟩)
      · rw [List.pairwise_iff_getElem]
        intro index later _ _ before path inside other behind
        simp only [placesByChild, List.getElem_mapIdx] at inside behind
        obtain ⟨_, _, rfl⟩ := List.mem_map.mp inside
        obtain ⟨_, _, rfl⟩ := List.mem_map.mp behind
        exact List.cons_lt_cons_iff.mpr (.inl before)

/-! ## The settings at the places -/

/-- The settings of a value that is a placeholder. -/
def settings? : Json → Option ListingPlaceholder
  | .object members => placeholder? members
  | _ => none

theorem placeholdersOf_of_settings {value : Json} {placeholder : ListingPlaceholder}
    (found : settings? value = some placeholder) : placeholdersOf value = [placeholder] := by
  cases value with
  | object members =>
    rw [settings?] at found
    simp only [placeholdersOf, found]
  | _ => cases found

theorem exists_settings? {value : Json} (listing : isPlaceholder value = true) :
    ∃ placeholder, settings? value = some placeholder := by
  obtain ⟨members, placeholder, rfl, found⟩ := exists_placeholder? listing
  exact ⟨placeholder, found⟩

/-- **The walk lists the settings at the places**, in order. -/
theorem map_settings_placesOf (value : Json) :
    ((placesOf value).map fun path => (value.follow? path).bind settings?) =
      (placeholdersOf value).map some := by
  induction value using Json.induction_on_children with
  | step value ih =>
    cases listed : isPlaceholder value with
    | true =>
      obtain ⟨placeholder, found⟩ := exists_settings? listed
      simp [placesOf_of_placeholder listed, placeholdersOf_of_settings found, Json.follow?, found]
    | false =>
      rw [placesOf_eq listed, placeholdersOf_eq listed, List.map_flatten, List.map_flatten,
        List.map_map]
      refine congrArg List.flatten (List.ext_getElem? fun index => ?_)
      rw [List.getElem?_map, List.getElem?_map, getElem?_placesByChild]
      cases found : value.children[index]? with
      | none => rfl
      | some child =>
        simp only [Option.map_some, List.map_map, Function.comp_def, Json.follow?, found,
          Option.bind_some]
        rw [ih child (List.mem_of_getElem? found)]

theorem length_placesOf (value : Json) :
    (placesOf value).length = (placeholdersOf value).length := by
  simpa using congrArg List.length (map_settings_placesOf value)

/-! ## The numbers of the places -/

/-- The number of the placeholders that the walk passes before it comes to a path. -/
def placeholdersAhead : Json → List Nat → Nat
  | _, [] => 0
  | value, index :: path =>
    placeholdersBefore value index +
      (value.children[index]?.map fun child => placeholdersAhead child path).getD 0

theorem placeholdersAhead_cons {value child : Json} {index : Nat}
    (found : value.children[index]? = some child) (path : List Nat) :
    placeholdersAhead value (index :: path) =
      placeholdersBefore value index + placeholdersAhead child path := by
  rw [placeholdersAhead, found]
  rfl

theorem length_placesByChild_take (value : Json) (index : Nat) :
    ((placesByChild value).take index).flatten.length = placeholdersBefore value index := by
  have lengths : (placesByChild value).map List.length =
      (value.children.map placeholdersOf).map List.length := by
    refine List.ext_getElem? fun place => ?_
    rw [List.getElem?_map, List.getElem?_map, List.getElem?_map, getElem?_placesByChild]
    cases value.children[place]? with
    | none => rfl
    | some child => simp [length_placesOf]
  rw [placeholdersBefore, List.length_flatten, List.length_flatten, List.map_take, List.map_take,
    lengths]

/-- **The number of a place is that of the placeholders passed before it.** -/
theorem placeholdersAhead_of_place {value : Json} {path : List Nat} {number : Nat}
    (place : (placesOf value)[number]? = some path) : placeholdersAhead value path = number := by
  induction path generalizing value number with
  | nil =>
    have listing := outermostAt_nil.mp (mem_placesOf_iff.mp (List.mem_of_getElem? place))
    rw [placesOf_of_placeholder listing] at place
    obtain ⟨within, -⟩ := List.getElem?_eq_some_iff.mp place
    rw [placeholdersAhead]
    simp only [List.length_singleton] at within
    omega
  | cons index path ih =>
    obtain ⟨other, _⟩ := outermostAt_cons.mp (mem_placesOf_iff.mp (List.mem_of_getElem? place))
    rw [placesOf_eq other] at place
    obtain ⟨within, -⟩ := List.getElem?_eq_some_iff.mp place
    obtain ⟨position, places, offset, listed, inside, rfl⟩ := exists_of_lt_length_flatten within
    rw [getElem?_flatten listed inside] at place
    rw [getElem?_placesByChild] at listed
    obtain ⟨child, found, rfl⟩ := Option.map_eq_some_iff.mp listed
    rw [List.getElem?_map] at place
    obtain ⟨below, placeBelow, same⟩ := Option.map_eq_some_iff.mp place
    obtain ⟨rfl, rfl⟩ := List.cons.inj same
    rw [placeholdersAhead_cons found, ih placeBelow, length_placesByChild_take]

end Acronyms.Pandoc
