import Acronyms.Proofs.Pandoc.Document
import Acronyms.Proofs.Pandoc.ListingPlaces

/-!
# Replacing the listings of a document

The settings of a placeholder are read from its attributes, of which the last valid one of
a kind counts (`ofAttributes_asks`).  The walk that renders the placeholders comes to a
place after the placeholders before it, and renders what stands there
(`follow?_renderListings`).  It depends on nothing but the renderings that it asks for
(`renderListings_congr`), and leaves a value without placeholders alone
(`renderListings_of_noPlaceholder`).

The main statement is `replaceListings_rendersExactly`: **replacing the listings of a
document renders its outermost placeholders in their order, each once and with its own
settings, and changes nothing else**.  Where the renderings are objects without
placeholders, none is left, and there is nothing to replace a second time.
-/

set_option autoImplicit false

namespace Acronyms

/-! ## Settings -/

namespace ListingPlaceholder

/-- The classes among the attributes. -/
def classNames (attributes : Json) : List String :=
  (attributeItems attributes 1).filterMap Json.asString?

/-- Whether an attribute has the name `sort`. -/
def isSort (pair : Json) : Bool := (pair.item? 0).bind Json.asString? = some "sort"

/-- The values of the attributes with the name `sort`; one that is no string is empty. -/
def sortNames (attributes : Json) : List String :=
  ((attributeItems attributes 2).filter isSort).map fun pair =>
    ((pair.item? 1).bind Json.asString?).getD ""

/-- The error of an outcome. -/
def errorOf? {ε α : Type} : Except ε α → Option ε
  | .ok _ => none
  | .error error => some error

/-- What attributes ask for: the last class that is a filter, and the last value of `sort`
that is an order.  The values that are none are reported. -/
structure Asks (attributes : Json) (placeholder : ListingPlaceholder) : Prop where
  filter : placeholder.filter =
    ((classNames attributes).filterMap fun name => (ListingFilter.ofName name).toOption).getLast?
  sort : placeholder.sort =
    ((sortNames attributes).filterMap fun name => (ListingSort.ofName name).toOption).getLast?
  invalid : placeholder.invalid =
    (sortNames attributes).filterMap fun name => errorOf? (ListingSort.ofName name)

/-- The last of some values overrides what was there before. -/
theorem getLast?_cons_or {α : Type} (value : α) (rest : List α) (before : Option α) :
    (value :: rest).getLast?.or before = rest.getLast?.or (some value) := by
  rw [List.getLast?_cons]
  cases rest.getLast? <;> rfl

theorem foldl_addClass (names : List String) (placeholder : ListingPlaceholder) :
    names.foldl addClass placeholder =
      { placeholder with
        filter := ((names.filterMap fun name => (ListingFilter.ofName name).toOption).getLast?).or
          placeholder.filter } := by
  induction names generalizing placeholder with
  | nil => rfl
  | cons name rest ih =>
    rw [List.foldl_cons, ih, addClass]
    cases read : ListingFilter.ofName name with
    | error error => simp [read, Except.toOption]
    | ok filter => simp [read, Except.toOption, getLast?_cons_or]

theorem foldl_addAttribute (pairs : List Json) (placeholder : ListingPlaceholder) :
    let names := (pairs.filter isSort).map fun pair => ((pair.item? 1).bind Json.asString?).getD ""
    pairs.foldl addAttribute placeholder =
      { placeholder with
        sort := ((names.filterMap fun name => (ListingSort.ofName name).toOption).getLast?).or
          placeholder.sort
        invalid := placeholder.invalid ++
          names.filterMap fun name => errorOf? (ListingSort.ofName name) } := by
  induction pairs generalizing placeholder with
  | nil => simp
  | cons pair rest ih =>
    rw [List.foldl_cons, ih, addAttribute]
    by_cases named : (pair.item? 0).bind Json.asString? = some "sort"
    · have kept : isSort pair = true := decide_eq_true named
      cases read : ListingSort.ofName (((pair.item? 1).bind Json.asString?).getD "") with
      | error error => simp [named, kept, read, Except.toOption, errorOf?]
      | ok sort => simp [named, kept, read, Except.toOption, errorOf?, getLast?_cons_or]
    · have dropped : isSort pair = false := decide_eq_false named
      simp [named, dropped]

/-- **The settings are what the attributes ask for.** -/
theorem ofAttributes_asks (attributes : Json) : Asks attributes (ofAttributes attributes) := by
  constructor <;> simp only [ofAttributes, foldl_addClass, foldl_addAttribute]
  case filter => exact Option.or_none
  case sort => exact Option.or_none
  case invalid => rfl

end ListingPlaceholder

namespace Pandoc

/-! ## What stands where -/

/-- A placeholder asks for what its attributes ask for. -/
theorem exists_attributes_of_settings {value : Json} {placeholder : ListingPlaceholder}
    (found : settings? value = some placeholder) :
    ∃ members attributes, value = .object members ∧ attributes? members = some attributes ∧
      placeholder = ListingPlaceholder.ofAttributes attributes := by
  cases value with
  | object members =>
    rw [settings?, placeholder?] at found
    split at found
    next listing =>
      have named : identifier? members = some listingIdentifier := by
        simpa using (Bool.and_eq_true_iff.mp listing).2
      obtain ⟨attributes, read, _⟩ := Option.bind_eq_some_iff.mp named
      rw [read] at found
      exact ⟨members, attributes, rfl, read, (Option.some.inj found).symm⟩
    next => cases found
  | _ => cases found

section Walk

variable (render : ListingRenderer)

theorem renderListings_of_settings {value : Json} {placeholder : ListingPlaceholder}
    (found : settings? value = some placeholder) (number : Nat) :
    renderListings render number value = (render number placeholder, number + 1) := by
  cases value with
  | object members =>
    rw [settings?] at found
    simp only [renderListings, found]
  | _ => cases found

/-- **The walk renders what stands at a place**, from the number of the placeholders before
it, unless the place is in a placeholder. -/
theorem follow?_renderListings {value : Json} {path : List Nat} (exposed : Exposed value path)
    (number : Nat) :
    (renderListings render number value).1.follow? path =
      (value.follow? path).map fun inside =>
        (renderListings render (number + placeholdersAhead value path) inside).1 := by
  induction path generalizing value number with
  | nil => rfl
  | cons index path ih =>
    obtain ⟨other, below⟩ := exposed_cons.mp exposed
    rw [Json.follow?, Json.follow?, children_renderListings render other, List.getElem?_mapIdx]
    cases found : value.children[index]? with
    | none => rfl
    | some child =>
      rw [Option.map_some, Option.bind_some, Option.bind_some, ih (below child found),
        placeholdersAhead_cons found, Nat.add_assoc]

/-- **A value without placeholders is left alone.** -/
theorem renderListings_of_noPlaceholder {value : Json} (clean : NoPlaceholder value)
    (number : Nat) : renderListings render number value = (value, number) := by
  induction value using Json.induction_on_children generalizing number with
  | step value ih =>
    obtain ⟨other, below⟩ := noPlaceholder_iff.mp clean
    have nothing : ∀ child ∈ value.children, placeholdersOf child = [] := by
      intro child member
      have counted := renderListings_after render 0 child
      rw [ih child member (below child member)] at counted
      exact List.length_eq_zero_iff.mp (by omega)
    refine Prod.ext (Json.eq_of_outline_of_children (outline_renderListings render other number)
      (List.ext_getElem? fun index => ?_)) ?_
    · rw [children_renderListings render other, List.getElem?_mapIdx]
      cases found : value.children[index]? with
      | none => rfl
      | some child =>
        have member := List.mem_of_getElem? found
        rw [Option.map_some, ih child member (below child member)]
    · rw [renderListings_after, placeholdersOf_eq other, List.map_congr_left nothing]
      simp

/-- **The walk depends on no rendering but those that it asks for**: those of its own
placeholders, each with its own number. -/
theorem renderListings_congr (other : ListingRenderer) {value : Json} (number : Nat)
    (agree : ∀ offset placeholder, (placeholdersOf value)[offset]? = some placeholder →
      other (number + offset) placeholder = render (number + offset) placeholder) :
    renderListings other number value = renderListings render number value := by
  induction value using Json.induction_on_children generalizing number with
  | step value ih =>
    cases listed : isPlaceholder value with
    | true =>
      obtain ⟨placeholder, found⟩ := exists_settings? listed
      have same := agree 0 placeholder (by rw [placeholdersOf_of_settings found]; rfl)
      rw [renderListings_of_settings other found, renderListings_of_settings render found]
      exact congrArg (·, number + 1) same
    | false =>
      refine Prod.ext (Json.eq_of_outline_of_children ?_ (List.ext_getElem? fun index => ?_)) ?_
      · rw [outline_renderListings other listed, outline_renderListings render listed]
      · rw [children_renderListings other listed, children_renderListings render listed,
          List.getElem?_mapIdx, List.getElem?_mapIdx]
        cases found : value.children[index]? with
        | none => rfl
        | some child =>
          have inner : (value.children.map placeholdersOf)[index]? = some (placeholdersOf child) := by
            rw [List.getElem?_map, found, Option.map_some]
          have below := ih child (List.mem_of_getElem? found)
            (number + placeholdersBefore value index) fun offset placeholder stands => by
              rw [Nat.add_assoc]
              refine agree _ placeholder ?_
              rw [placeholdersOf_eq listed, placeholdersBefore,
                getElem?_flatten inner (List.getElem?_eq_some_iff.mp stands).1, stands]
          rw [Option.map_some, Option.map_some, below]
      · rw [renderListings_after, renderListings_after]

end Walk

/-! ## What rendering comes to -/

/-- The object at a path asks for settings by its attributes. -/
def AsksAt (value : Json) (path : List Nat) (placeholder : ListingPlaceholder) : Prop :=
  ∃ members attributes, value.follow? path = some (.object members) ∧
    attributes? members = some attributes ∧ placeholder.Asks attributes

/-- What rendering the listings of a value comes to, at the places of its outermost
placeholders and elsewhere. -/
structure RendersExactly (render : ListingRenderer) (value : Json) (places : List (List Nat))
    (result : Json × Nat) : Prop where
  outermost : ∀ path, path ∈ places ↔ OutermostAt value path
  /-- The walk comes to the places in the order of the paths. -/
  ordered : places.Pairwise (· < ·)
  count : result.2 = places.length
  /-- The rendering of a number is that for the settings at the place of the number, and
  stands there. -/
  rendered : ∀ number path, places[number]? = some path →
    ∃ placeholder, AsksAt value path placeholder ∧
      result.1.follow? path = some (render number placeholder)
  /-- Nothing else is asked of the renderer. -/
  asked : ∀ other : ListingRenderer,
    (∀ number path placeholder, places[number]? = some path → AsksAt value path placeholder →
      other number placeholder = render number placeholder) →
    renderListings other 0 value = result
  /-- A path keeps its outline when no placeholder stands at it or above it. -/
  outline : ∀ path, (∀ above, above <+: path → ¬PlaceholderAt value above) →
    (result.1.follow? path).map Json.outline = (value.follow? path).map Json.outline
  /-- A path stays as a whole when no placeholder stands at it, above it or below it. -/
  unchanged : ∀ path, (∀ other, other <+: path ∨ path <+: other → ¬PlaceholderAt value other) →
    result.1.follow? path = value.follow? path
  noneLeft : NoPlaceholder result.1
  /-- There is nothing to render a second time. -/
  again : ∀ other : ListingRenderer, renderListings other 0 result.1 = (result.1, 0)

theorem exists_settings_of_place {value : Json} {path : List Nat} {number : Nat}
    (place : (placesOf value)[number]? = some path) :
    ∃ inside placeholder, value.follow? path = some inside ∧
      settings? inside = some placeholder ∧
      (placeholdersOf value)[number]? = some placeholder := by
  have listed := congrArg (fun settings => settings[number]?) (map_settings_placesOf value)
  simp only [List.getElem?_map, place, Option.map_some] at listed
  obtain ⟨placeholder, stands, same⟩ := Option.map_eq_some_iff.mp listed.symm
  obtain ⟨inside, followed, found⟩ := Option.bind_eq_some_iff.mp same.symm
  exact ⟨inside, placeholder, followed, found, stands⟩

theorem asksAt_of_settings {value inside : Json} {path : List Nat}
    {placeholder : ListingPlaceholder} (followed : value.follow? path = some inside)
    (found : settings? inside = some placeholder) : AsksAt value path placeholder := by
  obtain ⟨members, attributes, rfl, read, rfl⟩ := exists_attributes_of_settings found
  exact ⟨members, attributes, followed, read, ListingPlaceholder.ofAttributes_asks attributes⟩

theorem exposed_of_clear {value : Json} {path : List Nat}
    (clear : ∀ above, above <+: path → ¬PlaceholderAt value above) : Exposed value path :=
  fun above isAbove listing => absurd listing (clear above isAbove)

/-- **The listings of a value are rendered exactly**, where the renderings are objects
without placeholders. -/
theorem renderListings_rendersExactly {render : ListingRenderer}
    (objects : ∀ number placeholder, ∃ members, render number placeholder = .object members)
    (clean : ∀ number placeholder, NoPlaceholder (render number placeholder)) (value : Json) :
    RendersExactly render value (placesOf value) (renderListings render 0 value) := by
  have noneLeft : NoPlaceholder (renderListings render 0 value).1 :=
    noPlaceholder_renderListings objects clean value 0
  constructor
  case outermost => exact fun path => mem_placesOf_iff
  case ordered => exact pairwise_placesOf value
  case count => rw [renderListings_after, length_placesOf, Nat.zero_add]
  case rendered =>
    intro number path place
    obtain ⟨inside, placeholder, followed, found, _⟩ := exists_settings_of_place place
    have exposed := (mem_placesOf_iff.mp (List.mem_of_getElem? place)).2
    refine ⟨placeholder, asksAt_of_settings followed found, ?_⟩
    rw [follow?_renderListings render exposed, followed, Option.map_some,
      renderListings_of_settings render found, placeholdersAhead_of_place place, Nat.zero_add]
  case asked =>
    intro other agree
    refine renderListings_congr render other 0 fun number placeholder listed => ?_
    rw [Nat.zero_add]
    have within := (List.getElem?_eq_some_iff.mp listed).1
    rw [← length_placesOf] at within
    have place := List.getElem?_eq_getElem within
    obtain ⟨inside, same, followed, found, again⟩ := exists_settings_of_place place
    obtain rfl : placeholder = same := Option.some.inj (listed.symm.trans again)
    exact agree number _ placeholder place (asksAt_of_settings followed found)
  case outline =>
    intro path clear
    rw [follow?_renderListings render (exposed_of_clear clear), Option.map_map]
    cases followed : value.follow? path with
    | none => rfl
    | some inside =>
      have other : isPlaceholder inside = false :=
        Bool.eq_false_iff.mpr fun listing => clear path List.prefix_rfl ⟨inside, followed, listing⟩
      exact congrArg some (outline_renderListings render other _)
  case unchanged =>
    intro path clear
    rw [follow?_renderListings render (exposed_of_clear fun above isAbove =>
      clear above (.inl isAbove))]
    cases followed : value.follow? path with
    | none => rfl
    | some inside =>
      have unlisted : NoPlaceholder inside := by
        intro below deeper reached
        refine Bool.eq_false_iff.mpr fun listing =>
          clear (path ++ below) (.inr (List.prefix_append path below)) ⟨deeper, ?_, listing⟩
        rw [Json.follow?_append, followed, Option.bind_some, reached]
      rw [Option.map_some, renderListings_of_noPlaceholder render unlisted]
  case noneLeft => exact noneLeft
  case again => exact fun other => renderListings_of_noPlaceholder other noneLeft 0

end Pandoc

/-! ## Documents -/

namespace PandocDocument

open Pandoc

/-- **Replacing the listings of a document renders its outermost placeholders exactly.**  The
same holds of any value.  The document keeps its other members, and replacing its listings
again replaces nothing. -/
theorem replaceListings_rendersExactly {render : ListingRenderer}
    (objects : ∀ number placeholder, ∃ members, render number placeholder = .object members)
    (clean : ∀ number placeholder, NoPlaceholder (render number placeholder)) :
    (∀ value, RendersExactly render value (placesOf value) (renderListings render 0 value)) ∧
    ∀ document after count, replaceListings render document = (after, count) →
      RendersExactly render document.tree (placesOf document.tree) (after.tree, count) ∧
      (∀ name, after.toMembers.lookup name =
        if name = "blocks" then some after.tree else document.toMembers.lookup name) ∧
      ∀ other : ListingRenderer, replaceListings other after = (after, 0) := by
  have exactly := renderListings_rendersExactly objects clean
  refine ⟨exactly, fun document after count replaced => ?_⟩
  obtain ⟨rfl, rfl⟩ := Prod.mk.inj replaced
  refine ⟨exactly document.tree, fun name => lookup_toMembers document _ name, fun other => ?_⟩
  have again := (exactly document.tree).again other
  obtain ⟨blocks, count⟩ := Prod.mk.inj again
  exact Prod.ext (congrArg (fun blocks => { document with blocks }) (Json.array.inj blocks)) count

/-! ## A worked document

One placeholder has another one inside and repeats its settings, and one is a member of a
record. -/

/-- A placeholder with no settings. -/
def bareListing : Json :=
  .object [("c", .array [.array [.string "acronyms"]]), ("t", .string "Div")]

/-- A document of which two placeholders are outermost. -/
def workedListings : PandocDocument where
  blocks := [
    .object [
      ("c", .array [
        .array [.string "acronyms", .array [.string "all", .string "wide", .string "used"],
          .array [.array [.string "sort", .string "first-use"],
            .array [.string "sort", .string "random"]]],
        .array [bareListing]]),
      ("t", .string "Div")],
    .object [("note", bareListing)]]

/-- A paragraph with the number of the placeholder and its filter. -/
def workedRenderer : ListingRenderer := fun number placeholder =>
  node "Para" (.array [word (if placeholder.filter = some .used then "used" else "all"),
    .integer number])

theorem noPlaceholder_workedRenderer (number : Nat) (placeholder : ListingPlaceholder) :
    NoPlaceholder (workedRenderer number placeholder) := by
  refine noPlaceholder_node (by decide) (noPlaceholder_array fun item member => ?_)
  rcases List.mem_pair.mp member with rfl | rfl
  · exact noPlaceholder_node (by decide) (noPlaceholder_string _)
  · exact noPlaceholder_iff.mpr ⟨rfl, fun _ inside => nomatch inside⟩

/-- In the worked document two placeholders are rendered, the first of them for the used
acronyms, and none is left. -/
theorem replaceListings_rendersExactly_workedListings :
    placesOf workedListings.tree = [[0], [1, 0]] ∧
    (replaceListings workedRenderer workedListings).2 = 2 ∧
    (replaceListings workedRenderer workedListings).1.blocks =
      [node "Para" (.array [word "used", .integer 0]),
        .object [("note", node "Para" (.array [word "all", .integer 1]))]] ∧
    NoPlaceholder (replaceListings workedRenderer workedListings).1.tree := by
  have places : placesOf workedListings.tree = [[0], [1, 0]] := by decide +kernel
  have objects : ∀ number placeholder, ∃ members, workedRenderer number placeholder =
      .object members := fun _ _ => ⟨_, rfl⟩
  obtain ⟨_, documents⟩ := replaceListings_rendersExactly objects noPlaceholder_workedRenderer
  obtain ⟨exactly, _⟩ := documents workedListings _ _ rfl
  exact ⟨places, exactly.count.trans (by rw [places]; rfl), rfl, exactly.noneLeft⟩

end PandocDocument

end Acronyms
