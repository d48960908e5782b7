import Acronyms.Choice
import Acronyms.Pandoc.Document

/-!
# Listing placeholders

The listing of acronyms goes where the document has a `Div` with the identifier
`acronyms`.  Classes of the `Div` choose the filter and its `sort` attribute chooses
the order; of several the last valid one counts, and an invalid order is reported.

Placeholders are looked for everywhere under the blocks, also where no word is
looked for, but not inside another placeholder.
-/

set_option autoImplicit false

namespace Acronyms

/-- The settings of a listing placeholder. -/
structure ListingPlaceholder where
  filter : Option ListingFilter := none
  sort : Option ListingSort := none
  /-- The orders that were asked for and do not exist. -/
  invalid : List ChoiceError := []
  deriving DecidableEq, Repr, Inhabited

namespace ListingPlaceholder

/-- Take a class into account; a class that names no filter is left aside. -/
def addClass (placeholder : ListingPlaceholder) (name : String) : ListingPlaceholder :=
  match ListingFilter.ofName name with
  | .ok filter => { placeholder with filter := some filter }
  | .error _ => placeholder

/-- Take an attribute into account; only `sort` matters. -/
def addAttribute (placeholder : ListingPlaceholder) (pair : Json) : ListingPlaceholder :=
  if (pair.item? 0).bind Json.asString? = some "sort" then
    match ListingSort.ofName (((pair.item? 1).bind Json.asString?).getD "") with
    | .ok sort => { placeholder with sort := some sort }
    | .error error => { placeholder with invalid := placeholder.invalid ++ [error] }
  else placeholder

/-- The items of an array at an index of the attributes. -/
def attributeItems (attributes : Json) (index : Nat) : List Json :=
  ((attributes.item? index).bind Json.asArray?).getD []

/-- The settings that the attributes of a placeholder make. -/
def ofAttributes (attributes : Json) : ListingPlaceholder :=
  let classes := (attributeItems attributes 1).filterMap Json.asString?
  (attributeItems attributes 2).foldl addAttribute (classes.foldl addClass {})

end ListingPlaceholder

namespace Pandoc

/-- The settings of an object that is a listing placeholder. -/
def placeholder? (members : Json.Members) : Option ListingPlaceholder :=
  if isListing members then
    some (((attributes? members).map ListingPlaceholder.ofAttributes).getD {})
  else none

/-- How the placeholder of a given number is rendered. -/
abbrev ListingRenderer := Nat → ListingPlaceholder → Json

/-! ## Finding the placeholders -/

mutual

/-- The outermost placeholders of a value, in the order of the walk. -/
def placeholdersOf : Json → List ListingPlaceholder
  | .array items => placeholdersOfItems items
  | .object members =>
    match placeholder? members with
    | some placeholder => [placeholder]
    | none => placeholdersOfMembers members
  | _ => []

/-- The outermost placeholders of a list of values. -/
def placeholdersOfItems : List Json → List ListingPlaceholder
  | [] => []
  | item :: rest => placeholdersOf item ++ placeholdersOfItems rest

/-- The outermost placeholders of the members of an object. -/
def placeholdersOfMembers : List (String × Json) → List ListingPlaceholder
  | [] => []
  | (_, value) :: rest => placeholdersOf value ++ placeholdersOfMembers rest

end

/-! ## Replacing the placeholders -/

mutual

/-- A value with its outermost placeholders rendered, the first of which has the
given number, and the number after them. -/
def renderListings (render : ListingRenderer) (number : Nat) : Json → Json × Nat
  | .array items =>
    let (items, after) := renderItems render number items
    (.array items, after)
  | .object members =>
    match placeholder? members with
    | some placeholder => (render number placeholder, number + 1)
    | none =>
      let (members, after) := renderMembers render number members
      (.object members, after)
  | value => (value, number)

/-- A list of values with their outermost placeholders rendered. -/
def renderItems (render : ListingRenderer) (number : Nat) : List Json → List Json × Nat
  | [] => ([], number)
  | item :: rest =>
    let (item, between) := renderListings render number item
    let (rest, after) := renderItems render between rest
    (item :: rest, after)

/-- The members of an object with their outermost placeholders rendered. -/
def renderMembers (render : ListingRenderer) (number : Nat) :
    List (String × Json) → List (String × Json) × Nat
  | [] => ([], number)
  | (name, value) :: rest =>
    let (value, between) := renderListings render number value
    let (rest, after) := renderMembers render between rest
    ((name, value) :: rest, after)

end

end Pandoc

namespace PandocDocument

open Pandoc

/-- The outermost placeholders of a document, in the order of the walk. -/
def placeholders (document : PandocDocument) : List ListingPlaceholder :=
  placeholdersOfItems document.blocks

/-- The document with its outermost placeholders rendered, and how many there were. -/
def replaceListings (render : ListingRenderer) (document : PandocDocument) :
    PandocDocument × Nat :=
  let (blocks, count) := renderItems render 0 document.blocks
  ({ document with blocks }, count)

end PandocDocument

namespace Pandoc

/-! ## The text of a listing entry -/

/-- The words of a text between single spaces; empty words are dropped. -/
def spacedWords (text : String) : List String :=
  ((text.toList.splitBy fun left right => (left == ' ') == (right == ' ')).filter
    fun run => run.head? != some ' ').map String.ofList

/-- A text as words with spaces between them. -/
def textInlines (text : String) : List Json :=
  ((spacedWords text).map word).intersperse (bareNode "Space")

theorem mem_intersperse {α : Type} {separator element : α} {list : List α}
    (member : element ∈ list.intersperse separator) : element = separator ∨ element ∈ list := by
  fun_induction List.intersperse separator list with
  | case1 => cases member
  | case2 only => exact .inr member
  | case3 first rest nonempty ih =>
    rcases List.mem_cons.mp member with rfl | later
    · exact .inr List.mem_cons_self
    · rcases List.mem_cons.mp later with rfl | last
      · exact .inl rfl
      · exact (ih last).imp_right (List.mem_cons_of_mem first)

/-- A text becomes spaces and its words. -/
theorem mem_textInlines {text : String} {inline : Json} (member : inline ∈ textInlines text) :
    inline = bareNode "Space" ∨ ∃ written ∈ spacedWords text, inline = word written :=
  (mem_intersperse member).imp_right fun inside =>
    let ⟨written, known, same⟩ := List.mem_map.mp inside
    ⟨written, known, same.symm⟩

end Pandoc

end Acronyms
