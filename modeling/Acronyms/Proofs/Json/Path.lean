import Acronyms.Json

/-!
# Places in a JSON value

A place in a JSON value is a path: the index of an item or of a member at each step,
from the root down (`follow?`).  A value is determined by its outline, which says
everything about it but what its children are, and by its children
(`eq_of_outline_of_children`).  Whatever holds of a value as soon as it holds of its
children holds of every value (`induction_on_children`).
-/

set_option autoImplicit false

namespace Acronyms.Json

/-! ## Children -/

/-- The values directly inside a value: the items of an array, or the values of the
members of an object. -/
def children : Json → List Json
  | .array items => items
  | .object members => members.map Prod.snd
  | _ => []

/-- A value with every child blotted out: its shape, its own text or number, and the
names of its members. -/
def outline : Json → Json
  | .array items => .array (items.map fun _ => .null)
  | .object members => .object (members.map fun (name, _) => (name, .null))
  | value => value

/-- The outline of an object is a matter of the names of its members. -/
theorem outline_object (members : Members) :
    (object members).outline =
      .object ((members.map Prod.fst).map fun name => (name, .null)) := by
  rw [List.map_map]
  rfl

theorem sizeOf_lt_of_mem_children {value child : Json} (member : child ∈ value.children) :
    sizeOf child < sizeOf value := by
  cases value with
  | array items =>
    have smaller : sizeOf child < sizeOf items := List.sizeOf_lt_of_mem member
    simp only [array.sizeOf_spec]
    omega
  | object members =>
    obtain ⟨⟨name, _⟩, inside, rfl⟩ := List.mem_map.mp member
    have smaller := List.sizeOf_lt_of_mem inside
    simp only [object.sizeOf_spec, Prod.mk.sizeOf_spec] at smaller ⊢
    omega
  | _ => cases member

/-- Induction on a value, child by child. -/
theorem induction_on_children {property : Json → Prop}
    (step : ∀ value, (∀ child ∈ value.children, property child) → property value) (value : Json) :
    property value :=
  step value fun child _ => induction_on_children step child
termination_by value
decreasing_by exact sizeOf_lt_of_mem_children ‹_›

theorem members_eq_of_map {members others : Members}
    (names : members.map Prod.fst = others.map Prod.fst)
    (values : members.map Prod.snd = others.map Prod.snd) : members = others := by
  rw [← List.zip_unzip members, ← List.zip_unzip others, List.unzip_eq_map, List.unzip_eq_map,
    names, values]

/-- A value is its outline and its children. -/
theorem eq_of_outline_of_children {value other : Json} (shape : value.outline = other.outline)
    (inside : value.children = other.children) : value = other := by
  cases value <;> cases other <;> try cases shape
  case array.array => exact congrArg array inside
  case object.object members others =>
    have names : members.map Prod.fst = others.map Prod.fst := by
      have blotted := congrArg (List.map Prod.fst) (object.inj shape)
      simpa only [List.map_map, Function.comp_def] using blotted
    exact congrArg object (members_eq_of_map names inside)
  all_goals rfl

/-! ## Paths -/

/-- The value at a path. -/
def follow? : Json → List Nat → Option Json
  | value, [] => some value
  | value, index :: path => value.children[index]?.bind fun child => follow? child path

theorem follow?_append (value : Json) (path below : List Nat) :
    value.follow? (path ++ below) =
      (value.follow? path).bind fun inside => inside.follow? below := by
  induction path generalizing value with
  | nil => rfl
  | cons index path ih =>
    cases child : value.children[index]? with
    | none => simp [follow?, child]
    | some inside => simp [follow?, child, ih]

end Acronyms.Json
