import Acronyms.Decimal.Shortest

/-!
# Values of YAML

A value is what a node denotes once its scalars are resolved and its aliases are
replaced.  Keys of a mapping are values too, and are kept in the order in which they
are written.  A node with a tag of its own kind is a tagged value, which is neither
a scalar nor a mapping.
-/

set_option autoImplicit false

namespace Acronyms.Yaml

/-- A YAML value. -/
inductive Value where
  | null
  | bool (value : Bool)
  | integer (value : Int)
  | double (value : Float)
  | string (value : String)
  | sequence (items : List Value)
  | mapping (pairs : List (Value × Value))
  | tagged (tag : String) (value : Value)
  deriving Repr, Inhabited

/-- The pairs of a mapping in the order in which they are written. -/
abbrev Value.Pairs := List (Value × Value)

namespace Value

/-! ## Equality of keys -/

/-- Equality of doubles as keys: not-a-number equals itself, and the zeros are equal. -/
def sameDouble (left right : Float) : Bool := left == right || (left.isNaN && right.isNaN)

mutual

/-- Whether two values are the same key.  The order of the pairs of a mapping does not
matter. -/
def same : Value → Value → Bool
  | .null, .null => true
  | .bool left, .bool right => left == right
  | .integer left, .integer right => left == right
  | .double left, .double right => sameDouble left right
  | .string left, .string right => left == right
  | .sequence left, .sequence right => sameItems left right
  | .mapping left, .mapping right => left.length == right.length && samePairs left right
  | .tagged leftTag left, .tagged rightTag right => leftTag == rightTag && same left right
  | _, _ => false

/-- Whether two lists hold the same values in the same order. -/
def sameItems : List Value → List Value → Bool
  | [], [] => true
  | left :: leftRest, right :: rightRest => same left right && sameItems leftRest rightRest
  | _, _ => false

/-- Whether every pair of a list is found in another. -/
def samePairs : List (Value × Value) → List (Value × Value) → Bool
  | [], _ => true
  | (key, value) :: rest, right =>
    (right.any fun other => same key other.1 && same value other.2) && samePairs rest right

end

/-- Whether a key stands among the keys of a mapping. -/
def hasKey (pairs : Pairs) (key : Value) : Bool :=
  pairs.any fun pair => same key pair.1

/-! ## Looking inside -/

def withoutTags : Value → Value
  | .tagged _ value => withoutTags value
  | value => value

/-- The value that a mapping, tagged or not, gives a string. -/
def member? (value : Value) (name : String) : Option Value :=
  match value.withoutTags with
  | .mapping pairs => (pairs.find? fun pair => same (.string name) pair.1).map (·.2)
  | _ => none

/-! ## The text of scalars -/

/-- Doubles are positional between `1e-5` and `1e16`, and an exponent has no plus
sign. -/
def doubleLayout : Decimal.Layout := ⟨-5, 16, false⟩

def doubleText (value : Float) : String :=
  if value.isNaN then ".nan"
  else if value.isInf then if value < 0 then "-.inf" else ".inf"
  else Decimal.spell doubleLayout (Decimal.ofFloat value)

/-- The text of a string, a Boolean or a number. -/
def scalarText? : Value → Option String
  | .string value => some value
  | .bool value => some (if value then "true" else "false")
  | .integer value => some (toString value)
  | .double value => some (doubleText value)
  | _ => none

end Value

end Acronyms.Yaml
