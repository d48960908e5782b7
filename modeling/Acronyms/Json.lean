import Acronyms.SortedMap

/-!
# JSON values

A JSON value is a tree.  The members of an object are kept in key order, which is
the order in which they are written and in which a document walk visits them.  A
number is an integer where it fits 64 bits, and a double otherwise.
-/

set_option autoImplicit false

namespace Acronyms

/-- A JSON value. -/
inductive Json where
  | null
  | bool (value : Bool)
  /-- A number that is written without a point. -/
  | integer (value : Int)
  /-- Any other number. -/
  | double (value : Float)
  | string (value : String)
  | array (items : List Json)
  /-- The members in key order. -/
  | object (members : List (String × Json))
  deriving Repr, BEq, Inhabited

/-- The members of an object. -/
abbrev Json.Members := List (String × Json)

namespace Json

/-! ## Looking inside -/

def asString? : Json → Option String
  | string value => some value
  | _ => none

def asBool? : Json → Option Bool
  | bool value => some value
  | _ => none

def asArray? : Json → Option (List Json)
  | array items => some items
  | _ => none

def asObject? : Json → Option Members
  | object members => some members
  | _ => none

/-- The member of a name, of a value that is an object. -/
def member? (value : Json) (name : String) : Option Json :=
  value.asObject?.bind fun members => members.lookup name

/-- The item of an index, of a value that is an array. -/
def item? (value : Json) (index : Nat) : Option Json :=
  value.asArray?.bind fun items => items[index]?

end Json

end Acronyms
