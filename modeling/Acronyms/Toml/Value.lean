/-!
# Values of TOML

A TOML text describes one table, piece by piece: a header opens a table, and the lines
below it assign values to keys, which may be dotted.  Whether a table may still be added
to depends on what brought it about, so every table keeps that as its kind.

* An *explicit* table has its own header, or is the whole text.  It is added to under
  that header only.
* An *implicit* table was merely passed by a header.  It may get a header later.
* A *dotted* table was brought about by a dotted key, and is added to by dotted keys.
* An *inline* table is complete.

A key is assigned once.  A list of tables under headers of their own, an array of tables,
is added to at its last table; an array that is written as a value is complete.
-/

set_option autoImplicit false

namespace Acronyms.Toml

/-- What brought a table about. -/
inductive TableKind where
  | explicit
  | implicit
  | dotted
  | inline
  deriving DecidableEq, Repr

/-- A TOML value. -/
inductive Value where
  | string (text : String)
  | integer (value : Int)
  | float (value : Float)
  | boolean (value : Bool)
  /-- A date, a time, or both. -/
  | moment
  | array (items : List Value)
  | table (kind : TableKind) (members : List (String × Value))
  /-- An array of tables: the complete ones, and the members of the last. -/
  | tables (complete : List Value) (last : List (String × Value))
  deriving Repr, Inhabited

/-- The members of a table in the order in which their keys appear. -/
abbrev Members := List (String × Value)

namespace Members

/-- Give a key that a table has another value. -/
def replace (members : Members) (key : String) (value : Value) : Members :=
  members.map fun member => if member.1 = key then (key, value) else member

/-! ## Following a path -/

/-- Change the table that a path leads to from another table.  What a path passes has
to be open to it: a dotted key passes no explicit table, and nothing passes an inline
table or an array that is a value.  Tables that are missing are brought about. -/
def changeAt? (dotted : Bool) (change : TableKind → Members → Option Members) :
    List String → TableKind → Members → Option Members
  | [], kind, members => change kind members
  | key :: path, _, members =>
    match members.lookup key with
    | none =>
      let kind : TableKind := if dotted then .dotted else .implicit
      (changeAt? dotted change path kind []).map fun inner =>
        members ++ [(key, .table kind inner)]
    | some (.table kind inner) =>
      if kind = .inline ∨ (dotted ∧ kind = .explicit) then none
      else (changeAt? dotted change path kind inner).map fun inner =>
        members.replace key (.table kind inner)
    | some (.tables complete last) =>
      (changeAt? dotted change path .explicit last).map fun last =>
        members.replace key (.tables complete last)
    | some _ => none

/-! ## Statements -/

/-- Assign a value to a key.  The keys before its last dot lead to a dotted table. -/
def assign? (members : Members) (path : List String) (key : String) (value : Value) :
    Option Members :=
  members.changeAt? true (fun kind inner =>
    if (path ≠ [] ∧ kind ≠ .dotted) ∨ (inner.lookup key).isSome then none
    else some (inner ++ [(key, value)])) path .explicit

def openTable? (members : Members) (path : List String) (key : String) : Option Members :=
  members.changeAt? false (fun _ inner =>
    match inner.lookup key with
    | none => some (inner ++ [(key, .table .explicit [])])
    | some (.table .implicit found) => some (inner.replace key (.table .explicit found))
    | some _ => none) path .explicit

/-- Open another table of an array of tables. -/
def openElement? (members : Members) (path : List String) (key : String) : Option Members :=
  members.changeAt? false (fun _ inner =>
    match inner.lookup key with
    | none => some (inner ++ [(key, .tables [] [])])
    | some (.tables complete last) =>
      some (inner.replace key (.tables (complete ++ [.table .explicit last]) []))
    | some _ => none) path .explicit

end Members

end Acronyms.Toml
