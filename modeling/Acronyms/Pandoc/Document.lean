import Acronyms.Pandoc.Node

/-!
# Pandoc documents

A Pandoc document is an object with an array of blocks, metadata that may be
absent, and further members that nobody here looks at.  Its words are the `Str`
nodes under its blocks, in the order of a walk that visits arrays by index and
records by key.

There are two walks, one that lists the words (`wordsOf`) and one that replaces them
by position (`replaceFrom`).  Both follow the same classification of nodes, so the
second numbers the words as the first lists them.
-/

set_option autoImplicit false

namespace Acronyms

/-- A Pandoc document. -/
structure PandocDocument where
  blocks : List Json
  metadata : Option Json.Members := none
  others : Json.Members := []

namespace Pandoc

/-! ## Listing the words -/

mutual

/-- The words of a value in reading order. -/
def wordsOf : Json → List String
  | .array items => wordsOfItems items
  | .object members =>
    match kindOf members with
    | .word text => [text]
    | .closed => []
    | .element => wordsOfContent members
    | .record => wordsOfMembers members
  | _ => []

def wordsOfItems : List Json → List String
  | [] => []
  | item :: rest => wordsOf item ++ wordsOfItems rest

/-- The words of the content of a node. -/
def wordsOfContent : List (String × Json) → List String
  | [] => []
  | (name, value) :: rest => if name = "c" then wordsOf value else wordsOfContent rest

/-- The words of all members of a record. -/
def wordsOfMembers : List (String × Json) → List String
  | [] => []
  | (_, value) :: rest => wordsOf value ++ wordsOfMembers rest

end

/-! ## Replacing the words -/

/-- The node in place of the word at a position, and the position after it. -/
def replaceWord (replacements : Replacements) (position : Nat) (members : Json.Members) :
    Json × Nat :=
  (((replacements.get? position).map inlineNode).getD (.object members), position + 1)

mutual

/-- A value with its words replaced, the first of which has the given position, and
the position after them. -/
def replaceFrom (replacements : Replacements) (position : Nat) : Json → Json × Nat
  | .array items =>
    let (items, after) := replaceItems replacements position items
    (.array items, after)
  | .object members =>
    match kindOf members with
    | .word _ => replaceWord replacements position members
    | .closed => (.object members, position)
    | .element =>
      let (members, after) := replaceContent replacements position members
      (.object members, after)
    | .record =>
      let (members, after) := replaceMembers replacements position members
      (.object members, after)
  | value => (value, position)

/-- A list of values with their words replaced. -/
def replaceItems (replacements : Replacements) (position : Nat) : List Json → List Json × Nat
  | [] => ([], position)
  | item :: rest =>
    let (item, between) := replaceFrom replacements position item
    let (rest, after) := replaceItems replacements between rest
    (item :: rest, after)

/-- The members of a node with the words of its content replaced. -/
def replaceContent (replacements : Replacements) (position : Nat) :
    List (String × Json) → List (String × Json) × Nat
  | [] => ([], position)
  | (name, value) :: rest =>
    if name = "c" then
      let (value, after) := replaceFrom replacements position value
      ((name, value) :: rest, after)
    else
      let (rest, after) := replaceContent replacements position rest
      ((name, value) :: rest, after)

/-- The members of a record with their words replaced. -/
def replaceMembers (replacements : Replacements) (position : Nat) :
    List (String × Json) → List (String × Json) × Nat
  | [] => ([], position)
  | (name, value) :: rest =>
    let (value, between) := replaceFrom replacements position value
    let (rest, after) := replaceMembers replacements between rest
    ((name, value) :: rest, after)

end

/-! ## Documents as JSON -/

/-- Why a JSON value is no document. -/
inductive DocumentFault where
  | notAnObject
  | missingBlocks
  | metadataNotAnObject
  deriving DecidableEq, Repr

def DocumentFault.reason : DocumentFault → String
  | notAnObject => "root is not an object"
  | missingBlocks => "missing 'blocks' array"
  | metadataNotAnObject => "'meta' is not an object"

end Pandoc

namespace PandocDocument

open Pandoc

def words (document : PandocDocument) : List String := wordsOfItems document.blocks

instance : Document PandocDocument where
  tokens := words
  apply replacements document :=
    { document with blocks := (replaceItems replacements 0 document.blocks).1 }

/-- The members of an object that are neither blocks nor metadata. -/
def otherMembers (members : Json.Members) : Json.Members :=
  eraseEntry "meta" (eraseEntry "blocks" members)

def ofJson (value : Json) : Except DocumentFault PandocDocument :=
  match value.asObject? with
  | none => .error .notAnObject
  | some members =>
    match (members.lookup "blocks").bind Json.asArray? with
    | none => .error .missingBlocks
    | some blocks =>
      match members.lookup "meta" with
      | none => .ok { blocks, others := otherMembers members }
      | some (.object metadata) =>
        .ok { blocks, metadata := some metadata, others := otherMembers members }
      | some _ => .error .metadataNotAnObject

def toMembers (document : PandocDocument) : Json.Members :=
  let members := insertEntry "blocks" (.array document.blocks) document.others
  match document.metadata with
  | none => members
  | some metadata => insertEntry "meta" (.object metadata) members

def toJson (document : PandocDocument) : Json := .object document.toMembers

end PandocDocument

end Acronyms
