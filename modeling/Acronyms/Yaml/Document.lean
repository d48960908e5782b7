import Acronyms.Yaml.Node
import Acronyms.Yaml.Scalar
import Acronyms.Yaml.Token.Reading

/-!
# Reading a YAML document

A document is read in three steps: its text as tokens, the tokens as a tree, and the
tree as a value.  In the last step scalars are resolved, an alias becomes the value
of the node with its anchor, and the keys of a mapping have to be different.

An alias refers to the last node before it that carries its anchor; inside that node
there is no value to refer to yet, which is an error.  Values are at most 128 sequences
and mappings deep.
-/

set_option autoImplicit false

namespace Acronyms.Yaml

/-- The anchors met so far, the last first: with the value of their node, or without it
while the node is being read. -/
abbrev Anchors := List (String × Option Value)

def maxDepth : Nat := 128

namespace Value

mutual

/-- How many sequences and mappings of a value lie inside each other. -/
def depth : Value → Nat
  | .sequence items => depthOfItems items + 1
  | .mapping pairs => depthOfPairs pairs + 1
  | .tagged _ value => depth value
  | _ => 0

def depthOfItems : List Value → Nat
  | [] => 0
  | item :: rest => max (depth item) (depthOfItems rest)

/-- The greatest depth in a list of pairs. -/
def depthOfPairs : List (Value × Value) → Nat
  | [] => 0
  | (key, value) :: rest => max (max (depth key) (depth value)) (depthOfPairs rest)

end

end Value

/-- The tag of a node, if it is of a kind of its own, without its exclamation mark. -/
def localTag? (properties : Properties) : Option String :=
  properties.tag.bind fun tag =>
    match tag.toList with
    | ['!'] => some "!"
    | '!' :: rest => some (String.ofList rest)
    | _ => none

/-- A value with the tag of its node, if that is of a kind of its own. -/
def withTag (properties : Properties) (value : Value) : Value :=
  match localTag? properties with
  | some tag => .tagged tag value
  | none => value

def Anchors.enter (anchors : Anchors) (properties : Properties) : Anchors :=
  match properties.anchor with
  | some name => (name, none) :: anchors
  | none => anchors

def Anchors.leave (anchors : Anchors) (properties : Properties) (value : Value) : Anchors :=
  match properties.anchor with
  | some name => (name, some value) :: anchors
  | none => anchors

def scalarNodeValue? (properties : Properties) (text : String) (plain : Bool) : Option Value :=
  match localTag? properties with
  | some tag => (scalarValue none text plain).map (.tagged tag)
  | none => scalarValue properties.tag text plain

mutual

/-- The value of a node with so many levels below it allowed, and the anchors after
it. -/
def valueOf? (depth : Nat) (anchors : Anchors) : Node → Option (Value × Anchors)
  | .alias name =>
    match anchors.lookup name with
    | some (some value) => if value.depth ≤ depth then some (value, anchors) else none
    | _ => none
  | .scalar properties text plain =>
    (scalarNodeValue? properties text plain).map fun value =>
      (value, anchors.leave properties value)
  | .sequence properties items =>
    match depth with
    | 0 => none
    | depth + 1 =>
      match valuesOf? depth (anchors.enter properties) items with
      | none => none
      | some (values, after) =>
        let value := withTag properties (.sequence values)
        some (value, after.leave properties value)
  | .mapping properties pairs =>
    match depth with
    | 0 => none
    | depth + 1 =>
      match pairsOf? depth [] (anchors.enter properties) pairs with
      | none => none
      | some (pairs, after) =>
        let value := withTag properties (.mapping pairs)
        some (value, after.leave properties value)

def valuesOf? (depth : Nat) (anchors : Anchors) : List Node → Option (List Value × Anchors)
  | [] => some ([], anchors)
  | item :: rest =>
    match valueOf? depth anchors item with
    | none => none
    | some (value, after) =>
      (valuesOf? depth after rest).map fun (values, anchors) => (value :: values, anchors)

/-- The pairs of a mapping behind those that were read, with different keys. -/
def pairsOf? (depth : Nat) (done : Value.Pairs) (anchors : Anchors) :
    List (Node × Node) → Option (Value.Pairs × Anchors)
  | [] => some (done, anchors)
  | (key, item) :: rest =>
    match valueOf? depth anchors key with
    | none => none
    | some (key, afterKey) =>
      if Value.hasKey done key then none
      else
        match valueOf? depth afterKey item with
        | none => none
        | some (value, after) => pairsOf? depth (done ++ [(key, value)]) after rest

end

/-- The tree of the only document of a text; `some none` if there is no document. -/
def nodeOfText? (text : String) : Option (Option Node) :=
  (tokensOf? text).bind document?

/-- The value of the only document of a text; no document at all is null. -/
def valueOfText? (text : String) : Option Value := do
  match ← nodeOfText? text with
  | none => some .null
  | some root => (valueOf? maxDepth [] root).map (·.1)

/-- The pairs of a text whose only document is a mapping, with or without a tag; no
document at all and a document without any character are the empty mapping. -/
def pairsOfText? (text : String) : Option Value.Pairs := do
  match ← nodeOfText? text with
  | none => some []
  | some (.scalar _ "" true) => some []
  | some (.mapping properties pairs) =>
    match (← valueOf? maxDepth [] (.mapping properties pairs)).1.withoutTags with
    | .mapping pairs => some pairs
    | _ => none
  | some _ => none

end Acronyms.Yaml
