import Acronyms.Document
import Acronyms.Json

/-!
# Nodes of a Pandoc syntax tree

In the JSON form of a Pandoc document a node is an object whose member `t` names
its type and whose member `c` holds its content.  Objects without a type occur as
well (citations, for one); they are records, whose members all count as content.

The words of a document are its `Str` nodes.  Code, math and raw nodes are closed:
nothing in them is a word.  So is the placeholder of the acronym listing, the `Div`
with the identifier `acronyms`.
-/

set_option autoImplicit false

namespace Acronyms.Pandoc

/-! ## Building nodes -/

def node (type : String) (content : Json) : Json :=
  .object [("c", content), ("t", .string type)]

def bareNode (type : String) : Json := .object [("t", .string type)]

def word (text : String) : Json := node "Str" (.string text)

/-- Raw markup of a format, among inlines or among blocks. -/
def rawNode (type format content : String) : Json :=
  node type (.array [.string format, .string content])

def inlineNode : Inline → Json
  | .text content => word content
  | .raw format content => rawNode "RawInline" format content

/-! ## Taking nodes apart -/

def nodeType? (members : Json.Members) : Option String :=
  (members.lookup "t").bind Json.asString?

def content? (members : Json.Members) : Option Json := members.lookup "c"

/-- The attributes of a node: the first item of its content. -/
def attributes? (members : Json.Members) : Option Json :=
  (content? members).bind fun content => content.item? 0

/-- The identifier of a node: the first of its attributes. -/
def identifier? (members : Json.Members) : Option String :=
  (attributes? members).bind fun attributes => (attributes.item? 0).bind Json.asString?

def listingIdentifier : String := "acronyms"

/-- Whether a node is the placeholder of the acronym listing. -/
def isListing (members : Json.Members) : Bool :=
  nodeType? members == some "Div" && identifier? members == some listingIdentifier

/-- The node types in which nothing is a word. -/
def closedTypes : List String := ["Code", "CodeBlock", "Math", "RawInline", "RawBlock"]

/-- What an object is to a walk over the words. -/
inductive NodeKind where
  /-- A word with its text. -/
  | word (text : String)
  /-- A node in which nothing is a word. -/
  | closed
  /-- A node whose content may hold words. -/
  | element
  /-- An object without a type, whose members may hold words. -/
  | record
  deriving DecidableEq, Repr

/-- The text of a `Str` node. -/
def wordText? (members : Json.Members) : Option String :=
  if nodeType? members = some "Str" then (content? members).bind Json.asString? else none

def kindOf (members : Json.Members) : NodeKind :=
  match wordText? members with
  | some text => .word text
  | none =>
    match nodeType? members with
    | none => .record
    | some type => if closedTypes.contains type || isListing members then .closed else .element

end Acronyms.Pandoc
