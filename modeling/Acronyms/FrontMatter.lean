import Acronyms.Definitions

/-!
# Front matter

A text may begin with front matter: a line `---`, lines of YAML, and a line `---` or
`...`.  The rest is its body.  Without a complete block the whole text is the body.
Splitting loses nothing: the two delimiter lines, the YAML between them and the body
make up the text.
-/

set_option autoImplicit false

namespace Acronyms

/-- A text split into its front matter and its body. -/
structure FrontMatter where
  /-- The lines between the delimiters, if there are any delimiters. -/
  yaml : Option String
  body : String
  deriving DecidableEq, Repr

namespace FrontMatter

/-! ## Splitting -/

/-- The lines of a text, each with the line feed that ends it. -/
def linesOf : List Char → List (List Char)
  | [] => []
  | character :: rest =>
    if character = '\n' then ['\n'] :: linesOf rest
    else
      match linesOf rest with
      | [] => [[character]]
      | line :: lines => (character :: line) :: lines

/-- A line without the line feeds and carriage returns at its end. -/
def trimLineEnd (line : List Char) : List Char :=
  (line.reverse.dropWhile fun character => character == '\n' || character == '\r').reverse

def isClosing (line : List Char) : Bool :=
  trimLineEnd line == ['-', '-', '-'] || trimLineEnd line == ['.', '.', '.']

def afterOpening? : List Char → Option (List Char)
  | '-' :: '-' :: '-' :: '\n' :: rest => some rest
  | '-' :: '-' :: '-' :: '\r' :: '\n' :: rest => some rest
  | _ => none

/-- The lines before the first closing line and those after it. -/
def splitAtClosing? : List (List Char) → Option (List (List Char) × List (List Char))
  | [] => none
  | line :: rest =>
    if isClosing line then some ([], rest)
    else (splitAtClosing? rest).map fun (before, after) => (line :: before, after)

def split (text : String) : FrontMatter :=
  match (afterOpening? text.toList).bind fun rest => splitAtClosing? (linesOf rest) with
  | some (before, after) =>
    ⟨some (String.ofList before.flatten), String.ofList after.flatten⟩
  | none => ⟨none, text⟩

/-! ## Definitions -/

def acronymsKey : String := "acronyms"

/-- The glossary of the YAML of front matter. -/
def glossaryOfYaml (yaml : String) : Except LoadError Glossary :=
  match Yaml.valueOfText? yaml with
  | none => .error .yaml
  | some root =>
    match root.member? acronymsKey with
    | some (.mapping pairs) => Definitions.ofPairs pairs
    | some .null => .ok .empty
    | none => .ok .empty
    | some _ => .error .acronymsNotMapping

/-- The glossary that front matter defines; without front matter it is empty. -/
def glossary (front : FrontMatter) : Except LoadError Glossary :=
  match front.yaml with
  | none => .ok .empty
  | some yaml => if Text.isAllBlank yaml then .ok .empty else glossaryOfYaml yaml

end FrontMatter

end Acronyms
