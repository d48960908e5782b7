import Acronyms.Toml.Scalar

/-!
# Reading a TOML document

A document is read as statements, one a line: headers and assignments.  Its table is
what the statements make of the empty table, one after the other, where an assignment
counts below the last header.  Arrays and inline tables may span lines, may hold
comments, and may end with a comma.  At most 80 of them lie inside each other.
-/

set_option autoImplicit false

namespace Acronyms.Toml

/-! ## Keys -/

/-- Whether a character may stand in a key without quotes. -/
def isBareChar (character : Char) : Bool :=
  character.isAlphanum || character == '-' || character == '_'

def keyPart? (characters : List Char) : Option (String × List Char) :=
  match characters.takeWhile isBareChar with
  | [] => quotedLine? characters
  | bare => some (String.ofList bare, characters.dropWhile isBareChar)

/-- Read a key with the blanks around it: the parts before its last, and its last. -/
def key? : Nat → List Char → Option (List String × String × List Char)
  | 0, _ => none
  | fuel + 1, characters =>
    match keyPart? (skipSpace characters) with
    | none => none
    | some (part, afterPart) =>
      match skipSpace afterPart with
      | '.' :: rest => (key? fuel rest).map fun (path, last, rest) => (part :: path, last, rest)
      | rest => some ([], part, rest)

/-! ## Between values -/

/-- What follows the blanks, line breaks and comments at the front. -/
def skipTrivia (inComment : Bool) : List Char → List Char
  | [] => []
  | '\n' :: rest => skipTrivia false rest
  | '\r' :: '\n' :: rest => skipTrivia false rest
  | character :: rest =>
    if inComment then
      if isPrintable character then skipTrivia true rest else character :: rest
    else if isSpace character then skipTrivia false rest
    else if character = '#' then skipTrivia true rest
    else character :: rest

/-- What follows the end of a line, before which only blanks and a comment may stand. -/
def afterLine? (characters : List Char) : Option (List Char) :=
  let rest := match skipSpace characters with
    | '#' :: comment => comment.dropWhile isPrintable
    | rest => rest
  if rest = [] then some [] else (lineBreak? rest).map (·.2)

/-! ## Values -/

/-- The greatest number of arrays and inline tables inside each other. -/
def maxDepth : Nat := 80

mutual

/-- Read a value, with so many more levels of nesting allowed. -/
def value? : Nat → Nat → List Char → Option (Value × List Char)
  | 0, _, _ => none
  | fuel + 1, depth, characters =>
    match characters with
    | '[' :: rest =>
      match depth with
      | 0 => none
      | depth + 1 =>
        (items? fuel depth (skipTrivia false rest)).map fun (items, rest) => (.array items, rest)
    | '{' :: rest =>
      match depth with
      | 0 => none
      | depth + 1 =>
        (members? fuel depth [] (skipTrivia false rest)).map fun (members, rest) =>
          (.table .inline members, rest)
    | '"' :: _ => (quoted? characters).map fun (text, rest) => (.string text, rest)
    | '\'' :: _ => (quoted? characters).map fun (text, rest) => (.string text, rest)
    | _ => scalar? characters

/-- Read the items of an array up to and including its closing bracket. -/
def items? : Nat → Nat → List Char → Option (List Value × List Char)
  | 0, _, _ => none
  | _ + 1, _, ']' :: rest => some ([], rest)
  | fuel + 1, depth, characters =>
    match value? fuel depth characters with
    | none => none
    | some (item, after) =>
      match skipTrivia false after with
      | ',' :: rest =>
        (items? fuel depth (skipTrivia false rest)).map fun (items, rest) => (item :: items, rest)
      | ']' :: rest => some ([item], rest)
      | _ => none

/-- Read the assignments of an inline table up to and including its closing brace, and
carry each out after those before. -/
def members? : Nat → Nat → Members → List Char → Option (Members × List Char)
  | 0, _, _, _ => none
  | _ + 1, _, done, '}' :: rest => some (done, rest)
  | fuel + 1, depth, done, characters =>
    match assignment? fuel depth characters with
    | none => none
    | some (path, key, value, after) =>
      match done.assign? path key value with
      | none => none
      | some members =>
        match skipTrivia false after with
        | ',' :: rest => members? fuel depth members (skipTrivia false rest)
        | '}' :: rest => some (members, rest)
        | _ => none

/-- Read a key, an equals sign and a value. -/
def assignment? : Nat → Nat → List Char →
    Option (List String × String × Value × List Char)
  | 0, _, _ => none
  | fuel + 1, depth, characters =>
    match key? fuel characters with
    | some (path, key, '=' :: rest) =>
      (value? fuel depth (skipSpace rest)).map fun (value, rest) => (path, key, value, rest)
    | _ => none

end

/-! ## Statements -/

/-- A statement of a document. -/
inductive Statement where
  /-- A header in single brackets. -/
  | header (path : List String) (key : String)
  /-- A header in double brackets. -/
  | element (path : List String) (key : String)
  /-- An assignment. -/
  | assignment (path : List String) (key : String) (value : Value)
  deriving Repr

/-- Read a statement whose first character is not blank. -/
def statement? (characters : List Char) : Option (Statement × List Char) :=
  let fuel := 4 * characters.length + 4
  match characters with
  | '[' :: '[' :: rest =>
    match key? fuel rest with
    | some (path, key, ']' :: ']' :: rest) => some (.element path key, rest)
    | _ => none
  | '[' :: rest =>
    match key? fuel rest with
    | some (path, key, ']' :: rest) => some (.header path key, rest)
    | _ => none
  | _ =>
    (assignment? fuel maxDepth characters).map fun (path, key, value, rest) =>
      (.assignment path key value, rest)

/-- Read statements up to the end; every statement takes a character. -/
def statements? : Nat → List Char → Option (List Statement)
  | 0, _ => none
  | fuel + 1, characters =>
    match skipTrivia false characters with
    | [] => some []
    | rest =>
      match statement? rest with
      | none => none
      | some (statement, after) =>
        match afterLine? after with
        | none => none
        | some rest => (statements? fuel rest).map (statement :: ·)

/-- What statements make of a table, below a header. -/
def carryOut? (members : Members) (header : List String) : List Statement → Option Members
  | [] => some members
  | .header path key :: rest =>
    match members.openTable? path key with
    | some members => carryOut? members (path ++ [key]) rest
    | none => none
  | .element path key :: rest =>
    match members.openElement? path key with
    | some members => carryOut? members (path ++ [key]) rest
    | none => none
  | .assignment path key value :: rest =>
    match members.changeAt? false (fun _ inner => Members.assign? inner path key value) header
        .explicit with
    | some members => carryOut? members header rest
    | none => none

/-- The characters behind a byte order mark, if there is one. -/
def skipMark : List Char → List Char
  | '\uFEFF' :: rest => rest
  | characters => characters

def ofText? (text : String) : Option Members :=
  let characters := skipMark text.toList
  (statements? (characters.length + 1) characters).bind (carryOut? [] [])

end Acronyms.Toml
