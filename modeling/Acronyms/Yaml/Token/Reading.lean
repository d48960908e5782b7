import Acronyms.Yaml.Token
import Acronyms.Yaml.Token.Scalars

/-!
# Reading a YAML text as tokens

Two things make more of the tokens than the text shows.  Outside of flow collections
a token further to the right than the block it stands in opens a new block, and one
further to the left closes blocks.  And whether a node is a key is only known at the
colon behind it, so the place of a node that may be a key is remembered; at the colon
the key mark, and the start of a mapping if there is need of one, are put in front of
it.

A node may be a key as long as the colon comes on the same line and within 1024
characters.  A node that stands exactly at the indentation of its block must be one.
-/

set_option autoImplicit false

namespace Acronyms.Yaml

/-- A node that may turn out to be a key. -/
structure PossibleKey where
  /-- The number of tokens before the node. -/
  tokensBefore : Nat
  /-- Whether the node must be a key. -/
  required : Bool
  index : Nat
  line : Nat
  column : Nat

/-- What has been read of a text. -/
structure TokenReader where
  cursor : Cursor
  tokens : Array Token := #[]
  /-- The column of the innermost block, or `-1`. -/
  indentation : Int := -1
  /-- The columns of the blocks around it. -/
  outerIndentations : List Int := []
  /-- Whether the next node may be a key. -/
  keyAllowed : Bool := true
  /-- The node that may be a key in the innermost flow collection, or outside of all. -/
  possibleKey : Option PossibleKey := none
  /-- The same for the flow collections around it, and last for outside of all. -/
  outerKeys : List (Option PossibleKey) := []

namespace TokenReader

/-- Whether the reader is inside a flow collection. -/
def inFlow (reader : TokenReader) : Bool := !reader.outerKeys.isEmpty

def push (reader : TokenReader) (token : Token) : TokenReader :=
  { reader with tokens := reader.tokens.push token }

/-- Put a token behind the given number of tokens. -/
def insertAt (reader : TokenReader) (position : Nat) (token : Token) : TokenReader :=
  { reader with tokens :=
      reader.tokens.extract 0 position ++ #[token] ++
        reader.tokens.extract position reader.tokens.size }

def moveTo (reader : TokenReader) (cursor : Cursor) : TokenReader := { reader with cursor }

/-! ## Possible keys -/

/-- Whether a possible key has been left too far behind. -/
def isStale (cursor : Cursor) (key : PossibleKey) : Bool :=
  key.line < cursor.line || key.index + 1024 < cursor.index

/-- Forget a possible key that is too far behind; a required one is an error. -/
def freshKey? (cursor : Cursor) (key : Option PossibleKey) : Option (Option PossibleKey) :=
  match key with
  | none => some none
  | some key =>
    if isStale cursor key then if key.required then none else some none else some (some key)

/-- Forget all possible keys that are too far behind. -/
def dropStaleKeys? (reader : TokenReader) : Option TokenReader := do
  let possibleKey ← freshKey? reader.cursor reader.possibleKey
  let outerKeys ← reader.outerKeys.mapM (freshKey? reader.cursor)
  return { reader with possibleKey, outerKeys }

/-- Forget the possible key; a required one is an error. -/
def dropKey? (reader : TokenReader) : Option TokenReader :=
  if reader.possibleKey.any PossibleKey.required then none
  else some { reader with possibleKey := none }

/-- Remember the next node as a possible key, where a key is allowed. -/
def noteKey? (reader : TokenReader) : Option TokenReader :=
  if reader.keyAllowed then do
    let cleared ← reader.dropKey?
    let cursor := reader.cursor
    let required := !reader.inFlow && reader.indentation == (cursor.column : Int)
    return { cleared with
      possibleKey := some
        ⟨reader.tokens.size, required, cursor.index, cursor.line, cursor.column⟩ }
  else some reader

/-! ## Indentation -/

/-- Open a block at a column, if it is further to the right than the innermost one; its
start goes behind the given number of tokens. -/
def openBlock (reader : TokenReader) (column : Nat) (position : Nat) (start : Token) :
    TokenReader :=
  if !reader.inFlow && reader.indentation < (column : Int) then
    { reader.insertAt position start with
      indentation := column
      outerIndentations := reader.indentation :: reader.outerIndentations }
  else reader

/-- Close the blocks that are further to the right than a column. -/
def closeBlocks (column : Int) : List Int → TokenReader → TokenReader
  | [], reader => reader
  | outer :: rest, reader =>
    if column < reader.indentation then
      closeBlocks column rest
        { reader.push .blockEnd with indentation := outer, outerIndentations := rest }
    else reader

/-- Close the blocks that end before a column; inside flow collections there are none. -/
def closeTo (reader : TokenReader) (column : Int) : TokenReader :=
  if reader.inFlow then reader else closeBlocks column reader.outerIndentations reader

/-! ## Blanks and comments -/

/-- Move to the next token, over blanks, comments and line breaks.  A tab is no blank
where a key may stand. -/
def skipToToken : Nat → TokenReader → TokenReader
  | 0, reader => reader
  | fuel + 1, reader =>
    let tabs := reader.inFlow || !reader.keyAllowed
    let afterBlanks := reader.cursor.skipWhile fun character =>
      character == ' ' || (tabs && character == '\t')
    let afterComment :=
      if afterBlanks.head? == some '#' then afterBlanks.skipWhile (!isBreak ·) else afterBlanks
    if afterComment.head?.any isBreak then
      skipToToken fuel
        { reader with
          cursor := afterComment.skipLine.1
          keyAllowed := reader.keyAllowed || !reader.inFlow }
    else reader.moveTo afterComment

/-! ## Marks -/

def openFlow? (reader : TokenReader) (start : Token) : Option TokenReader := do
  let noted ← reader.noteKey?
  return { noted.push start with
    cursor := reader.cursor.skip 1, keyAllowed := true, possibleKey := none
    outerKeys := noted.possibleKey :: noted.outerKeys }

def closeFlow? (reader : TokenReader) (stop : Token) : Option TokenReader := do
  let cleared ← reader.dropKey?
  let (possibleKey, outerKeys) := match cleared.outerKeys with
    | [] => (none, [])
    | key :: rest => (key, rest)
  return { cleared.push stop with
    cursor := reader.cursor.skip 1, keyAllowed := false, possibleKey, outerKeys }

def flowEntry? (reader : TokenReader) : Option TokenReader := do
  let cleared ← reader.dropKey?
  return { cleared.push .flowEntry with cursor := reader.cursor.skip 1, keyAllowed := true }

def blockEntry? (reader : TokenReader) : Option TokenReader :=
  if !reader.inFlow && !reader.keyAllowed then none
  else do
    let opened := reader.openBlock reader.cursor.column reader.tokens.size .blockSequenceStart
    let cleared ← opened.dropKey?
    return { cleared.push .blockEntry with cursor := reader.cursor.skip 1, keyAllowed := true }

def explicitKey? (reader : TokenReader) : Option TokenReader :=
  if !reader.inFlow && !reader.keyAllowed then none
  else do
    let opened := reader.openBlock reader.cursor.column reader.tokens.size .blockMappingStart
    let cleared ← opened.dropKey?
    return { cleared.push .key with
      cursor := reader.cursor.skip 1, keyAllowed := !reader.inFlow }

/-- A colon before a value: the possible key becomes a key; without one the key is an
explicit one or empty. -/
def value? (reader : TokenReader) : Option TokenReader :=
  let finish (marked : TokenReader) (keyAllowed : Bool) : TokenReader :=
    { marked.push .value with cursor := reader.cursor.skip 1, keyAllowed }
  match reader.possibleKey with
  | some key =>
    let keyed := { reader.insertAt key.tokensBefore .key with possibleKey := none }
    some (finish (keyed.openBlock key.column key.tokensBefore .blockMappingStart) false)
  | none =>
    if reader.inFlow then some (finish reader false)
    else if reader.keyAllowed then
      some (finish (reader.openBlock reader.cursor.column reader.tokens.size .blockMappingStart)
        true)
    else none

/-- A line that begins or ends a document. -/
def documentMarker? (reader : TokenReader) (marker : Token) : Option TokenReader := do
  let cleared ← (reader.closeTo (-1)).dropKey?
  return { cleared.push marker with cursor := reader.cursor.skip 3, keyAllowed := false }

/-! ## Anchors, tags and directives -/

/-- The characters that may follow the name of an anchor. -/
def endsAnchor : List Char → Bool
  | [] => true
  | character :: _ =>
    isBlank character || isBreak character || "?:,]\x7d%@`".toList.contains character

def anchor? (reader : TokenReader) (make : String → Token) : Option TokenReader := do
  let noted ← reader.noteKey?
  let name := (reader.cursor.rest.drop 1).takeWhile isNameChar
  let cursor := reader.cursor.skip (name.length + 1)
  if name = [] ∨ !endsAnchor cursor.rest then none
  else
    return { noted.push (make (String.ofList name)) with cursor, keyAllowed := false }

/-- Whether a character may stand in a tag; some may only in an enclosed one. -/
def isTagChar (enclosed : Bool) (character : Char) : Bool :=
  isNameChar character || ";/?:@&=+$.%!~*'()".toList.contains character ||
    (enclosed && ",[]".toList.contains character)

/-- The octets that percent signs with two hexadecimal digits stand for. -/
def escapedOctets? : Nat → List Char → Option (List UInt8)
  | 0, _ => none
  | _ + 1, [] => some []
  | fuel + 1, '%' :: first :: second :: rest => do
    let high ← hexDigit? first
    let low ← hexDigit? second
    return UInt8.ofNat (16 * high + low) :: (← escapedOctets? fuel rest)
  | fuel + 1, character :: rest =>
    if character == '%' then none
    else do return character.toString.toUTF8.toList ++ (← escapedOctets? fuel rest)

/-- The text of the characters of a tag, with its escapes resolved. -/
def tagText? (characters : List Char) : Option String :=
  if characters.contains '%' then
    (escapedOctets? (characters.length + 1) characters).bind fun octets =>
      String.fromUTF8? ⟨octets.toArray⟩
  else some (String.ofList characters)

/-- Read a tag handle: an exclamation mark, or a name between two. -/
def tagHandle? : List Char → Option (List Char × List Char)
  | '!' :: rest =>
    match rest.dropWhile isNameChar with
    | '!' :: after => some ('!' :: rest.takeWhile isNameChar ++ ['!'], after)
    | after => some ('!' :: rest.takeWhile isNameChar, after)
  | _ => none

/-- Read a tag: its handle, its suffix and what follows. -/
def tagParts? (characters : List Char) : Option (String × String × List Char) :=
  match characters with
  | '!' :: '<' :: rest => do
    let name := rest.takeWhile (isTagChar true)
    match rest.dropWhile (isTagChar true) with
    | '>' :: after => if name = [] then none else return ("", ← tagText? name, after)
    | _ => none
  | _ => do
    let (handle, after) ← tagHandle? characters
    let suffix := after.takeWhile (isTagChar false)
    let rest := after.dropWhile (isTagChar false)
    if 1 < handle.length ∧ handle.getLast? = some '!' then
      if suffix = [] then none
      else return (String.ofList handle, ← tagText? suffix, rest)
    else
      let whole ← tagText? (handle.drop 1 ++ suffix)
      if whole = "" then return ("", "!", rest) else return ("!", whole, rest)

def tag? (reader : TokenReader) : Option TokenReader := do
  let noted ← reader.noteKey?
  let (handle, suffix, rest) ← tagParts? reader.cursor.rest
  let ended := atBlankOrEnd rest || (reader.inFlow && rest.head? == some ',')
  if !ended then none
  else
    return { noted.push (.tag handle suffix) with
      cursor := reader.cursor.skipTo rest, keyAllowed := false }

/-- Read a number of at most nine digits. -/
def versionNumber? (characters : List Char) : Option (Nat × List Char) :=
  let digits := characters.takeWhile Char.isDigit
  if digits = [] ∨ 9 < digits.length then none
  else
    let value := digits.foldl (fun value digit => 10 * value + (digit.toNat - '0'.toNat)) 0
    some (value, characters.dropWhile Char.isDigit)

/-- Read what a directive says, behind its name. -/
def directiveBody? (name : String) (characters : List Char) : Option (Token × List Char) := do
  let body := characters.dropWhile isBlank
  match name with
  | "YAML" =>
    let (major, afterMajor) ← versionNumber? body
    match afterMajor with
    | '.' :: rest =>
      let (minor, after) ← versionNumber? rest
      return (.versionDirective major minor, after)
    | _ => none
  | "TAG" =>
    let (handle, afterHandle) ← tagHandle? body
    if handle ≠ ['!'] ∧ handle.getLast? ≠ some '!' then none
    else if !afterHandle.head?.any isBlank then none
    else
      let expansion := (afterHandle.dropWhile isBlank).takeWhile (isTagChar true)
      let after := (afterHandle.dropWhile isBlank).dropWhile (isTagChar true)
      if expansion = [] ∨ !atBlankOrEnd after then none
      else return (.tagDirective (String.ofList handle) (← tagText? expansion), after)
  | _ => none

/-- A directive, which takes up the rest of its line. -/
def directive? (reader : TokenReader) : Option TokenReader := do
  let cleared ← (reader.closeTo (-1)).dropKey?
  let name := (reader.cursor.rest.drop 1).takeWhile isNameChar
  let afterName := reader.cursor.skip (name.length + 1)
  if name = [] ∨ !atBlankOrEnd afterName.rest then none
  else
    let (token, rest) ← directiveBody? (String.ofList name) afterName.rest
    let blanks := (afterName.skipTo rest).skipWhile isBlank
    let comment := if blanks.head? == some '#' then blanks.skipWhile (!isBreak ·) else blanks
    if !atBreakOrEnd comment.rest then none
    else
      return { cleared.push token with cursor := comment.skipLine.1, keyAllowed := false }

/-! ## Scalars -/

def blockScalar? (reader : TokenReader) (literal : Bool) : Option TokenReader := do
  let cleared ← reader.dropKey?
  let scalar ← Yaml.blockScalar? literal reader.indentation reader.cursor
  return { cleared.push (.scalar (String.ofList scalar.text) false) with
    cursor := scalar.cursor, keyAllowed := true }

def quotedScalar? (reader : TokenReader) (single : Bool) : Option TokenReader := do
  let noted ← reader.noteKey?
  let scalar ← Yaml.quotedScalar? single reader.cursor
  return { noted.push (.scalar (String.ofList scalar.text) false) with
    cursor := scalar.cursor, keyAllowed := false }

/-- A plain scalar; one that ends at a line break allows a key after it. -/
def plainScalar? (reader : TokenReader) : Option TokenReader := do
  let noted ← reader.noteKey?
  let scalar ← Yaml.plainScalar? reader.inFlow reader.indentation reader.cursor
  return { noted.push (.scalar (String.ofList scalar.text) true) with
    cursor := scalar.cursor, keyAllowed := scalar.brokenEnd }

def startsPlain (inFlow : Bool) : List Char → Bool
  | [] => false
  | character :: rest =>
    if character == '-' then !rest.head?.any isBlank
    else if character == '?' || character == ':' then !inFlow && !atBlankOrEnd rest
    else
      !isBlank character && !isBreak character &&
        !(",[]\x7b\x7d#&*!|>'\"%@`".toList.contains character)

/-! ## All tokens -/

/-- Read the next token, which begins at the cursor. -/
def token? (reader : TokenReader) : Option TokenReader :=
  let cursor := reader.cursor
  match cursor.rest with
  | [] => none
  | character :: rest =>
    if cursor.column == 0 && character == '%' then reader.directive?
    else if cursor.atMarker '-' then reader.documentMarker? .documentStart
    else if cursor.atMarker '.' then reader.documentMarker? .documentEnd
    else if character == '[' then reader.openFlow? .flowSequenceStart
    else if character == '\x7b' then reader.openFlow? .flowMappingStart
    else if character == ']' then reader.closeFlow? .flowSequenceEnd
    else if character == '\x7d' then reader.closeFlow? .flowMappingEnd
    else if character == ',' then reader.flowEntry?
    else if character == '-' && atBlankOrEnd rest then reader.blockEntry?
    else if character == '?' && (reader.inFlow || atBlankOrEnd rest) then reader.explicitKey?
    else if character == ':' && (reader.inFlow || atBlankOrEnd rest) then reader.value?
    else if character == '*' then reader.anchor? .alias
    else if character == '&' then reader.anchor? .anchor
    else if character == '!' then reader.tag?
    else if character == '|' && !reader.inFlow then reader.blockScalar? true
    else if character == '>' && !reader.inFlow then reader.blockScalar? false
    else if character == '\'' then reader.quotedScalar? true
    else if character == '"' then reader.quotedScalar? false
    else if startsPlain reader.inFlow cursor.rest then reader.plainScalar?
    else none

/-- Read all tokens; every token takes at least one character. -/
def tokens? : Nat → TokenReader → Option (List Token)
  | 0, _ => none
  | fuel + 1, reader => do
    let atToken := reader.skipToToken (reader.cursor.rest.length + 1)
    let fresh ← atToken.dropStaleKeys?
    let ready := fresh.closeTo fresh.cursor.column
    if ready.cursor.rest.isEmpty then
      let closed ← (ready.closeTo (-1)).dropKey?
      return closed.tokens.toList
    else tokens? fuel (← ready.token?)

end TokenReader

/-- A text without the byte order mark at its start. -/
def dropByteOrderMark : List Char → List Char
  | '\ufeff' :: rest => rest
  | characters => characters

/-- The tokens of a text, if it is made of tokens. -/
def tokensOf? (text : String) : Option (List Token) :=
  let characters := dropByteOrderMark text.toList
  if characters.all isPrintable then
    TokenReader.tokens? (characters.length + 1) { cursor := { rest := characters } }
  else none

end Acronyms.Yaml
