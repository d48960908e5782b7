import Acronyms.Yaml.Cursor

/-!
# Scalars of YAML

A scalar is plain, quoted or a block.  In plain and quoted scalars a single line
break is a space and further ones are kept; the blanks around a line break vanish.
In a literal block line breaks are kept, in a folded block they fold between lines
that do not begin with a blank.
-/

set_option autoImplicit false

namespace Acronyms.Yaml

/-! ## The gaps between words -/

/-- What stands between two words of a plain or quoted scalar. -/
structure Gap where
  /-- The blanks, if there is no line break. -/
  blanks : List Char := []
  broken : Bool := false
  firstBreak : List Char := []
  moreBreaks : List Char := []

/-- A first line break is dropped before further ones, and a space without them. -/
def foldBreaks (firstBreak moreBreaks : List Char) : List Char :=
  if firstBreak = ['\n'] then
    if moreBreaks = [] then [' '] else moreBreaks
  else firstBreak ++ moreBreaks

/-- The characters that a gap contributes to the scalar. -/
def Gap.text (gap : Gap) : List Char :=
  if gap.broken then foldBreaks gap.firstBreak gap.moreBreaks else gap.blanks

/-- Read a gap.  Where a least column is given, a tab before it on a further line is
an error. -/
def gap? (leastColumn : Option Int) : Nat → Gap → Cursor → Option (Gap × Cursor)
  | 0, gap, cursor => some (gap, cursor)
  | fuel + 1, gap, cursor =>
    match cursor.head? with
    | none => some (gap, cursor)
    | some character =>
      if isBlank character then
        if gap.broken && character == '\t' && leastColumn.any ((cursor.column : Int) < ·) then none
        else if gap.broken then gap? leastColumn fuel gap (cursor.skip 1)
        else gap? leastColumn fuel { gap with blanks := gap.blanks ++ [character] } (cursor.skip 1)
      else if isBreak character then
        let (next, lineBreak) := cursor.skipLine
        if gap.broken then
          gap? leastColumn fuel { gap with moreBreaks := gap.moreBreaks ++ lineBreak } next
        else gap? leastColumn fuel { broken := true, firstBreak := lineBreak } next
      else some (gap, cursor)

/-! ## Plain scalars -/

/-- Whether a character separates items in a flow collection. -/
def isFlowIndicator (character : Char) : Bool :=
  character == ',' || character == '[' || character == ']' || character == '{' || character == '}'

/-- Read a word of a plain scalar: up to a blank, a colon before a blank, or, in a flow
collection, a separator.  There a colon before a separator or a question mark is an
error. -/
def plainWord? (inFlow : Bool) : List Char → Option (List Char × List Char)
  | [] => some ([], [])
  | character :: rest =>
    if isBlank character || isBreak character then some ([], character :: rest)
    else if inFlow && character == ':' &&
        rest.head?.any (fun next => isFlowIndicator next || next == '?') then none
    else if (character == ':' && atBlankOrEnd rest) || (inFlow && isFlowIndicator character) then
      some ([], character :: rest)
    else (plainWord? inFlow rest).map fun (word, after) => (character :: word, after)

/-- A scalar that was read: its text, the place after it, and whether a line break
was the last thing read. -/
structure ReadScalar where
  text : List Char
  cursor : Cursor
  brokenEnd : Bool := false

/-- Read the words of a plain scalar, the text and the gap so far being given. -/
def plainWords? (inFlow : Bool) (leastColumn : Int) :
    Nat → List Char → Gap → Cursor → Option ReadScalar
  | 0, text, gap, cursor => some ⟨text, cursor, gap.broken⟩
  | fuel + 1, text, gap, cursor =>
    if cursor.atDocumentMarker || cursor.head? == some '#' then some ⟨text, cursor, gap.broken⟩
    else
      match plainWord? inFlow cursor.rest with
      | none => none
      | some (word, rest) =>
        let wordText := if word = [] then text else text ++ gap.text ++ word
        let wordGap := if word = [] then gap else {}
        let afterWord := cursor.skipTo rest
        if atBlankOrEnd rest && !rest.isEmpty then
          match gap? (some leastColumn) rest.length {} afterWord with
          | none => none
          | some (nextGap, afterGap) =>
            if !inFlow && (afterGap.column : Int) < leastColumn then
              some ⟨wordText, afterGap, nextGap.broken⟩
            else plainWords? inFlow leastColumn fuel wordText nextGap afterGap
        else some ⟨wordText, afterWord, wordGap.broken⟩

/-- Read a plain scalar inside a block of the given indentation. -/
def plainScalar? (inFlow : Bool) (indentation : Int) (cursor : Cursor) : Option ReadScalar :=
  plainWords? inFlow (indentation + 1) (cursor.rest.length + 1) [] {} cursor

/-! ## Quoted scalars -/

def hexDigit? (digit : Char) : Option Nat :=
  if digit.isDigit then some (digit.toNat - '0'.toNat)
  else if 'a' ≤ digit ∧ digit ≤ 'f' then some (digit.toNat - 'a'.toNat + 10)
  else if 'A' ≤ digit ∧ digit ≤ 'F' then some (digit.toNat - 'A'.toNat + 10)
  else none

/-- The value of hexadecimal digits, if there are as many as asked for. -/
def hexValue? (count : Nat) (digits : List Char) : Option Nat :=
  if digits.length < count then none
  else (digits.take count).foldl (fun value? digit => do
    return 16 * (← value?) + (← hexDigit? digit)) (some 0)

/-- The character of a code point, if it is one. -/
def scalarValue? (codePoint : Nat) : Option Char :=
  if codePoint < 0xD800 ∨ (0xE000 ≤ codePoint ∧ codePoint < 0x110000) then
    some (Char.ofNat codePoint)
  else none

/-- What follows the backslash of an escape: the character it stands for, or the
number of hexadecimal digits that name it. -/
def escapeOf? : Char → Option (Char ⊕ Nat)
  | '0' => some (.inl '\x00')
  | 'a' => some (.inl '\x07')
  | 'b' => some (.inl '\x08')
  | 't' => some (.inl '\t')
  | '\t' => some (.inl '\t')
  | 'n' => some (.inl '\n')
  | 'v' => some (.inl '\x0b')
  | 'f' => some (.inl '\x0c')
  | 'r' => some (.inl '\r')
  | 'e' => some (.inl '\x1b')
  | ' ' => some (.inl ' ')
  | '"' => some (.inl '"')
  | '/' => some (.inl '/')
  | '\\' => some (.inl '\\')
  | 'N' => some (.inl '\u0085')
  | '_' => some (.inl '\u00A0')
  | 'L' => some (.inl '\u2028')
  | 'P' => some (.inl '\u2029')
  | 'x' => some (.inr 2)
  | 'u' => some (.inr 4)
  | 'U' => some (.inr 8)
  | _ => none

/-- How a word of a quoted scalar ended. -/
inductive WordEnd where
  /-- At the closing quote. -/
  | closed
  /-- At a blank or a line break. -/
  | blank
  /-- Behind the backslash of an escaped line break. -/
  | escapedBreak
  /-- At the end of the text. -/
  | unclosed
  deriving DecidableEq

/-- Read a word of a single-quoted scalar; a quote inside is written twice. -/
def singleQuotedWord : List Char → List Char × WordEnd × List Char
  | [] => ([], .unclosed, [])
  | '\'' :: '\'' :: rest =>
    let (word, ending, after) := singleQuotedWord rest
    ('\'' :: word, ending, after)
  | character :: rest =>
    if character == '\'' then ([], .closed, character :: rest)
    else if isBlank character || isBreak character then ([], .blank, character :: rest)
    else
      let (word, ending, after) := singleQuotedWord rest
      (character :: word, ending, after)

/-- Read a word of a double-quoted scalar, with its escapes. -/
def doubleQuotedWord? : Nat → List Char → Option (List Char × WordEnd × List Char)
  | 0, rest => some ([], .unclosed, rest)
  | _ + 1, [] => some ([], .unclosed, [])
  | fuel + 1, character :: rest =>
    if character == '"' then some ([], .closed, character :: rest)
    else if isBlank character || isBreak character then some ([], .blank, character :: rest)
    else if character == '\\' then
      match rest with
      | [] => none
      | mark :: after =>
        if isBreak mark then some ([], .escapedBreak, rest)
        else
          match escapeOf? mark with
          | none => none
          | some (.inl escaped) =>
            (doubleQuotedWord? fuel after).map fun (word, tail) => (escaped :: word, tail)
          | some (.inr count) =>
            match (hexValue? count after).bind scalarValue? with
            | none => none
            | some escaped =>
              (doubleQuotedWord? fuel (after.drop count)).map fun (word, tail) =>
                (escaped :: word, tail)
    else (doubleQuotedWord? fuel rest).map fun (word, tail) => (character :: word, tail)

/-- Read the words of a quoted scalar up to and including its closing quote. -/
def quotedWords? (single : Bool) : Nat → List Char → Cursor → Option ReadScalar
  | 0, _, _ => none
  | fuel + 1, text, cursor =>
    if cursor.atDocumentMarker then none
    else
      let word? := if single then some (singleQuotedWord cursor.rest)
        else doubleQuotedWord? cursor.rest.length cursor.rest
      match word? with
      | none => none
      | some (word, ending, rest) =>
        let afterWord := cursor.skipTo rest
        let continueFrom (gap : Gap) (place : Cursor) : Option ReadScalar :=
          match gap? none (place.rest.length + 1) gap place with
          | none => none
          | some (gap, afterGap) => quotedWords? single fuel (text ++ word ++ gap.text) afterGap
        match ending with
        | .closed => some { text := text ++ word, cursor := afterWord.skip 1 }
        | .unclosed => none
        | .blank => continueFrom {} afterWord
        | .escapedBreak => continueFrom { broken := true } afterWord.skipLine.1

/-- Read a quoted scalar from its opening quote on. -/
def quotedScalar? (single : Bool) (cursor : Cursor) : Option ReadScalar :=
  quotedWords? single (cursor.rest.length + 1) [] (cursor.skip 1)

/-! ## Block scalars -/

/-- What becomes of the line breaks at the end of a block. -/
inductive Chomping where
  /-- None are kept. -/
  | strip
  /-- One is kept. -/
  | clip
  /-- All are kept. -/
  | keep
  deriving DecidableEq

/-- The header of a block scalar: the chomping, the indentation if it is given, and what
follows on the line. -/
def blockHeader? (characters : List Char) : Option (Chomping × Option Nat × List Char) :=
  let chomping? : Char → Option Chomping
    | '+' => some .keep
    | '-' => some .strip
    | _ => none
  let indentation? (digit : Char) : Option Nat :=
    if digit.isDigit then some (digit.toNat - '0'.toNat) else none
  match characters with
  | [] => some (.clip, none, [])
  | first :: rest =>
    match chomping? first, indentation? first with
    | some chomping, _ =>
      match rest with
      | [] => some (chomping, none, [])
      | second :: after =>
        match indentation? second with
        | some 0 => none
        | some amount => some (chomping, some amount, after)
        | none => some (chomping, none, rest)
    | none, some 0 => none
    | none, some amount =>
      match rest with
      | [] => some (.clip, some amount, [])
      | second :: after =>
        match chomping? second with
        | some chomping => some (chomping, some amount, after)
        | none => some (.clip, some amount, rest)
    | none, none => some (.clip, none, characters)

/-- Skip the indentation and the empty lines of a block; an indentation that is not known
yet is every space there is.  The line breaks and the greatest column are returned. -/
def blockBreaks? (indentation : Option Nat) :
    Nat → List Char → Nat → Cursor → Option (List Char × Nat × Cursor)
  | 0, breaks, greatest, cursor => some (breaks, greatest, cursor)
  | fuel + 1, breaks, greatest, cursor =>
    let spaces := (cursor.rest.takeWhile (· == ' ')).length
    let indented := match indentation with
      | none => cursor.skip spaces
      | some amount => cursor.skip (min spaces (amount - cursor.column))
    let greatest := max greatest indented.column
    let inIndentation := indentation.all (indented.column < ·)
    if inIndentation && indented.head? == some '\t' then none
    else if indented.head?.any isBreak then
      let (next, lineBreak) := indented.skipLine
      blockBreaks? indentation fuel (breaks ++ lineBreak) greatest next
    else some (breaks, greatest, indented)

/-- The lines of a block read so far. -/
structure BlockText where
  text : List Char := []
  /-- The line break after the last line. -/
  lastBreak : List Char := []
  /-- The empty lines after the last line. -/
  emptyLines : List Char := []
  /-- Whether the last line begins with a blank. -/
  blankStart : Bool := false

/-- What stands between the last line and a next one, which may begin with a blank. -/
def BlockText.joint (block : BlockText) (literal nextBlank : Bool) : List Char :=
  if !literal && block.lastBreak == ['\n'] && !block.blankStart && !nextBlank then
    if block.emptyLines = [] then [' '] else block.emptyLines
  else block.lastBreak ++ block.emptyLines

/-- Read the lines of a block of a known indentation. -/
def blockLines? (literal : Bool) (indentation : Nat) :
    Nat → BlockText → Cursor → Option (BlockText × Cursor)
  | 0, block, cursor => some (block, cursor)
  | fuel + 1, block, cursor =>
    if cursor.column = indentation ∧ !cursor.rest.isEmpty then
      let nextBlank := cursor.head?.any isBlank
      let line := cursor.rest.takeWhile fun character => !isBreak character
      let (next, lineBreak) := (cursor.skip line.length).skipLine
      match blockBreaks? (some indentation) (next.rest.length + 1) [] 0 next with
      | none => none
      | some (emptyLines, _, afterBreaks) =>
        blockLines? literal indentation fuel
          { text := block.text ++ block.joint literal nextBlank ++ line
            lastBreak := lineBreak, emptyLines, blankStart := nextBlank } afterBreaks
    else some (block, cursor)

/-- Read a block scalar from its indicator on, inside a block of the given
indentation. -/
def blockScalar? (literal : Bool) (parent : Int) (cursor : Cursor) : Option ReadScalar := do
  let (chomping, amount?, afterHeader) ← blockHeader? (cursor.rest.drop 1)
  let blanks := (cursor.skipTo afterHeader).skipWhile isBlank
  let comment := if blanks.head? == some '#' then blanks.skipWhile (!isBreak ·) else blanks
  if !atBreakOrEnd comment.rest then none
  else
    let start := comment.skipLine.1
    let fuel := start.rest.length + 1
    let given := amount?.map fun amount =>
      if 0 ≤ parent then parent.toNat + amount else amount
    let (emptyLines, greatest, atText) ← blockBreaks? given fuel [] 0 start
    let indentation := given.getD (max greatest (max (parent + 1).toNat 1))
    let (block, cursor) ← blockLines? literal indentation fuel { emptyLines } atText
    let tail := match chomping with
      | .strip => []
      | .clip => block.lastBreak
      | .keep => block.lastBreak ++ block.emptyLines
    return { text := block.text ++ tail, cursor }

end Acronyms.Yaml
