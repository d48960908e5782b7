/-!
# Quoted texts of TOML

A text is quoted in one of four ways.  Between apostrophes every character stands for
itself; between quotation marks a backslash begins an escape.  Three marks instead of
one let the text span lines: a line break right behind the opening marks is dropped, and
up to two marks may stand right before the closing ones.  Between three quotation marks a
backslash at the end of a line drops the line break and all blanks that follow.
-/

set_option autoImplicit false

namespace Acronyms.Toml

/-! ## Character classes -/

/-- Whether a character is a space or a tab. -/
def isSpace (character : Char) : Bool := character == ' ' || character == '\t'

/-- Whether a character may stand in a comment or in a quoted text. -/
def isPrintable (character : Char) : Bool :=
  character == '\t' || (0x20 ≤ character.toNat && character.toNat != 0x7F)

/-- The line break at the front of a text, and what follows. -/
def lineBreak? : List Char → Option (List Char × List Char)
  | '\n' :: rest => some (['\n'], rest)
  | '\r' :: '\n' :: rest => some (['\r', '\n'], rest)
  | _ => none

/-- What follows the spaces and tabs at the front. -/
def skipSpace (characters : List Char) : List Char := characters.dropWhile isSpace

/-- What follows the spaces, tabs and line breaks at the front. -/
def skipBlank : List Char → List Char
  | ' ' :: rest => skipBlank rest
  | '\t' :: rest => skipBlank rest
  | '\n' :: rest => skipBlank rest
  | '\r' :: '\n' :: rest => skipBlank rest
  | rest => rest

/-! ## Escapes -/

def hexDigit? (digit : Char) : Option Nat :=
  if digit.isDigit then some (digit.toNat - '0'.toNat)
  else if 'a' ≤ digit ∧ digit ≤ 'f' then some (digit.toNat - 'a'.toNat + 10)
  else if 'A' ≤ digit ∧ digit ≤ 'F' then some (digit.toNat - 'A'.toNat + 10)
  else none

/-- The character whose number is written in so many hexadecimal digits. -/
def numbered? (count : Nat) (characters : List Char) : Option (Char × List Char) := do
  let digits := characters.take count
  if digits.length < count then none
  else
    let number ← digits.foldl (fun number? digit => do
      return 16 * (← number?) + (← hexDigit? digit)) (some 0)
    if number.isValidChar then some (Char.ofNat number, characters.drop count) else none

def escape? : List Char → Option (Char × List Char)
  | 'b' :: rest => some ('\x08', rest)
  | 't' :: rest => some ('\t', rest)
  | 'n' :: rest => some ('\n', rest)
  | 'f' :: rest => some ('\x0c', rest)
  | 'r' :: rest => some ('\r', rest)
  | 'e' :: rest => some ('\x1b', rest)
  | '"' :: rest => some ('"', rest)
  | '\\' :: rest => some ('\\', rest)
  | 'x' :: rest => numbered? 2 rest
  | 'u' :: rest => numbered? 4 rest
  | 'U' :: rest => numbered? 8 rest
  | _ => none

/-! ## Texts on one line -/

/-- The rest of a text between apostrophes, and what follows. -/
def literal? (characters : List Char) : Option (List Char × List Char) :=
  match characters.dropWhile fun character => isPrintable character && character != '\'' with
  | '\'' :: rest =>
    some (characters.takeWhile fun character => isPrintable character && character != '\'', rest)
  | _ => none

/-- The rest of a text between quotation marks, and what follows; `done` holds the
characters before, the last first. -/
def basicRest? : Nat → List Char → List Char → Option (List Char × List Char)
  | 0, _, _ => none
  | _ + 1, _, [] => none
  | fuel + 1, done, character :: rest =>
    if character = '"' then some (done.reverse, rest)
    else if character = '\\' then
      match escape? rest with
      | some (escaped, after) => basicRest? fuel (escaped :: done) after
      | none => none
    else if isPrintable character then basicRest? fuel (character :: done) rest
    else none

/-- The rest of a text between quotation marks, and what follows. -/
def basic? (characters : List Char) : Option (List Char × List Char) :=
  basicRest? (characters.length + 1) [] characters

/-! ## Texts on several lines -/

/-- What follows a line break at the front, if there is one. -/
def dropLineBreak (characters : List Char) : List Char :=
  match lineBreak? characters with
  | some (_, rest) => rest
  | none => characters

/-- The marks that belong to a text, of a run of at least three that ends it, and what
follows: the last three close the text, and only two may stand before them. -/
def closing? (mark : Char) (characters : List Char) : Option (List Char × List Char) :=
  let count := min 5 (characters.takeWhile (· == mark)).length
  if count < 3 then none else some (List.replicate (count - 3) mark, characters.drop count)

/-- What follows a backslash at the end of a line: the next character that is not
blank. -/
def continued? (characters : List Char) : Option (List Char) :=
  (lineBreak? (skipSpace characters)).map fun (_, rest) => skipBlank rest

/-- The rest of a text on several lines, and what follows; `done` holds the characters
before, the last first. -/
def multilineRest? (mark : Char) (escapes : Bool) :
    Nat → List Char → List Char → Option (List Char × List Char)
  | 0, _, _ => none
  | _ + 1, _, [] => none
  | fuel + 1, done, character :: rest =>
    match closing? mark (character :: rest) with
    | some (marks, after) => some (done.reverse ++ marks, after)
    | none =>
      if escapes ∧ character = '\\' then
        match continued? rest with
        | some after => multilineRest? mark escapes fuel done after
        | none =>
          match escape? rest with
          | some (escaped, after) => multilineRest? mark escapes fuel (escaped :: done) after
          | none => none
      else
        match lineBreak? (character :: rest) with
        | some (kept, after) => multilineRest? mark escapes fuel (kept.reverse ++ done) after
        | none =>
          if isPrintable character then multilineRest? mark escapes fuel (character :: done) rest
          else none

/-- The rest of a text on several lines, and what follows. -/
def multiline? (mark : Char) (escapes : Bool) (characters : List Char) :
    Option (List Char × List Char) :=
  multilineRest? mark escapes (characters.length + 1) [] (dropLineBreak characters)

def quotedLine? : List Char → Option (String × List Char)
  | '\'' :: rest => (literal? rest).map fun (text, after) => (String.ofList text, after)
  | '"' :: rest => (basic? rest).map fun (text, after) => (String.ofList text, after)
  | _ => none

def quoted? (characters : List Char) : Option (String × List Char) :=
  match characters with
  | '\'' :: '\'' :: '\'' :: rest =>
    (multiline? '\'' false rest).map fun (text, after) => (String.ofList text, after)
  | '"' :: '"' :: '"' :: rest =>
    (multiline? '"' true rest).map fun (text, after) => (String.ofList text, after)
  | _ => quotedLine? characters

end Acronyms.Toml
