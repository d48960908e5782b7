import Acronyms.Json

/-!
# Reading JSON

The reader accepts strict JSON: no byte order mark, no trailing commas, no comments, no
control characters in strings, no surrogates without their partner, and at most
127 arrays and objects inside each other.  Of the members of one name the last
counts.

Integers keep their value as long as they fit 64 bits.  Every other number is a
double, computed from at most 64 bits of its leading digits and a power of ten: the
digits are gathered into an unsigned 64-bit significand, a digit that no longer
fits is dropped, and the significand is scaled by one power of ten at a time.  A
number that overflows is an error; one that underflows is zero.
-/

set_option autoImplicit false

namespace Acronyms.Json

/-! ## Blanks and strings -/

def isSpace (character : Char) : Bool :=
  character == ' ' || character == '\t' || character == '\n' || character == '\r'

def skipSpace (characters : List Char) : List Char := characters.dropWhile isSpace

def hexDigit? (digit : Char) : Option Nat :=
  if digit.isDigit then some (digit.toNat - '0'.toNat)
  else if 'a' ≤ digit ∧ digit ≤ 'f' then some (digit.toNat - 'a'.toNat + 10)
  else if 'A' ≤ digit ∧ digit ≤ 'F' then some (digit.toNat - 'A'.toNat + 10)
  else none

def codeUnit? : List Char → Option (Nat × List Char)
  | first :: second :: third :: fourth :: rest => do
    let value := 16 * (16 * (16 * (← hexDigit? first) + (← hexDigit? second)) +
      (← hexDigit? third)) + (← hexDigit? fourth)
    return (value, rest)
  | _ => none

/-- Read what follows `\u`: a code unit that is no surrogate, or a pair of
surrogates. -/
def unicodeEscape? (characters : List Char) : Option (Char × List Char) := do
  let (high, rest) ← codeUnit? characters
  if 0xD800 ≤ high ∧ high < 0xDC00 then
    match rest with
    | '\\' :: 'u' :: after =>
      let (low, rest) ← codeUnit? after
      if 0xDC00 ≤ low ∧ low < 0xE000 then
        return (Char.ofNat (0x10000 + 0x400 * (high - 0xD800) + (low - 0xDC00)), rest)
      else none
    | _ => none
  else if 0xDC00 ≤ high ∧ high < 0xE000 then none
  else return (Char.ofNat high, rest)

/-- The character that a single-letter escape stands for. -/
def simpleEscape? : Char → Option Char
  | '"' => some '"'
  | '\\' => some '\\'
  | '/' => some '/'
  | 'b' => some '\x08'
  | 'f' => some '\x0c'
  | 'n' => some '\n'
  | 'r' => some '\r'
  | 't' => some '\t'
  | _ => none

/-- Read the rest of a string, up to and including its closing quote. -/
def stringRest? : Nat → List Char → List Char → Option (String × List Char)
  | 0, _, _ => none
  | _ + 1, _, [] => none
  | fuel + 1, done, character :: rest =>
    if character = '"' then some (String.ofList done.reverse, rest)
    else if character = '\\' then
      match rest with
      | [] => none
      | 'u' :: after =>
        match unicodeEscape? after with
        | some (escaped, rest) => stringRest? fuel (escaped :: done) rest
        | none => none
      | letter :: after =>
        match simpleEscape? letter with
        | some escaped => stringRest? fuel (escaped :: done) after
        | none => none
    else if character.toNat < 0x20 then none
    else stringRest? fuel (character :: done) rest

/-- Read a string whose opening quote is behind. -/
def string? (characters : List Char) : Option (String × List Char) :=
  stringRest? (characters.length + 1) [] characters

/-! ## Numbers -/

def maxSignificand : Nat := 18446744073709551615

def maxExponent : Nat := 2147483647

/-- The significand of a number and the power of ten it still has to be scaled by. -/
structure Scaled where
  significand : Nat
  exponent : Int

def digitValue (digit : Char) : Nat := digit.toNat - '0'.toNat

/-- Append digits to a significand as long as it fits; the number of digits that did
fit is returned with those that did not. -/
def gather (significand : Nat) (taken : Nat) : List Char → Nat × Nat × List Char
  | [] => (significand, taken, [])
  | digit :: rest =>
    let next := 10 * significand + digitValue digit
    if next ≤ maxSignificand then gather next (taken + 1) rest
    else (significand, taken, digit :: rest)

/-- The significand of the digits before and after the point.  A dropped digit before
the point counts as a zero; after the point it does not count at all. -/
def significandOf (whole fraction : List Char) : Scaled :=
  let (significand, _, dropped) := gather 0 0 whole
  let (significand, taken, _) := gather significand 0 fraction
  ⟨significand, (dropped.length : Int) - taken⟩

/-- A double scaled by a power of ten, in steps that each are a power that fits a
double; `none` if it overflows. -/
def scale? : Nat → Float → Int → Option Float
  | 0, value, _ => some value
  | fuel + 1, value, exponent =>
    if exponent.natAbs ≤ 308 then
      let power := Float.ofScientific 1 false exponent.natAbs
      if 0 ≤ exponent then
        let product := value * power
        if product.isInf then none else some product
      else some (value / power)
    else if value == 0.0 then some value
    else if 0 ≤ exponent then none
    else scale? fuel (value / Float.ofScientific 1 false 308) (exponent + 308)

/-- The double of a significand and a power of ten.  Four steps bring every
significand to zero, so four are enough. -/
def double? (negative : Bool) (scaled : Scaled) : Option Json :=
  (scale? 4 (UInt64.ofNat scaled.significand).toFloat scaled.exponent).map fun magnitude =>
    .double (if negative then -magnitude else magnitude)

/-- The value of exponent digits, or `none` beyond the largest exponent. -/
def exponentValue? (digits : List Char) : Option Nat :=
  digits.foldl (fun value? digit => value?.bind fun value =>
    let next := 10 * value + digitValue digit
    if next ≤ maxExponent then some next else none) (some 0)

/-- An exponent moved by another, kept within the range of exponents. -/
def saturate (exponent : Int) : Int :=
  if exponent < -2147483648 then -2147483648
  else if 2147483647 < exponent then 2147483647 else exponent

/-- The double of a significand with an exponent in digits.  An exponent beyond the
range makes zero of everything, unless it is positive and the significand is not
zero. -/
def withExponent? (negative : Bool) (scaled : Scaled) (down : Bool) (digits : List Char) :
    Option Json :=
  match exponentValue? digits with
  | some value =>
    let moved := if down then scaled.exponent - value else scaled.exponent + value
    double? negative { scaled with exponent := saturate moved }
  | none =>
    if scaled.significand ≠ 0 ∧ !down then none
    else some (.double (if negative then -0.0 else 0.0))

/-- Read an exponent behind its mark: an optional sign and digits. -/
def exponent? (characters : List Char) : Option (Bool × List Char × List Char) :=
  let (down, rest) : Bool × List Char := match characters with
    | '-' :: rest => (true, rest)
    | '+' :: rest => (false, rest)
    | rest => (false, rest)
  let digits := rest.takeWhile Char.isDigit
  if digits = [] then none else some (down, digits, rest.dropWhile Char.isDigit)

/-- The number of digits without point and exponent: an integer if it fits, and a
double otherwise.  Minus zero is a double. -/
def integer? (negative : Bool) (whole : List Char) : Option Json :=
  let (significand, _, dropped) := gather 0 0 whole
  if dropped ≠ [] then double? negative ⟨significand, dropped.length⟩
  else if !negative then some (.integer significand)
  else if significand = 0 ∨ 9223372036854775808 < significand then
    double? true ⟨significand, 0⟩
  else some (.integer (-significand))

/-- Whether digits are a whole part: not empty, and a leading zero stands alone. -/
def isWholePart : List Char → Bool
  | [] => false
  | '0' :: rest => rest.isEmpty
  | _ => true

def unsignedNumber? (negative : Bool) (characters : List Char) : Option (Json × List Char) :=
  let whole := characters.takeWhile Char.isDigit
  let afterWhole := characters.dropWhile Char.isDigit
  if !isWholePart whole then none
  else
    let afterFraction (fraction rest : List Char) : Option (Json × List Char) :=
      let scaled := significandOf whole fraction
      match rest with
      | mark :: after =>
        if mark = 'e' ∨ mark = 'E' then do
          let (down, digits, rest) ← exponent? after
          return (← withExponent? negative scaled down digits, rest)
        else if fraction = [] then return (← integer? negative whole, rest)
        else return (← double? negative scaled, rest)
      | [] =>
        if fraction = [] then return (← integer? negative whole, [])
        else return (← double? negative scaled, [])
    match afterWhole with
    | '.' :: after =>
      let fraction := after.takeWhile Char.isDigit
      if fraction = [] then none else afterFraction fraction (after.dropWhile Char.isDigit)
    | rest => afterFraction [] rest

def number? : List Char → Option (Json × List Char)
  | '-' :: rest => unsignedNumber? true rest
  | characters => unsignedNumber? false characters

/-! ## Values -/

/-- The greatest number of arrays and objects inside each other. -/
def maxDepth : Nat := 127

mutual

/-- Read a value, with so many more levels of nesting allowed. -/
def value? : Nat → Nat → List Char → Option (Json × List Char)
  | 0, _, _ => none
  | fuel + 1, depth, characters =>
    match skipSpace characters with
    | 'n' :: 'u' :: 'l' :: 'l' :: rest => some (.null, rest)
    | 't' :: 'r' :: 'u' :: 'e' :: rest => some (.bool true, rest)
    | 'f' :: 'a' :: 'l' :: 's' :: 'e' :: rest => some (.bool false, rest)
    | '"' :: rest => (string? rest).map fun (text, after) => (.string text, after)
    | '[' :: rest =>
      match depth with
      | 0 => none
      | depth + 1 =>
        match skipSpace rest with
        | ']' :: after => some (.array [], after)
        | _ => (items? fuel depth rest).map fun (items, after) => (.array items, after)
    | '{' :: rest =>
      match depth with
      | 0 => none
      | depth + 1 =>
        match skipSpace rest with
        | '}' :: after => some (.object [], after)
        | _ => (members? fuel depth [] rest).map fun (members, after) => (.object members, after)
    | rest => number? rest

/-- Read the items of an array up to and including its closing bracket. -/
def items? : Nat → Nat → List Char → Option (List Json × List Char)
  | 0, _, _ => none
  | fuel + 1, depth, characters =>
    match value? fuel depth characters with
    | none => none
    | some (item, after) =>
      match skipSpace after with
      | ',' :: rest => (items? fuel depth rest).map fun (items, after) => (item :: items, after)
      | ']' :: rest => some ([item], rest)
      | _ => none

/-- Read the members of an object up to and including its closing brace, entering
each into those read before. -/
def members? : Nat → Nat → Members → List Char → Option (Members × List Char)
  | 0, _, _, _ => none
  | fuel + 1, depth, done, characters =>
    match skipSpace characters with
    | '"' :: rest =>
      match string? rest with
      | none => none
      | some (name, afterName) =>
        match skipSpace afterName with
        | ':' :: rest =>
          match value? fuel depth rest with
          | none => none
          | some (value, after) =>
            let members := insertEntry name value done
            match skipSpace after with
            | ',' :: rest => members? fuel depth members rest
            | '}' :: rest => some (members, rest)
            | _ => none
        | _ => none
    | _ => none

end

/-- Read a text as one JSON value; every step takes at least one character for two
units of fuel. -/
def ofText? (text : String) : Option Json :=
  let characters := text.toList
  match value? (2 * characters.length + 2) maxDepth characters with
  | some (value, rest) => if (skipSpace rest).isEmpty then some value else none
  | none => none

end Acronyms.Json
