import Acronyms.Decimal.Reading
import Acronyms.Toml.Quoted
import Acronyms.Toml.Value

/-!
# Values without quotes

A value that is neither quoted nor bracketed is a Boolean, a number, or a date or time.

An underscore may stand between two digits of a number.  An integer may be hexadecimal,
octal or binary; a decimal one may have a sign but no superfluous leading zero, and a
number with a point has digits on both of its sides.  An integer has to fit 128 bits,
with or without a sign, and a number beyond the largest double is an error.

A date and a time are checked against the calendar, up to the day of the month and the
leap second.
-/

set_option autoImplicit false

namespace Acronyms.Toml

/-! ## Numbers -/

def separated? (isDigit : Char → Bool) : List Char → Option (List Char)
  | [] => none
  | [digit] => if isDigit digit then some [digit] else none
  | digit :: '_' :: rest =>
    if isDigit digit then (separated? isDigit rest).map (digit :: ·) else none
  | digit :: rest =>
    if isDigit digit then (separated? isDigit rest).map (digit :: ·) else none

/-- The digits of a decimal whole number, the first of which is zero only if it is the
only one. -/
def wholeDigits? (characters : List Char) : Option (List Char) :=
  (separated? Char.isDigit characters).filter fun digits =>
    digits.head? != some '0' || characters.length == 1

/-- The sign at the front, and what follows. -/
def splitSign : List Char → Bool × List Char
  | '-' :: rest => (true, rest)
  | '+' :: rest => (false, rest)
  | rest => (false, rest)

def natural? (base : Nat) (characters : List Char) : Option Nat := do
  let isDigit (digit : Char) : Bool := (hexDigit? digit).any (· < base)
  let digits ← separated? isDigit characters
  return digits.foldl (fun value digit => base * value + (hexDigit? digit).getD 0) 0

/-- Whether an integer fits 128 bits, with a sign or without. -/
def fitsInteger (value : Int) : Bool :=
  -170141183460469231731687303715884105728 ≤ value &&
    value ≤ 340282366920938463463374607431768211455

def integer? (characters : List Char) : Option Int :=
  let value? : Option Int := match characters with
    | '0' :: 'x' :: rest => (natural? 16 rest).map Int.ofNat
    | '0' :: 'o' :: rest => (natural? 8 rest).map Int.ofNat
    | '0' :: 'b' :: rest => (natural? 2 rest).map Int.ofNat
    | _ =>
      let (negative, digits) := splitSign characters
      (wholeDigits? digits).map fun digits =>
        let magnitude : Int := Decimal.valueOf digits
        if negative then -magnitude else magnitude
  value?.filter fitsInteger

/-- The exponent that characters write behind the mark. -/
def exponent? (characters : List Char) : Option Int :=
  let (negative, digits) := splitSign characters
  (separated? Char.isDigit digits).map fun digits =>
    let magnitude : Int := Decimal.valueOf digits
    if negative then -magnitude else magnitude

/-- The decimal number with a point or an exponent that characters write. -/
def decimal? (characters : List Char) : Option Decimal := do
  let (negative, unsigned) := splitSign characters
  let isMark (character : Char) : Bool := character == 'e' || character == 'E'
  let mantissa := unsigned.takeWhile fun character => !isMark character
  let scale := unsigned.dropWhile fun character => !isMark character
  let whole ← wholeDigits? (mantissa.takeWhile (· != '.'))
  let fraction ← match mantissa.dropWhile (· != '.') with
    | [] => some []
    | _ :: digits => separated? Char.isDigit digits
  let exponent ← match scale with
    | [] => some 0
    | _ :: digits => exponent? digits
  if fraction = [] ∧ scale = [] then none
  else return ⟨negative, Decimal.valueOf (whole ++ fraction), exponent - fraction.length⟩

def float? (characters : List Char) : Option Float :=
  let (negative, name) := splitSign characters
  if name = "inf".toList then some (if negative then -1.0 / 0.0 else 1.0 / 0.0)
  else if name = "nan".toList then some (0.0 / 0.0)
  else (decimal? characters).bind Decimal.toFloat?

/-! ## Dates and times -/

/-- The value of two digits at the front, and what follows. -/
def twoDigits? : List Char → Option (Nat × List Char)
  | tens :: units :: rest =>
    if tens.isDigit ∧ units.isDigit then some (Decimal.valueOf [tens, units], rest) else none
  | _ => none

def after? (expected : Char) : List Char → Option (List Char)
  | character :: rest => if character = expected then some rest else none
  | [] => none

def daysOf (year month : Nat) : Nat :=
  let isLeap := year % 4 == 0 && (year % 100 != 0 || year % 400 == 0)
  if month = 2 then if isLeap then 29 else 28
  else if [4, 6, 9, 11].contains month then 30 else 31

def afterDate? (characters : List Char) : Option (List Char) := do
  let (century, rest) ← twoDigits? characters
  let (yearOfCentury, rest) ← twoDigits? rest
  let (month, rest) ← twoDigits? (← after? '-' rest)
  let (day, rest) ← twoDigits? (← after? '-' rest)
  let year := 100 * century + yearOfCentury
  if 1 ≤ month ∧ month ≤ 12 ∧ 1 ≤ day ∧ day ≤ daysOf year month then some rest else none

/-- What follows the fraction of a second at the front, if there is one. -/
def afterFraction? : List Char → Option (List Char)
  | '.' :: rest =>
    match rest.takeWhile Char.isDigit with
    | [] => none
    | _ => some (rest.dropWhile Char.isDigit)
  | rest => some rest

/-- What follows a time at the front; the seconds may be missing. -/
def afterTime? (characters : List Char) : Option (List Char) := do
  let (hour, rest) ← twoDigits? characters
  let (minute, rest) ← twoDigits? (← after? ':' rest)
  if 23 < hour ∨ 59 < minute then none
  else
    match rest with
    | ':' :: rest =>
      let (second, rest) ← twoDigits? rest
      if 60 < second then none else afterFraction? rest
    | rest => some rest

/-- Whether characters are nothing or an offset from universal time, which is at most a
day. -/
def isOffset : List Char → Bool
  | [] => true
  | ['Z'] => true
  | ['z'] => true
  | sign :: rest =>
    let offset? : Option (Nat × Nat × List Char) := do
      let (hours, rest) ← twoDigits? rest
      let (minutes, rest) ← twoDigits? (← after? ':' rest)
      return (hours, minutes, rest)
    (sign == '+' || sign == '-') && offset?.any fun (hours, minutes, rest) =>
      minutes ≤ 59 && 60 * hours + minutes ≤ 1440 && rest.isEmpty

/-- Whether characters write a date, a time, or both. -/
def isMoment (characters : List Char) : Bool :=
  match afterDate? characters with
  | some [] => true
  | some (separator :: rest) =>
    (separator == 'T' || separator == 't' || separator == ' ') && (afterTime? rest).any isOffset
  | none => (afterTime? characters).any List.isEmpty

/-! ## Scalars -/

/-- Whether a character may stand in a scalar. -/
def isScalarChar (character : Char) : Bool :=
  character.isAlphanum || character == '+' || character == '-' || character == '.' ||
    character == '_' || character == ':'

/-- The characters of the scalar at the front, and what follows.  A time may be separated
from its date by a space. -/
def splitScalar (characters : List Char) : List Char × List Char :=
  let scalar := characters.takeWhile isScalarChar
  match afterDate? scalar, characters.dropWhile isScalarChar with
  | some [], ' ' :: digit :: rest =>
    if digit.isDigit then
      (scalar ++ ' ' :: (digit :: rest).takeWhile isScalarChar,
        (digit :: rest).dropWhile isScalarChar)
    else (scalar, ' ' :: digit :: rest)
  | _, rest => (scalar, rest)

def scalarValue? (scalar : List Char) : Option Value :=
  if scalar = "true".toList then some (.boolean true)
  else if scalar = "false".toList then some (.boolean false)
  else if isMoment scalar then some .moment
  else
    match integer? scalar with
    | some value => some (.integer value)
    | none => (float? scalar).map .float

def scalar? (characters : List Char) : Option (Value × List Char) :=
  let (scalar, rest) := splitScalar characters
  (scalarValue? scalar).map fun value => (value, rest)

end Acronyms.Toml
