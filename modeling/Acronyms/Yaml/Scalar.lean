import Acronyms.Decimal.Reading
import Acronyms.Yaml.Value

/-!
# What a scalar denotes

A plain scalar is null, a Boolean, an integer or a number if it is written like one,
and otherwise a string; a quoted scalar or a block is a string.  A standard tag asks
for one of these readings.

An integer may have a sign and may be hexadecimal, octal or binary; digits with a
superfluous leading zero are no number.  An integer has to fit 64 bits: beyond that it
is an error up to 128 bits, and a double from there on.
-/

set_option autoImplicit false

namespace Acronyms.Yaml

def isNull (text : String) : Bool := ["null", "Null", "NULL", "~"].contains text

def bool? (text : String) : Option Bool :=
  if ["true", "True", "TRUE"].contains text then some true
  else if ["false", "False", "FALSE"].contains text then some false
  else none

/-! ## Integers -/

/-- The value of a digit in bases up to sixteen. -/
def baseDigit? (base : Nat) (digit : Char) : Option Nat :=
  let value? : Option Nat :=
    if digit.isDigit then some (digit.toNat - '0'.toNat)
    else if 'a' ≤ digit ∧ digit ≤ 'f' then some (digit.toNat - 'a'.toNat + 10)
    else if 'A' ≤ digit ∧ digit ≤ 'F' then some (digit.toNat - 'A'.toNat + 10)
    else none
  value?.filter (· < base)

/-- The value of digits in a base, of which there has to be at least one. -/
def natural? (base : Nat) (digits : List Char) : Option Nat :=
  if digits = [] then none
  else digits.foldl (fun value? digit => do
    return base * (← value?) + (← baseDigit? base digit)) (some 0)

def hasLeadingZero (characters : List Char) : Bool :=
  let digits := match characters with
    | '-' :: rest => rest
    | '+' :: rest => rest
    | rest => rest
  match digits with
  | '0' :: rest => !rest.isEmpty && rest.all Char.isDigit
  | _ => false

/-- The magnitude of an integer behind its sign: with a base mark, or decimal. -/
def magnitude? (characters : List Char) : Option Nat :=
  let based? : Option Nat := match characters with
    | '0' :: 'x' :: rest => natural? 16 rest
    | '0' :: 'o' :: rest => natural? 8 rest
    | '0' :: 'b' :: rest => natural? 2 rest
    | _ => none
  based?.or (if hasLeadingZero characters then none else natural? 10 characters)

def integer? (characters : List Char) : Option Int :=
  match characters with
  | '-' :: rest => (magnitude? rest).map fun magnitude => -(magnitude : Int)
  | '+' :: rest => (magnitude? rest).map Int.ofNat
  | rest => (magnitude? rest).map Int.ofNat

/-- Whether an integer fits 64 bits, with a sign or without. -/
def fitsWord (value : Int) : Bool := -9223372036854775808 ≤ value && value ≤ 18446744073709551615

/-- Whether an integer fits 128 bits, with a sign or without. -/
def fitsDoubleWord (value : Int) : Bool :=
  -170141183460469231731687303715884105728 ≤ value &&
    value ≤ 340282366920938463463374607431768211455

/-- What a scalar that is written like an integer denotes: the integer, an error
(`some none`), or no integer at all. -/
def integerValue? (characters : List Char) : Option (Option Value) :=
  match integer? characters with
  | none => none
  | some value =>
    if fitsWord value then some (some (.integer value))
    else if fitsDoubleWord value then some none
    else none

/-! ## Numbers -/

def double? (text : String) : Option Float :=
  let characters := text.toList
  let unsigned := match characters with
    | '+' :: rest => rest
    | rest => rest
  let unsignedText := String.ofList unsigned
  if characters.head? = some '+' ∧ (unsigned.head? = some '+' ∨ unsigned.head? = some '-') then none
  else if [".inf", ".Inf", ".INF"].contains unsignedText then some (1.0 / 0.0)
  else if ["-.inf", "-.Inf", "-.INF"].contains text then some (-1.0 / 0.0)
  else if [".nan", ".NaN", ".NAN"].contains text then some (0.0 / 0.0)
  else (Decimal.ofText? unsigned).bind Decimal.toFloat?

/-! ## Scalars -/

/-- What a plain scalar denotes; `none` is an error. -/
def plainValue? (text : String) : Option Value :=
  if text = "" ∨ isNull text then some .null
  else
    match bool? text with
    | some value => some (.bool value)
    | none =>
      match integerValue? text.toList with
      | some result => result
      | none =>
        match if hasLeadingZero text.toList then none else double? text with
        | some value => some (.double value)
        | none => some (.string text)

/-- What a scalar without a tag of its own kind denotes, given its standard tag. -/
def scalarValue (tag : Option String) (text : String) (plain : Bool) : Option Value :=
  match tag with
  | none => if plain then plainValue? text else some (.string text)
  | some "tag:yaml.org,2002:bool" => (bool? text).map .bool
  | some "tag:yaml.org,2002:int" => (integerValue? text.toList).join
  | some "tag:yaml.org,2002:float" => (double? text).map .double
  | some "tag:yaml.org,2002:null" => if isNull text then some .null else none
  | some _ => some (.string text)

end Acronyms.Yaml
