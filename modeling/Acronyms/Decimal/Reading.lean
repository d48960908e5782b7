import Acronyms.Decimal

/-!
# Reading decimal numbers

The text of a decimal number has an optional minus sign, digits with at most one
point among or around them, and an optional exponent.  Reading it gives the double
nearest to the number; there is no double for a number beyond the largest.
-/

set_option autoImplicit false

namespace Acronyms.Decimal

/-- The value of a list of decimal digits. -/
def valueOf (digits : List Char) : Nat :=
  digits.foldl (fun value digit => 10 * value + (digit.toNat - '0'.toNat)) 0

/-- A signed integer in digits, with nothing after it. -/
def signedDigits? (characters : List Char) : Option Int :=
  let (negative, digits) : Bool × List Char := match characters with
    | '-' :: rest => (true, rest)
    | '+' :: rest => (false, rest)
    | rest => (false, rest)
  if digits ≠ [] ∧ digits.all Char.isDigit then
    some (if negative then -(valueOf digits : Int) else valueOf digits)
  else none

/-- Read an unsigned decimal: digits, an optional point with digits around it on at
least one side, and an optional exponent. -/
def unsigned? (negative : Bool) (characters : List Char) : Option Decimal :=
  let whole := characters.takeWhile Char.isDigit
  let (fraction, rest) : List Char × List Char := match characters.dropWhile Char.isDigit with
    | '.' :: after => (after.takeWhile Char.isDigit, after.dropWhile Char.isDigit)
    | rest => ([], rest)
  if whole = [] ∧ fraction = [] then none
  else
    let exponent? : Option Int := match rest with
      | [] => some 0
      | mark :: digits => if mark = 'e' ∨ mark = 'E' then signedDigits? digits else none
    exponent?.map fun exponent =>
      ⟨negative, valueOf (whole ++ fraction), exponent - fraction.length⟩

/-- Read a decimal with an optional minus sign. -/
def ofText? : List Char → Option Decimal
  | '-' :: rest => unsigned? true rest
  | characters => unsigned? false characters

/-- The double nearest to a decimal, or `none` if it would be infinite.  The numbers
far beyond the range of doubles are recognized by their number of digits. -/
def toFloat? (decimal : Decimal) : Option Float :=
  let magnitude : Option Float :=
    let point := decimal.exponent + (digitsOf decimal.coefficient).length
    if decimal.coefficient = 0 ∨ point < -330 then some 0.0
    else if 330 < point then none
    else
      let value := Float.ofScientific decimal.coefficient (decimal.exponent < 0)
        decimal.exponent.natAbs
      if value.isFinite then some value else none
  magnitude.map fun value => if decimal.negative then -value else value

end Acronyms.Decimal
