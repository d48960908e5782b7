/-!
# Decimal numbers as text

A decimal is a coefficient and a power of ten, with a sign.  A layout says how a
decimal is spelled: where positional notation ends, and whether a positive
exponent is written with a plus sign.  The layouts of the formats that print
numbers are values of `Decimal.Layout`, kept by those formats.
-/

set_option autoImplicit false

namespace Acronyms

/-- The number `± coefficient · 10 ^ exponent`. -/
structure Decimal where
  negative : Bool
  coefficient : Nat
  exponent : Int
  deriving DecidableEq, Repr

namespace Decimal

def digitsOf (value : Nat) : List Char := Nat.toDigits 10 value

/-- Remove the zeros at the end of a coefficient, at most as many as the fuel says. -/
def trimZeros : Nat → Nat → Int → Nat × Int
  | 0, coefficient, exponent => (coefficient, exponent)
  | fuel + 1, coefficient, exponent =>
    if coefficient ≠ 0 ∧ coefficient % 10 = 0 then
      trimZeros fuel (coefficient / 10) (exponent + 1)
    else (coefficient, exponent)

/-- The same number with a coefficient that does not end in zero. -/
def normalize (decimal : Decimal) : Decimal :=
  let trimmed := trimZeros (digitsOf decimal.coefficient).length decimal.coefficient
    decimal.exponent
  { decimal with coefficient := trimmed.1, exponent := trimmed.2 }

/-- How decimals are spelled. -/
structure Layout where
  /-- Numbers below `10 ^ leastPoint` get an exponent. -/
  leastPoint : Int
  /-- Numbers from `10 ^ greatestPoint` on get an exponent. -/
  greatestPoint : Int
  /-- Whether a positive exponent has a plus sign. -/
  plusSign : Bool
  deriving DecidableEq, Repr

/-- Digits with a point before the digit of the given index; an integer keeps one
zero after the point, and a fraction one before it. -/
def positional (digits : List Char) (point : Int) : List Char :=
  if point ≤ 0 then "0.".toList ++ List.replicate (-point).toNat '0' ++ digits
  else if (digits.length : Int) ≤ point then
    digits ++ List.replicate (point.toNat - digits.length) '0' ++ ".0".toList
  else digits.take point.toNat ++ '.' :: digits.drop point.toNat

/-- Digits with a point after the first, and the exponent that goes with it. -/
def scientific (layout : Layout) (digits : List Char) (point : Int) : List Char :=
  let fraction := match digits.drop 1 with
    | [] => []
    | rest => '.' :: rest
  let exponent := point - 1
  let sign := if exponent < 0 then ['-'] else if layout.plusSign then ['+'] else []
  digits.take 1 ++ fraction ++ 'e' :: sign ++ digitsOf exponent.natAbs

/-- The text of a decimal in a layout. -/
def spell (layout : Layout) (decimal : Decimal) : String :=
  let normal := decimal.normalize
  let digits := digitsOf normal.coefficient
  let point := normal.exponent + digits.length
  let body :=
    if normal.coefficient = 0 then "0.0".toList
    else if layout.leastPoint < point ∧ point ≤ layout.greatestPoint then
      positional digits point
    else scientific layout digits point
  String.ofList (if decimal.negative then '-' :: body else body)

end Decimal

end Acronyms
