import Acronyms.Decimal

/-!
# The shortest decimal of a double

A finite double is a mantissa times a power of two.  The reals that round to it
form an interval around it: half a unit to each side, or a quarter of a unit below
a power of two, with the ends included when the mantissa is even.  The shortest
decimal of the double is the one with the fewest digits inside this interval, and
of those the nearest to the double.

For a given number of digits only the two neighbours of the double on that decimal
grid need to be tried, in exact arithmetic on natural numbers: if any point of the
grid lies in the interval, so does one of the two.  Seventeen digits always
suffice.
-/

set_option autoImplicit false

namespace Acronyms.Decimal

/-- A positive double: `mantissa · 2 ^ exponent`, and whether the gap to the double
below is half as wide as the gap to the double above. -/
structure Binary where
  mantissa : Nat
  exponent : Int
  narrowBelow : Bool
  deriving DecidableEq, Repr

/-- A nonnegative fraction. -/
structure Fraction where
  numerator : Nat
  denominator : Nat

namespace Fraction

/-- A natural number times a power of a base. -/
def scaled (value base : Nat) (exponent : Int) : Fraction :=
  if exponent < 0 then ⟨value, Nat.pow base exponent.natAbs⟩
  else ⟨value * Nat.pow base exponent.toNat, 1⟩

def lt (left right : Fraction) : Bool :=
  left.numerator * right.denominator < right.numerator * left.denominator

def floor (fraction : Fraction) : Nat := fraction.numerator / fraction.denominator

/-- A fraction divided by a power of ten. -/
def overPowerOfTen (fraction : Fraction) (exponent : Int) : Fraction :=
  if exponent < 0 then ⟨fraction.numerator * Nat.pow 10 exponent.natAbs, fraction.denominator⟩
  else ⟨fraction.numerator, fraction.denominator * Nat.pow 10 exponent.toNat⟩

def distance (left right : Fraction) : Fraction where
  numerator :=
    (left.numerator * right.denominator - right.numerator * left.denominator) +
      (right.numerator * left.denominator - left.numerator * right.denominator)
  denominator := left.denominator * right.denominator

/-- The number of digits before the point of a positive fraction; zero or less when
the fraction is smaller than one, by the number of zeros after the point. -/
def pointPosition (fraction : Fraction) : Int :=
  if fraction.denominator ≤ fraction.numerator then
    ((digitsOf fraction.floor).length : Int)
  else
    let inverse : Fraction := ⟨fraction.denominator, fraction.numerator⟩
    let digits := (digitsOf inverse.floor).length
    if inverse.numerator = Nat.pow 10 (digits - 1) * inverse.denominator then 2 - (digits : Int)
    else 1 - (digits : Int)

end Fraction

namespace Binary

def value (binary : Binary) : Fraction :=
  .scaled (4 * binary.mantissa) 2 (binary.exponent - 2)

/-- The lower end of the interval that rounds to a double. -/
def lower (binary : Binary) : Fraction :=
  .scaled (4 * binary.mantissa - if binary.narrowBelow then 1 else 2) 2 (binary.exponent - 2)

/-- The upper end of the interval that rounds to a double. -/
def upper (binary : Binary) : Fraction :=
  .scaled (4 * binary.mantissa + 2) 2 (binary.exponent - 2)

def accepts (binary : Binary) (fraction : Fraction) : Bool :=
  if binary.mantissa % 2 = 0 then
    !fraction.lt binary.lower && !binary.upper.lt fraction
  else
    binary.lower.lt fraction && fraction.lt binary.upper

/-- The coefficient of the best decimal on the grid `10 ^ exponent`, if the double
has one there: of its two neighbours that round to it the nearer, and of two
equally near the even one. -/
def onGrid? (binary : Binary) (exponent : Int) : Option Nat :=
  let below := (binary.value.overPowerOfTen exponent).floor
  let above := below + 1
  let belowPoint := Fraction.scaled below 10 exponent
  let abovePoint := Fraction.scaled above 10 exponent
  match binary.accepts belowPoint, binary.accepts abovePoint with
  | false, false => none
  | true, false => some below
  | false, true => some above
  | true, true =>
    let fromBelow := binary.value.distance belowPoint
    let fromAbove := binary.value.distance abovePoint
    if fromBelow.lt fromAbove then some below
    else if fromAbove.lt fromBelow then some above
    else some (if below % 2 = 0 then below else above)

/-- The best decimal with the fewest digits, trying as many further digits as the
fuel says. -/
def shortestFrom (binary : Binary) : Nat → Int → Nat × Int
  | 0, exponent => ((binary.value.overPowerOfTen exponent).floor, exponent)
  | fuel + 1, exponent =>
    match binary.onGrid? exponent with
    | some coefficient => (coefficient, exponent)
    | none => shortestFrom binary fuel (exponent - 1)

/-- The shortest decimal that rounds to a positive double. -/
def shortest (binary : Binary) : Nat × Int :=
  shortestFrom binary 17 (binary.value.pointPosition - 1)

end Binary

/-- The number of doubles of one sign and one exponent: two to the power of 52. -/
def fractionUnit : Nat := 4503599627370496

/-- A finite double taken apart; `none` for zero, infinities and not-a-number. -/
def binaryOfBits (bits : Nat) : Option Binary :=
  let fraction : Nat := bits % fractionUnit
  let biased : Nat := bits / fractionUnit % 2048
  if biased = 2047 then none
  else if biased = 0 then
    if fraction = 0 then none else some ⟨fraction, -1074, false⟩
  else some ⟨fractionUnit + fraction, (biased : Int) - 1075, fraction == 0 && 1 < biased⟩

/-- The shortest decimal that reads back as a finite double. -/
def ofFloat (value : Float) : Decimal :=
  let bits := value.toBits.toNat
  let negative := bits / (2048 * fractionUnit) == 1
  match binaryOfBits bits with
  | none => ⟨negative, 0, 0⟩
  | some binary =>
    let (coefficient, exponent) := binary.shortest
    Decimal.normalize ⟨negative, coefficient, exponent⟩

end Acronyms.Decimal
