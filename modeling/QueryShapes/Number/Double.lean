/-!
# Double-precision numbers

A double is a sign and a magnitude, the latter being its exponent and fraction fields read as one
natural number. Magnitudes order as the numbers do, the one of infinity comes after all finite
ones, and everything above it is not a number.

- `nearest`: the double nearest to a fraction, a half going to the even neighbour. Conversion,
  addition, division and reading are all exact arithmetic followed by `nearest`.
- `compare?_flip`: the comparison is reversed when its arguments are swapped.
- `totalOrder`: the total order that also ranks signed zeros, infinities and non-numbers.
-/

namespace QueryShapes

structure Double where
  negative : Bool
  magnitude : Nat
deriving DecidableEq

namespace Double

def infinityMagnitude : Nat := 0x7FF0000000000000

/-- The usual non-number. -/
def notANumber : Double := ⟨false, 0x7FF8000000000000⟩

def infinity (negative : Bool) : Double := ⟨negative, infinityMagnitude⟩

def isNaN (x : Double) : Bool := infinityMagnitude < x.magnitude

def isFinite (x : Double) : Bool := x.magnitude < infinityMagnitude

/-! ## The number behind a finite double -/

/-- How many of the least positive doubles make up one. -/
def one : Nat := Nat.pow 2 1074

/-- How many doubles there are with the same sign and exponent. -/
def fractions : Nat := Nat.pow 2 52

/-- The absolute value, counted in least positive doubles. -/
def units (x : Double) : Nat :=
  let exponent := x.magnitude / fractions
  let fraction := x.magnitude % fractions
  if exponent = 0 then fraction else (fractions + fraction) * Nat.pow 2 (exponent - 1)

/-- The value, counted in least positive doubles. -/
def signedUnits (x : Double) : Int := if x.negative then -x.units else x.units

/-- The value has no fractional part. -/
def isWhole (x : Double) : Bool := x.isFinite && x.units % one == 0

/-! ## Rounding -/

/-- A quotient rounded to the nearest natural number, a half going to the even one. -/
def roundEven (num den : Nat) : Nat :=
  let quotient := num / den
  let rest := 2 * (num % den)
  if den < rest || (den == rest && quotient % 2 == 1) then quotient + 1 else quotient

/-- How far a count of least positive doubles has to be scaled down to fit the fraction field. -/
def excess (count : Nat) : Nat := Nat.log2 count - 52

/-- The double nearest to `num / den`. -/
def nearest (negative : Bool) (num den : Nat) : Double :=
  let count := num * one
  let scale := excess (count / den)
  ⟨negative, min infinityMagnitude (scale * fractions + roundEven count (den * Nat.pow 2 scale))⟩

def ofInt (n : Int) : Double := nearest (n < 0) n.natAbs 1

/-! ## Arithmetic -/

def neg (x : Double) : Double := { x with negative := !x.negative }

def add (x y : Double) : Double :=
  if x.isNaN || y.isNaN then notANumber
  else if !x.isFinite then (if y.isFinite || x.negative == y.negative then x else notANumber)
  else if !y.isFinite then y
  else
    let sum := x.signedUnits + y.signedUnits
    if sum = 0 then ⟨x.negative && y.negative, 0⟩ else nearest (sum < 0) sum.natAbs one

/-- Division by a positive count. -/
def divNat (x : Double) (count : Nat) : Double :=
  if x.isFinite then nearest x.negative x.units (one * count) else x

/-- The nearest integer, a half going away from zero. -/
def round (x : Double) : Int :=
  let rounded : Nat := (2 * x.units + one) / (2 * one)
  if x.negative then -rounded else rounded

/-- The nearest integer that fits 64 bits; a non-number gives zero. -/
def roundToInt64 (x : Double) : Int64 :=
  if x.isNaN then 0
  else Int64.ofInt (max Int64.minValue.toInt (min Int64.maxValue.toInt x.round))

/-! ## Order -/

/-- The place among comparable doubles; both zeros share one. -/
def place (x : Double) : Int := if x.negative then -x.magnitude else x.magnitude

/-- Comparison by value; a non-number compares with nothing. -/
def compare? (x y : Double) : Option Ordering :=
  if x.isNaN || y.isNaN then none else some (compare x.place y.place)

/-- Equality by value; a non-number differs from itself. -/
def equals (x y : Double) : Bool := x.compare? y == some .eq

/-- The place in the total order, where negative zero comes before zero. -/
def totalPlace (x : Double) : Int := if x.negative then -x.magnitude - 1 else x.magnitude

/-- Total order of all doubles, non-numbers outermost. -/
def totalOrder (x y : Double) : Ordering := compare x.totalPlace y.totalPlace

theorem compare?_flip (x y : Double) : y.compare? x = (x.compare? y).map Ordering.swap := by
  unfold compare?
  rw [Bool.or_comm, Std.OrientedOrd.eq_swap (a := y.place)]
  split <;> rfl

theorem totalOrder_flip (x y : Double) : y.totalOrder x = (x.totalOrder y).swap :=
  Std.OrientedOrd.eq_swap

end Double

end QueryShapes
