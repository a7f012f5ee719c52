import QueryShapes.Number.Double

/-!
# Shortest decimals

The decimal of fewest digits that reads back as a given double, and its layout as text.

- `shortest`: steps down the decimal grids until a neighbour of the double on the grid reads back;
  of two that do, the nearer one, a tie going to the even digit.
- `Layout`: what a format decides about the text of such a decimal.
-/

namespace QueryShapes

/-- The number `digits · 10 ^ exponent`. -/
structure ShortDecimal where
  digits : Nat
  exponent : Int

namespace ShortDecimal

def numerator (d : ShortDecimal) : Nat := d.digits * Nat.pow 10 d.exponent.toNat

def denominator (d : ShortDecimal) : Nat := Nat.pow 10 (-d.exponent).toNat

/-- The double that the decimal reads as. -/
def toDouble (negative : Bool) (d : ShortDecimal) : Double :=
  .nearest negative d.numerator d.denominator

end ShortDecimal

namespace Double

/-- The better of the two neighbours of `x` on the grid of multiples of `10 ^ exponent`, if either
reads back as `x`. -/
def onGrid? (x : Double) (exponent : Int) : Option ShortDecimal :=
  let num := x.units * Nat.pow 10 (-exponent).toNat
  let den := one * Nat.pow 10 exponent.toNat
  let below : ShortDecimal := ⟨num / den, exponent⟩
  let above : ShortDecimal := ⟨num / den + 1, exponent⟩
  let rest := 2 * (num % den)
  match decide (below.toDouble x.negative = x), decide (above.toDouble x.negative = x) with
  | true, true =>
    some (if rest < den || (rest == den && below.digits % 2 == 0) then below else above)
  | true, false => some below
  | false, true => some above
  | false, false => none

/-- The first grid that reads back, from `exponent` downwards. -/
def searchGrids (x : Double) : Nat → Int → ShortDecimal
  | 0, exponent => ⟨x.units, exponent⟩
  | steps + 1, exponent => (x.onGrid? exponent).getD (searchGrids x steps (exponent - 1))

/-- A grid coarser than the double: the power of ten that follows its highest binary digit. -/
def coarsestGrid (x : Double) : Int :=
  Int.fdiv (((Nat.log2 x.units : Int) - 1073) * 30103) 100000 + 1

/-- The shortest decimal of a finite double other than zero. -/
def shortest (x : Double) : ShortDecimal := x.searchGrids 25 x.coarsestGrid

end Double

/-! ## Layout -/

/-- What a format decides: between which places of the point a number is written without an
exponent, and what marks a whole number. -/
structure Layout where
  lowestPoint : Option Int
  highestPoint : Option Int
  wholeMark : String

namespace Layout

/-- Plain text never uses an exponent and leaves whole numbers bare. -/
def plain : Layout := ⟨none, none, ""⟩

/-- JSON writes `0.00001 ≤ |x| < 10 ^ 16` without an exponent and marks whole numbers by `.0`. -/
def json : Layout := ⟨some (-4), some 16, ".0"⟩

def isPositional (layout : Layout) (point : Int) : Bool :=
  layout.lowestPoint.all (· ≤ point) && layout.highestPoint.all (point ≤ ·)

def positional (layout : Layout) (digits : List Char) (point : Int) : String :=
  let places : Int := digits.length
  if point ≤ 0 then
    "0." ++ String.ofList (List.replicate (-point).toNat '0' ++ digits)
  else if places ≤ point then
    String.ofList (digits ++ List.replicate (point - places).toNat '0') ++ layout.wholeMark
  else
    String.ofList (digits.take point.toNat) ++ "." ++ String.ofList (digits.drop point.toNat)

def scientific (digits : List Char) (point : Int) : String :=
  let fraction := match digits with
    | _ :: d :: rest => "." ++ String.ofList (d :: rest)
    | _ => ""
  let exponent := point - 1
  String.ofList (digits.take 1) ++ fraction ++ "e" ++ (if exponent < 0 then "-" else "+") ++
    toString exponent.natAbs

/-- The text of a finite double. -/
def write (layout : Layout) (x : Double) : String :=
  let sign := if x.negative then "-" else ""
  if x.magnitude = 0 then sign ++ "0" ++ layout.wholeMark
  else
    let short := x.shortest
    let digits := Nat.toDigits 10 short.digits
    let point := (digits.length : Int) + short.exponent
    sign ++ if layout.isPositional point then layout.positional digits point
      else scientific digits point

end Layout

/-- Plain text of any double. -/
def Double.text (x : Double) : String :=
  if x.isNaN then "NaN"
  else if x.isFinite then Layout.plain.write x
  else if x.negative then "-inf" else "inf"

end QueryShapes
