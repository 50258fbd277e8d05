/-!
# Binary floating point

Numbers with a 53-bit significand and the exponent range of the 64-bit interchange format, in exact
arithmetic: an operation computes its exact quotient of naturals and rounds it once, to nearest,
ties to even.
-/
namespace ChainScenario

/-- A finite number: `significand * 2 ^ exponent`, negated if `negative`. -/
structure Binary64 where
  negative : Bool
  significand : Nat
  exponent : Int
  deriving Repr, DecidableEq

namespace Binary64

/-- The least exponent, that of subnormal numbers. -/
def minExponent : Int := -1074

/-- The greatest exponent of a finite number. -/
def maxExponent : Int := 971

def zero : Binary64 := ⟨false, 0, minExponent⟩

/-- Whether a number is a zero of either sign. -/
def isZero (x : Binary64) : Bool := x.significand == 0

/-- The number with the opposite sign. -/
def neg (x : Binary64) : Binary64 := { x with negative := !x.negative }

/-- A quotient rounded to the nearest natural, a half to the even neighbour. -/
def roundHalfEven (numerator denominator : Nat) : Nat :=
  let quotient := numerator / denominator
  let twice := 2 * (numerator % denominator)
  if twice < denominator then quotient
  else if denominator < twice then quotient + 1
  else quotient + quotient % 2

/-- A power, as numerator and denominator. -/
def power (base : Nat) (exponent : Int) : Nat × Nat :=
  if 0 ≤ exponent then (Nat.pow base exponent.toNat, 1) else (1, Nat.pow base (-exponent).toNat)

/-- The least significand of a number that is not subnormal. -/
def leastNormal : Nat := 0x10000000000000

/-- A quotient divided by a power of two, as numerator and denominator. -/
def scaleDown (numerator denominator : Nat) (exponent : Int) : Nat × Nat :=
  let (up, down) := power 2 exponent
  (numerator * down, denominator * up)

/-- The non-negative number nearest to a quotient; `none` beyond the finite numbers. -/
def ofRatio? (numerator denominator : Nat) : Option Binary64 :=
  if numerator = 0 then some zero
  else
    let order : Int := (numerator.log2 : Int) - denominator.log2
    let (n, d) := scaleDown numerator denominator order
    -- the quotient lies between half the power of two of this order and its double
    let exponent := max (if n < d then order - 53 else order - 52) minExponent
    let (n, d) := scaleDown numerator denominator exponent
    let rounded := roundHalfEven n d
    -- rounding up may need one bit more
    let (significand, exponent) :=
      if rounded = 2 * leastNormal then (leastNormal, exponent + 1) else (rounded, exponent)
    if exponent > maxExponent then none else some ⟨false, significand, exponent⟩

/-- The magnitude as numerator and denominator. -/
def ratio (x : Binary64) : Nat × Nat :=
  let (up, down) := power 2 x.exponent
  (x.significand * up, down)

/-- The rounded product of two magnitudes. -/
def mul? (x y : Binary64) : Option Binary64 :=
  ofRatio? (x.ratio.1 * y.ratio.1) (x.ratio.2 * y.ratio.2)

/-- The rounded quotient of two magnitudes. -/
def div? (x y : Binary64) : Option Binary64 :=
  ofRatio? (x.ratio.1 * y.ratio.2) (x.ratio.2 * y.ratio.1)

def powerOfTen? (exponent : Nat) : Option Binary64 := ofRatio? (Nat.pow 10 exponent) 1

/-- The greatest power of ten among the finite numbers. -/
def greatestOrder : Nat := 308

/-- A magnitude times a power of ten, with one rounding for the power and one for the product or
quotient. Powers too small to be finite are divided out in steps. -/
def scaleTen? (x : Binary64) (exponent : Int) : Option Binary64 :=
  if (greatestOrder : Int) < exponent then if x.isZero then some x else none
  else if 0 ≤ exponent then (powerOfTen? exponent.toNat).bind x.mul?
  else if -(greatestOrder : Int) ≤ exponent then (powerOfTen? (-exponent).toNat).bind x.div?
  else if x.isZero then some x
  else ((powerOfTen? greatestOrder).bind x.div?).bind fun smaller =>
    smaller.scaleTen? (exponent + greatestOrder)
termination_by (-exponent).toNat
decreasing_by
  have : 0 < greatestOrder := by decide
  omega

end Binary64
end ChainScenario
