import ChainScenario.Number.Binary64

/-!
# Shortest decimals

The fewest decimal digits that read back as a floating point number, nearest to it among those. The
reals that read as a number form an interval around it; for growing numbers of digits the two
neighbours of the number on that decimal grid are tried.
-/
namespace ChainScenario.Binary64

/-- A magnitude and the ends of the interval that rounds to it, over one denominator. -/
structure Interval where
  low : Nat
  value : Nat
  high : Nat
  denominator : Nat
  /-- Whether the ends belong to the interval. -/
  closed : Bool

/-- The interval of a magnitude: half a unit on both sides, a quarter below a power of two. -/
def interval (x : Binary64) : Interval :=
  let below := if x.significand = leastNormal ∧ minExponent < x.exponent then 1 else 2
  -- all bounds are counted in quarters of a unit, so that they stay whole
  let (factor, denominator) := power 2 (x.exponent - 2)
  { low := (4 * x.significand - below) * factor
    value := 4 * x.significand * factor
    high := (4 * x.significand + 2) * factor
    denominator
    closed := x.significand % 2 == 0 }

/-- Whether the interval holds `digits * 10 ^ exponent`. -/
def Interval.holds (i : Interval) (digits : Nat) (exponent : Int) : Bool :=
  let (up, down) := power 10 exponent
  let point := digits * up * i.denominator
  if i.closed then i.low * down ≤ point && point ≤ i.high * down
  else i.low * down < point && point < i.high * down

/-- The least `k` with the magnitude below `10 ^ k`. -/
def Interval.order (i : Interval) : Int :=
  if i.denominator ≤ i.value then ((Nat.toDigits 10 (i.value / i.denominator)).length : Int)
  else
    match (List.range 400).find? fun zeros => i.denominator ≤ i.value * Nat.pow 10 (zeros + 1) with
    | some zeros => -(zeros : Int)
    | none => 0

/-- The neighbour of the magnitude on the grid `10 ^ exponent` that the interval holds, the nearer
one if it holds both. -/
def Interval.onGrid? (i : Interval) (exponent : Int) : Option Nat :=
  let (up, down) := power 10 exponent
  let unit := up * i.denominator
  let point := i.value * down
  let under := point / unit
  match i.holds under exponent, i.holds (under + 1) exponent with
  | true, true => some (Binary64.roundHalfEven point unit)
  | true, false => some under
  | false, true => some (under + 1)
  | false, false => none

/-- Digits without trailing zeros, and the exponent that goes with them. -/
def trimZeros (digits : Nat) (exponent : Int) : Nat × Int :=
  if digits = 0 then (0, exponent)
  else if digits % 10 = 0 then trimZeros (digits / 10) (exponent + 1)
  else (digits, exponent)
termination_by digits
decreasing_by omega

/-- The shortest decimal `digits * 10 ^ exponent` of a magnitude other than zero. -/
def shortest (x : Binary64) : Nat × Int :=
  let i := x.interval
  let order := i.order
  -- seventeen digits tell any two numbers apart
  let found := (List.range 17).findSome? fun n =>
    let exponent := order - (n + 1 : Nat)
    (i.onGrid? exponent).map fun digits => trimZeros digits exponent
  found.getD (0, 0)

/-- The text of `digits * 10 ^ exponent` without an exponent. -/
def positional (digits : List Char) (exponent : Int) : List Char :=
  let order := exponent + digits.length
  let zeros (n : Int) := List.replicate n.toNat '0'
  if 0 ≤ exponent then digits ++ zeros exponent
  else if 0 < order then digits.take order.toNat ++ '.' :: digits.drop order.toNat
  else '0' :: '.' :: (zeros (-order) ++ digits)

/-- The text of `digits * 10 ^ exponent` with one digit before the point and a signed exponent. -/
def scientific (digits : List Char) (exponent : Int) : List Char :=
  let mantissa := match digits with
    | [only] => [only]
    | first :: rest => first :: '.' :: rest
    | [] => []
  let order := exponent + digits.length - 1
  mantissa ++ 'e' :: (if 0 < order then '+' else '-') :: Nat.toDigits 10 order.natAbs

/-- The minus sign of a negative number. -/
def sign (x : Binary64) : String := if x.negative then "-" else ""

/-- Text of a number. Orders from -4 to 16 are written positionally, with `.0` after a whole number;
other orders with an exponent. -/
def text (x : Binary64) : String :=
  if x.isZero then x.sign ++ "0.0"
  else
    let (number, exponent) := x.shortest
    let digits := Nat.toDigits 10 number
    let order := exponent + digits.length
    let body :=
      if order < -4 ∨ 16 < order then scientific digits exponent
      else if 0 ≤ exponent then positional digits exponent ++ ['.', '0']
      else positional digits exponent
    x.sign ++ String.ofList body

/-- Text of a number without an exponent; a whole number has no point. -/
def positionalText (x : Binary64) : String :=
  if x.isZero then x.sign ++ "0"
  else
    let (number, exponent) := x.shortest
    x.sign ++ String.ofList (positional (Nat.toDigits 10 number) exponent)

end ChainScenario.Binary64
