import ChainScenario.Number.Decimal
import ChainScenario.Number.Shortest

/-!
# Floating point numbers with infinities

The numbers that a text can denote when it may exceed the finite ones, with their plain text and
their rounding to a natural of 64 bits.
-/
namespace ChainScenario

/-- A finite number, an infinity, or no number. -/
inductive Extended where
  | finite (value : Binary64)
  | infinite (negative : Bool)
  | undefined
  deriving Repr, DecidableEq

namespace Extended

/-- A decimal of a greater order is beyond the finite numbers. -/
def greatestOrder : Int := 310

/-- A decimal of a smaller order rounds to zero. -/
def leastOrder : Int := -330

/-- The number nearest to `digits * 10 ^ exponent`, negated if `negative`. -/
def ofDecimal (negative : Bool) (digits : Nat) (exponent : Int) : Extended :=
  let order := exponent + (Nat.toDigits 10 digits).length
  let magnitude :=
    if digits = 0 ∨ order < leastOrder then some Binary64.zero
    else if greatestOrder < order then none
    else
      let (up, down) := Binary64.power 10 exponent
      Binary64.ofRatio? (digits * up) down
  match magnitude with
  | some value => .finite { value with negative := negative }
  | none => .infinite negative

/-- The sign of a text, and what follows it. -/
def takeSign : List Char → Bool × List Char
  | '-' :: text => (true, text)
  | '+' :: text => (false, text)
  | text => (false, text)

/-- The decimal a text denotes: digits with at most one point among them, and perhaps an exponent. -/
def decimal? (negative : Bool) (text : List Char) : Option Extended := do
  let whole := text.takeWhile Char.isDigit
  let (fraction, rest) := match text.dropWhile Char.isDigit with
    | '.' :: rest => (rest.takeWhile Char.isDigit, rest.dropWhile Char.isDigit)
    | rest => ([], rest)
  let digits ← Decimal.digits? (whole ++ fraction)
  let exponent ← match rest with
    | [] => pure 0
    | mark :: rest => if mark == 'e' || mark == 'E' then Decimal.signed? rest else none
  return ofDecimal negative (Decimal.ofDigits digits) (exponent - fraction.length)

/-- The number a text denotes. -/
def ofText? (text : List Char) : Option Extended :=
  let (negative, text) := takeSign text
  match String.ofList (text.map Char.toLower) with
  | "inf" | "infinity" => some (.infinite negative)
  | "nan" => some .undefined
  | _ => decimal? negative text

/-- Text of a number, without an exponent. -/
def text : Extended → String
  | .finite value => value.positionalText
  | .infinite negative => if negative then "-inf" else "inf"
  | .undefined => "NaN"

/-- Text of a number, with a point in every finite one. -/
def pointedText (x : Extended) : String :=
  match x with
  | .finite _ => if x.text.contains '.' then x.text else x.text ++ ".0"
  | _ => x.text

/-- Whether a number is a zero of either sign. -/
def isZero : Extended → Bool
  | .finite value => value.isZero
  | _ => false

/-- The greatest natural of 64 bits. -/
def greatestWord : Nat := 0xFFFFFFFFFFFFFFFF

/-- The nearest natural of 64 bits, a half going up; zero for what is no number. -/
def toWord : Extended → Nat
  | .finite value =>
    let (numerator, denominator) := value.ratio
    if value.negative then 0
    else min ((2 * numerator + denominator) / (2 * denominator)) greatestWord
  | .infinite negative => if negative then 0 else greatestWord
  | .undefined => 0

end Extended
end ChainScenario
