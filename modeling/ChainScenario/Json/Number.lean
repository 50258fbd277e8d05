import ChainScenario.Json.Basic
import ChainScenario.Number.Decimal

/-!
# Numbers in JSON text

The text of a number is an optional minus sign, a whole part without superfluous zeros, an optional
fraction and an optional exponent. The significand keeps the leading digits that fit 64 bits.
-/
namespace ChainScenario.Json.Number

open Decimal (ofDigits digits? signed?)

/-- The parts of the text of a number. -/
structure Literal where
  negative : Bool
  whole : List Char
  fraction : Option (List Char)
  exponent : Option Int
  deriving Repr, DecidableEq

/-- Whether a digit may stand first in a whole part of several digits. -/
def wellStarted : List Char → Bool
  | '0' :: _ :: _ => false
  | digits => !digits.isEmpty

def Literal.ofText? (text : List Char) : Option Literal := do
  let (negative, text) := match text with
    | '-' :: text => (true, text)
    | text => (false, text)
  let whole := text.takeWhile Char.isDigit
  guard (wellStarted whole)
  let text := text.dropWhile Char.isDigit
  let (fraction, text) ← match text with
    | '.' :: text => do
      let fraction ← digits? (text.takeWhile Char.isDigit)
      pure (some fraction, text.dropWhile Char.isDigit)
    | text => pure (none, text)
  let exponent ← match text with
    | [] => pure none
    | mark :: text => do
      guard (mark == 'e' || mark == 'E')
      pure (some (← signed? text))
  return ⟨negative, whole, fraction, exponent⟩

/-- The first number that 64 bits do not hold. -/
def wordLimit : Nat := 0x10000000000000000

/-- The number read from the digits that fit 64 bits, and the number of digits left over. -/
def clip : Nat → List Char → Nat × Nat
  | value, [] => (value, 0)
  | value, digit :: digits =>
    let next := value * 10 + (digit.toNat - 48)
    if next < wordLimit then clip next digits else (value, digits.length + 1)

/-- A literal as a floating point number; `none` beyond the finite numbers. -/
def Literal.toBinary64? (literal : Literal) : Option Binary64 := do
  let (head, dropped) := clip 0 literal.whole
  let fraction := literal.fraction.getD []
  let (significand, ignored) := clip head fraction
  -- whole digits left over raise the order, decimals that were read lower it
  let shift : Int := dropped - (fraction.length - ignored : Nat)
  let rounded ← Binary64.ofRatio? significand 1
  let value ← rounded.scaleTen? (shift + literal.exponent.getD 0)
  return if literal.negative then value.neg else value

/-- The number a text denotes: whole if it has neither fraction nor exponent, is not minus zero and
fits 64 bits. -/
def ofText? (text : List Char) : Option Number := do
  let literal ← Literal.ofText? text
  let magnitude := ofDigits literal.whole
  let plain := literal.fraction.isNone && literal.exponent.isNone
  if plain && !literal.negative && magnitude < wordLimit then
    return .whole magnitude
  else if plain && literal.negative && 0 < magnitude && 2 * magnitude ≤ wordLimit then
    return .whole (-(magnitude : Int))
  else
    return .real (← literal.toBinary64?)

end ChainScenario.Json.Number
