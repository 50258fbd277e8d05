/-!
# Decimal digits

Numbers written with the ten digits, and with a sign in front of them.
-/
namespace ChainScenario.Decimal

def ofDigits (digits : List Char) : Nat :=
  digits.foldl (fun value digit => value * 10 + (digit.toNat - 48)) 0

/-- One digit or more and nothing else. -/
def digits? (text : List Char) : Option (List Char) :=
  if !text.isEmpty && text.all Char.isDigit then some text else none

/-- Digits with at most one sign in front of them. -/
def signed? (text : List Char) : Option Int :=
  match text with
  | '+' :: digits => (digits? digits).map fun digits => (ofDigits digits : Int)
  | '-' :: digits => (digits? digits).map fun digits => -(ofDigits digits : Int)
  | digits => (digits? digits).map fun digits => (ofDigits digits : Int)

def padded (width value : Nat) : String :=
  let digits := Nat.toDigits 10 value
  String.ofList (List.replicate (width - digits.length) '0' ++ digits)

end ChainScenario.Decimal
