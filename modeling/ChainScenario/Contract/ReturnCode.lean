/-!
# Return codes

How a call ends. Every code has a number and a name.
-/
namespace ChainScenario

/-- How a call ends. -/
inductive ReturnCode where
  | ok
  | functionNotFound
  | functionWrongSignature
  | contractNotFound
  | userError
  | outOfGas
  | accountCollision
  | outOfFunds
  | callStackOverflow
  | contractInvalid
  | executionFailed
  | upgradeFailed
  | simulateFailed
  deriving DecidableEq, Repr, Inhabited

namespace ReturnCode

/-- All codes, each at the place of its number. -/
def all : List ReturnCode :=
  [.ok, .functionNotFound, .functionWrongSignature, .contractNotFound, .userError, .outOfGas,
    .accountCollision, .outOfFunds, .callStackOverflow, .contractInvalid, .executionFailed,
    .upgradeFailed, .simulateFailed]

def number (code : ReturnCode) : Nat := code.ctorIdx

def ofNumber? (number : Nat) : Option ReturnCode := all[number]?

theorem ofNumber?_number (code : ReturnCode) : ofNumber? code.number = some code := by
  cases code <;> rfl

def name : ReturnCode → String
  | ok => "ok"
  | functionNotFound => "function not found"
  | functionWrongSignature => "wrong signature for function"
  | contractNotFound => "contract not found"
  | userError => "user error"
  | outOfGas => "out of gas"
  | accountCollision => "account collision"
  | outOfFunds => "out of funds"
  | callStackOverflow => "call stack overflow"
  | contractInvalid => "contract invalid"
  | executionFailed => "execution failed"
  | upgradeFailed => "upgrade failed"
  | simulateFailed => "simulate failed"

end ReturnCode
end ChainScenario
