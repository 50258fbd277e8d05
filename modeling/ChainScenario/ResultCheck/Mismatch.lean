import ChainScenario.Contract.Output
import ChainScenario.Expression.Render
import ChainScenario.Scenario.Transaction

/-!
# Mismatches of results

How the result of a transaction differs from what is expected, and how it is told.
-/
namespace ChainScenario.ResultCheck

open Expression (render renderList)

/-- The first part of a log entry that differs. -/
inductive LogMismatch where
  | address (want : Check Bytes) (actual : Bytes)
  | identifier (want : Check Bytes) (actual : Bytes)
  | topics (want : ListCheck) (actual : List Bytes)
  | data (want : ListCheck) (actual : List Bytes)

/-- The first part of a result that differs. -/
inductive Mismatch where
  | status (want : Check Nat) (actual : ReturnCode) (message : String)
  | returnMessage (want : Check Bytes) (actual : String)
  | out (want : ListCheck) (actual : List Bytes)
  | refund (want : Check Nat) (actual : Nat)
  | gas (want : Check UInt64) (actual : UInt64)
  | logCount (want actual : Nat)
  | tooFewLogs (want actual : Nat)
  | log (index : Nat) (mismatch : LogMismatch)

/-- Items between brackets. -/
def inBrackets (text : String) : String := "[" ++ text ++ "]"

/-- The name of a part, what was expected and what is there. -/
def LogMismatch.parts : LogMismatch → String × String × String
  | address want actual => ("address", want.text, render .address actual)
  | identifier want actual => ("identifier", want.text, render .text actual)
  | topics want actual =>
    ("topics", inBrackets (ListCheck.itemsJson want), renderList .unknown actual)
  | data want actual =>
    ("data", inBrackets (ListCheck.itemsJson want), renderList .unknown actual)

/-- How a result differs, in words. -/
def Mismatch.message (tx : String) (mismatch : Mismatch) : String :=
  match mismatch with
  | .status want actual message =>
    let code := s!"{actual.number} ({actual.name})"
    s!"result code mismatch. Tx {tx}. Want: {want.text}. Have: {code}. Message: {message}"
  | .returnMessage want actual =>
    s!"result message mismatch. Tx {tx}. Want: {want.text}. Have: {actual}"
  | .out want actual =>
    let want := inBrackets (ListCheck.itemsJson want)
    s!"result mismatch. Tx {tx}. Want: {want}. Have: {renderList .unknown actual}"
  | .refund want actual =>
    s!"result gas refund mismatch. Tx {tx}. Want: {want.text}. Have: 0x{Hex.ofNat actual}"
  | .gas want actual =>
    let digits := Hex.ofNat actual.toNat
    s!"result gas mismatch. Tx {tx}. Want: {want.text}. Got: {actual} (0x{digits})"
  | .logCount want actual => s!"wrong number of logs. Tx {tx}. Want:{want}. Have:{actual}"
  | .tooFewLogs want actual => s!"too few logs. Tx {tx}. Want:{want}. Have:{actual}"
  | .log index mismatch =>
    let (name, want, actual) := mismatch.parts
    s!"bad log {name}. Tx {tx}. Log index: {index}. Want: {want}. Have: {actual}"

end ChainScenario.ResultCheck
