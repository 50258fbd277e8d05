import ChainScenario.Scenario.Reader.Account
import ChainScenario.Scenario.Reader.Transaction

/-!
# Reading steps and scenarios

The kind of a step decides which fields it has. Main definition: `Scenario.read`.
-/
namespace ChainScenario.Scenario.Reader

open Expression (Context)

def comment (fields : List (String × Json)) : Except Fault String :=
  match Json.field? "comment" fields with
  | some value => within "bad step comment" (string value)
  | none => .ok ""

/-- Passes over the fields that every step may have. -/
def commonField : FieldReaders α
  | "step" | "id" | "comment" => some fun _ target => .ok target
  | _ => none

def setStateField (context : Context) : FieldReaders SetState
  | "accounts" => setting (accounts context)
      fun read target => { target with accounts := read }
  | "newAddresses" => setting (within "error parsing new addresses" <| addressMocks context ·)
      fun read target => { target with addressMocks := read }
  | "previousBlockInfo" => setting (within "error parsing previousBlockInfo" <| block context ·)
      fun read target => { target with previousBlock := some read }
  | "currentBlockInfo" => setting (within "error parsing currentBlockInfo" <| block context ·)
      fun read target => { target with currentBlock := some read }
  | "blockHashes" => setting (within "error parsing block hashes" <| treeList context ·)
      fun read target => { target with blockHashes := read }
  | key => commonField key

def setState (context : Context) (fields : List (String × Json)) : Except Fault SetState := do
  readFields .step (setStateField context) { comment := ← comment fields } fields

def checkStateField (context : Context) : FieldReaders CheckState
  | "id" => setting (within "bad check state id" <| string ·)
      fun read target => { target with identifier := read }
  | "accounts" =>
    setting (within "cannot parse check state accounts" <| accountChecks context ·)
      fun read target => { target with accounts := read.1, moreAllowed := read.2 }
  | key => commonField key

def checkState (context : Context) (fields : List (String × Json)) : Except Fault CheckState := do
  readFields .step (checkStateField context) { comment := ← comment fields } fields

/-- A transaction step that is being read. -/
structure TransactionDraft where
  identifier : String := ""
  transaction : Option Transaction := none
  expectation : Option Expectation := none
  displayLogs : Bool := false

def transactionStepField (context : Context) (kind : Transaction.Kind) :
    FieldReaders TransactionDraft
  | "id" | "txId" => setting (within "bad tx step id" <| string ·)
      fun read target => { target with identifier := read }
  | "displayLogs" => setting (within "bad displayLogs flag" <| bool ·)
      fun read target => { target with displayLogs := read }
  | "tx" => setting (transaction context kind)
      fun read target => { target with transaction := some read }
  | "expect" => setting (within "cannot parse tx expected result" <| expectation context ·)
      fun read target => { target with expectation := some read }
  | key => commonField key

def transactionStep (context : Context) (kind : Transaction.Kind)
    (fields : List (String × Json)) : Except Fault TransactionStep := do
  let draft ← readFields .step (transactionStepField context kind) {} fields
  match draft.transaction with
  | some transaction =>
    return ⟨draft.identifier, ← comment fields, transaction, draft.expectation, draft.displayLogs⟩
  | none => throw .missingTransaction

def externalStepsField : FieldReaders ExternalSteps
  | "path" => setting (within "bad external steps path" <| string ·)
      fun read target => { target with path := read }
  | "traceGas" => setting (within "bad traceGas flag" <| bool ·)
      fun read target => { target with traceGas := some read }
  | key => commonField key

/-- A step that runs another file. -/
def externalSteps (fields : List (String × Json)) : Except Fault ExternalSteps := do
  let step ← readFields .step externalStepsField { comment := ← comment fields } fields
  if step.path.isEmpty then throw .missingPath else return step

/-- A step that shows the accounts. -/
def dumpState (fields : List (String × Json)) : Except Fault String := do
  readFields .step commonField () fields
  comment fields

def stepName (fields : List (String × Json)) : Except Fault String :=
  match Json.field? "step" fields with
  | some value => within "bad step type" (string value)
  | none => throw .untypedStep

def step (context : Context) (value : Json) : Except Fault Step := do
  let fields ← fieldsOf .step value
  match ← stepName fields with
  | "setState" => return .setState (← within "cannot parse set state step" (setState context fields))
  | "checkState" =>
    return .checkState (← within "cannot parse check state step" (checkState context fields))
  | "externalSteps" =>
    return .externalSteps (← within "cannot parse external steps step" (externalSteps fields))
  | "dumpState" => return .dumpState (← dumpState fields)
  | name =>
    match Transaction.Kind.ofName? name with
    | some kind =>
      return .transaction (← within "cannot parse tx step" (transactionStep context kind fields))
    | none => throw (.unknownStep name)

def steps (context : Context) (value : Json) : Except Fault (List Step) := do
  (← itemsOf .steps value).mapM (step context)

/-- A table of gas costs. -/
def gasSchedule (value : Json) : Except Fault GasSchedule := do
  let name ← within "bad scenario gasSchedule" (string value)
  match GasSchedule.ofName? name with
  | some schedule => return schedule
  | none => throw (.unknownGasSchedule name)

def scenarioField (context : Context) : FieldReaders Scenario
  | "name" => setting (within "bad scenario name" <| string ·)
      fun read target => { target with name := read }
  | "comment" => setting (within "bad scenario comment" <| string ·)
      fun read target => { target with comment := read }
  | "checkGas" => setting (within "bad scenario checkGas flag" <| bool ·)
      fun read target => { target with checkGas := read }
  | "traceGas" => setting (within "bad scenario traceGas flag" <| bool ·)
      fun read target => { target with traceGas := read }
  | "gasSchedule" => setting gasSchedule
      fun read target => { target with gasSchedule := read }
  | "steps" => setting (within "error processing steps" <| steps context ·)
      fun read target => { target with steps := read }
  | _ => none

def scenario (context : Context) (value : Json) : Except Fault Scenario := do
  readFields .scenario (scenarioField context) {} (← fieldsOf .scenario value)

end Reader

def read (context : Expression.Context) (contents : Bytes) : Except Fault Scenario := do
  let value ← (Json.read contents).mapError .notJson
  Reader.scenario context value

end ChainScenario.Scenario
