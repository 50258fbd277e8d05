import ChainScenario.Scenario.Account
import ChainScenario.Scenario.Transaction

/-!
# Scenarios

A scenario is a list of steps with the switches they run under.
-/
namespace ChainScenario

/-- The tables of gas costs a scenario can choose from. -/
inductive GasSchedule where
  | standard
  | dummy
  | v3
  | v4
  deriving DecidableEq, Repr, Inhabited

namespace GasSchedule

def all : List GasSchedule := [.standard, .dummy, .v3, .v4]

def name : GasSchedule → String
  | standard => "default"
  | dummy => "dummy"
  | v3 => "v3"
  | v4 => "v4"

def ofName? (name : String) : Option GasSchedule := all.find? (·.name == name)

theorem ofName?_name (schedule : GasSchedule) : ofName? schedule.name = some schedule := by
  cases schedule <;> decide

end GasSchedule

/-- Sets accounts, blocks and deployment addresses. -/
structure SetState where
  comment : String
  accounts : List AccountSetting := []
  previousBlock : Option BlockSetting := none
  currentBlock : Option BlockSetting := none
  blockHashes : List (Written Bytes) := []
  addressMocks : List AddressMock := []

/-- Compares accounts with what is expected. -/
structure CheckState where
  identifier : String := ""
  comment : String
  accounts : List AccountCheck := []
  moreAllowed : Bool := false

/-- Sends a transaction and compares its result. -/
structure TransactionStep where
  identifier : String
  comment : String
  transaction : Transaction
  expectation : Option Expectation
  displayLogs : Bool

/-- Runs the steps of another file. -/
structure ExternalSteps where
  comment : String
  path : String := ""
  traceGas : Option Bool := none

/-- A step of a scenario. -/
inductive Step where
  | setState (step : SetState)
  | checkState (step : CheckState)
  | transaction (step : TransactionStep)
  | externalSteps (step : ExternalSteps)
  /-- Shows the accounts. -/
  | dumpState (comment : String)

/-- A scenario. -/
structure Scenario where
  name : String := ""
  comment : String := ""
  checkGas : Bool := true
  traceGas : Bool := false
  /-- Whether the machine starts afresh. -/
  isNewTest : Bool := false
  gasSchedule : GasSchedule := .standard
  steps : List Step := []

end ChainScenario
