import ChainScenario.Files.Glob
import ChainScenario.Machine.Basic
import ChainScenario.ResultCheck.Compare
import ChainScenario.Scenario.Fault
import ChainScenario.StateCheck.Compare

/-!
# Faults of runs

Why the run of a scenario ends early, with the wording that a test author reads.
-/
namespace ChainScenario.Run

/-- Why a run ends. -/
inductive Fault where
  /-- The scenario file cannot be read as a scenario. -/
  | scenario (cause : Scenario.Fault)
  /-- The address of an account to be set has another length. -/
  | addressLength
  /-- A number of the scenario is too large. -/
  | beyond32Bits (field number : String)
  /-- An account to be set does not fit together. -/
  | invalidAccount (account : String) (cause : World.Fault)
  /-- The address of a deployment is not that of a contract. -/
  | notAContractAddress (address : String)
  | cannotCharge (tx : String) (cause : World.Fault)
  /-- The receiver of a transaction is not there. -/
  | receiverMissing (address : Bytes)
  /-- The receiver of a call has no code. -/
  | receiverNotContract (address : Bytes)
  /-- The tokens of a transaction could not be moved. -/
  | transferFailed (function : String) (code : ReturnCode) (message : String)
  /-- The currency of a transaction does not add up. -/
  | unbalanced (deltas value : Int)
  | transactionFailed (code : ReturnCode) (message : String)
  /-- The result of a transaction is not the expected one. -/
  | wrongResult (tx : String) (mismatch : ResultCheck.Mismatch)
  /-- The ledger is not the expected one. -/
  | wrongState (identifier : String) (mismatches : List StateCheck.Mismatch)
  /-- The ledger fails. -/
  | ledger (cause : World.Fault)
  /-- The machine was never started. -/
  | noMachine
  /-- The machine fails. -/
  | machine (message : String)
  /-- Files run each other too deeply. -/
  | tooDeep (maxDepth : Nat) (path : String)
  | noContext (path : String)
  | unreadable (path : String) (cause : Files.Fault)
  /-- A directory of scenario files cannot be read. -/
  | cannotWalk (path : String) (cause : Files.Fault)
  /-- A pattern of excluded files is malformed. -/
  | badExclusion (pattern : String) (cause : Glob.Fault)
  /-- A scenario of a directory failed. -/
  | someFailed

/-- A number in hexadecimal, its sign behind the mark. -/
def signedHex (value : Int) : String :=
  "0x" ++ (if value < 0 then "-" else "") ++ Hex.ofNat value.natAbs

/-- Why a run ends, in words. -/
def Fault.message : Fault → String
  | scenario cause => cause.message
  | addressLength => "bad test: account address should be 32 bytes long"
  | beyond32Bits field number => s!"bad test: {field} does not fit in 32 bits: {number}"
  | invalidAccount account cause =>
    s!"\"setState\" step validation failed for account \"{account}\": {cause.message}"
  | notAContractAddress address =>
    s!"address in \"setState\" \"newAddresses\" field should have SC format: {address}"
  | cannotCharge tx cause => s!"could not set up tx {tx}: {cause.message}"
  | receiverMissing address => s!"tx recipient (address: {Hex.encode address}) does not exist"
  | receiverNotContract address =>
    s!"tx recipient (address: {Hex.encode address}) is not a smart contract"
  | transferFailed function code message =>
    s!"{function} failed: retcode = {code.number}, msg = {message}"
  | unbalanced deltas value =>
    let sum := s!"{deltas} ({signedHex deltas})"
    s!"sum of balance deltas should equal call value. Sum of balance deltas: {sum}. " ++
      s!"Call value: {value} ({signedHex value})"
  | transactionFailed code message => s!"tx step failed: retcode={code.number}, msg={message}"
  | wrongResult tx mismatch => mismatch.message tx
  | wrongState identifier mismatches => StateCheck.report identifier mismatches
  | ledger cause => cause.message
  | noMachine => "VM not initialized"
  | machine message => message
  | tooDeep maxDepth path => s!"external steps nesting exceeds maximum depth of {maxDepth}: {path}"
  | noContext path =>
    s!"no scenario file is being run, cannot resolve external steps {path}"
  | unreadable path cause => s!"error reading file {path}: {cause.message}"
  | cannotWalk path cause =>
    s!"error walking tests: IO error for operation on {path}: {cause.message}"
  | badExclusion pattern cause => s!"bad exclusion pattern {pattern}: {cause.message}"
  | someFailed => "some tests failed"

def Fault.ofMachine : Machine.Fault → Fault
  | .failed message => .machine message
  | .ledger cause => .ledger cause

end ChainScenario.Run
