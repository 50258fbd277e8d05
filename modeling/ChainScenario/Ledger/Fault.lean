import ChainScenario.Bytes.Hex
import ChainScenario.Token.Codec

/-!
# Faults of the ledger

Why an operation on the ledger fails, with its wording.
-/
namespace ChainScenario

/-- Why an account cannot stand in the ledger. -/
inductive AccountDefect where
  | addressLength
  | codeMissing (address : Bytes)
  | codeMisplaced (address : Bytes)
  | ownerMissing (address : Bytes)
  deriving DecidableEq, Repr

/-- Why an account cannot stand in the ledger, in words. -/
def AccountDefect.message : AccountDefect → String
  | .addressLength => "account address should be 32 bytes long"
  | .codeMissing address =>
    s!"account has a smart contract address, but has no code: 0x{Hex.encode address}"
  | .codeMisplaced address =>
    s!"account has code but not a smart contract address: 0x{Hex.encode address}"
  | .ownerMissing address => s!"smart contract account has no owner: 0x{Hex.encode address}"

/-- Why an operation on the ledger fails. -/
inductive World.Fault where
  | noSnapshots
  | snapshotOutOfBounds (index greatest : Int)
  | accountNotFound
  | senderNotFound (address : Bytes)
  | insufficientFunds
  | invalidAccount (defect : AccountDefect)
  | builtinsNotReady
  | functionNotFound (name : String)
  | tokenStorage (cause : Token.Fault)
  deriving DecidableEq, Repr

/-- Why an operation on the ledger fails, in words. -/
def World.Fault.message : World.Fault → String
  | noSnapshots => "no snapshots"
  | snapshotOutOfBounds index greatest =>
    s!"snapshot {index} out of bounds (min 0, max {greatest})"
  | accountNotFound => "account not found. could not update"
  | senderNotFound address => s!"sender account not found: 0x{Hex.encode address}"
  | insufficientFunds => "insufficient funds"
  | invalidAccount defect => defect.message
  | builtinsNotReady => "builtin functions not initialized"
  | functionNotFound name => s!"function not found: {name}"
  | tokenStorage cause => s!"ESDT storage error: {cause.message}"

end ChainScenario
