import ChainScenario.Contract.Call
import ChainScenario.Contract.Output
import ChainScenario.Ledger.World
import ChainScenario.Token.Store

/-!
# Built-in functions

Calls with certain names are carried out by the protocol and not by a contract. What is against the
rules is refused; a refusal ends the call with a return code, while a fault of the ledger ends it
without a result.
-/
namespace ChainScenario.Builtin

/-- The built-in functions. -/
inductive Function where
  | tokenTransfer
  | instanceTransfer
  | multiTransfer
  | localMint
  | localBurn
  | create
  | addQuantity
  | burn
  | addUris
  | updateAttributes
  | setRoles
  | unsetRoles
  | changeOwner
  | claimRewards
  | setUsername
  | saveKeyValue
  deriving DecidableEq, Repr, Inhabited

namespace Function

/-- All built-in functions. -/
def all : List Function :=
  [.tokenTransfer, .instanceTransfer, .multiTransfer, .localMint, .localBurn, .create,
    .addQuantity, .burn, .addUris, .updateAttributes, .setRoles, .unsetRoles, .changeOwner,
    .claimRewards, .setUsername, .saveKeyValue]

def name : Function → String
  | tokenTransfer => "ESDTTransfer"
  | instanceTransfer => "ESDTNFTTransfer"
  | multiTransfer => "MultiESDTNFTTransfer"
  | localMint => "ESDTLocalMint"
  | localBurn => "ESDTLocalBurn"
  | create => "ESDTNFTCreate"
  | addQuantity => "ESDTNFTAddQuantity"
  | burn => "ESDTNFTBurn"
  | addUris => "ESDTNFTAddURI"
  | updateAttributes => "ESDTNFTUpdateAttributes"
  | setRoles => "ESDTSetRole"
  | unsetRoles => "ESDTUnSetRole"
  | changeOwner => "ChangeOwnerAddress"
  | claimRewards => "ClaimDeveloperRewards"
  | setUsername => "SetUserName"
  | saveKeyValue => "SaveKeyValue"

def ofName? (name : String) : Option Function := all.find? (·.name == name)

theorem ofName?_name (function : Function) : ofName? function.name = some function := by
  cases function <;> decide

end Function

/-- Whether a name is that of a built-in function. -/
def isBuiltin (name : String) : Bool := (Function.ofName? name).isSome

/-- Why a call is against the rules. -/
inductive Refusal where
  | invalidArguments
  | insufficientFunds
  | actionNotAllowed
  | invalidReceiver
  | operationNotPermitted
  | notPositive
  | frozen
  | royaltiesTooHigh
  | noNonceLeft
  | noSuchInstance
  | noMetadata
  | notTokenSystem
  | invalidAddress
  | usernameTaken
  deriving DecidableEq, Repr

/-- Why a call is against the rules, in words. -/
def Refusal.message : Refusal → String
  | invalidArguments => "invalid arguments to process built-in function"
  | insufficientFunds => "insufficient funds"
  | actionNotAllowed => "action is not allowed"
  | invalidReceiver => "invalid receiver address"
  | operationNotPermitted => "operation not permitted"
  | notPositive => "negative value"
  | frozen => "ESDT is frozen for this account"
  | royaltiesTooHigh => "invalid arguments, royalties cannot exceed 10000"
  | noNonceLeft => "invalid arguments, no nonce left for the token"
  | noSuchInstance => "new NFT data on sender"
  | noMetadata => "NFT does not have metadata"
  | notTokenSystem => "caller is not the ESDT system smart contract"
  | invalidAddress => "invalid address"
  | usernameTaken => "user name already set"

/-- Why a function did not complete. -/
inductive Stop where
  /-- The call is against the rules. -/
  | refused (refusal : Refusal)
  /-- The ledger is broken. -/
  | broken (fault : World.Fault)
  deriving DecidableEq, Repr

abbrev Action (α : Type) := EStateM Stop World α

namespace Action

/-- Ends the call as against the rules. -/
def refuse (refusal : Refusal) : Action α := throw (.refused refusal)

/-- Ends the call as against the rules unless a condition holds. -/
def demand (condition : Bool) (refusal : Refusal) : Action Unit :=
  if condition then pure () else refuse refusal

/-- The value that is there; without one the call is against the rules. -/
def need (value : Option α) (refusal : Refusal) : Action α :=
  match value with
  | some value => pure value
  | none => refuse refusal

/-- A value read from the ledger. -/
def stored (result : Except Token.Fault α) : Action α :=
  match result with
  | .ok value => pure value
  | .error fault => throw (.broken (.tokenStorage fault))

def put (address : Bytes) (account : Account) : Action Unit := modify (·.setAccount address account)

end Action

def positive (bytes : Bytes) : Action Nat := do
  let value := Bytes.toNat bytes
  Action.demand (value != 0) .notPositive
  return value

/-- Holders of special roles may change what exists of a token. -/
inductive Role where
  | localMint
  | localBurn
  | create
  | addQuantity
  | burn
  | addUri
  | updateAttributes
  deriving DecidableEq, Repr

/-- The name under which a role is stored. -/
def Role.name : Role → Bytes
  | localMint => Utf8.ofString "ESDTRoleLocalMint"
  | localBurn => Utf8.ofString "ESDTRoleLocalBurn"
  | create => Utf8.ofString "ESDTRoleNFTCreate"
  | addQuantity => Utf8.ofString "ESDTRoleNFTAddQuantity"
  | burn => Utf8.ofString "ESDTRoleNFTBurn"
  | addUri => Utf8.ofString "ESDTRoleNFTAddURI"
  | updateAttributes => Utf8.ofString "ESDTRoleNFTUpdateAttributes"

end ChainScenario.Builtin
