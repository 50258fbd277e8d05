import ChainScenario.Contract.Gas
import ChainScenario.Contract.Output
import ChainScenario.Ledger.Account
import ChainScenario.Ledger.Block

/-!
# The ledger

The accounts, the blocks and what deployments depend on. A snapshot is a copy of all accounts; going
back to one drops it and all later ones. Operations that may fail half-way are actions on the world,
so that what they did before they failed is seen.
-/
namespace ChainScenario

abbrev Accounts := OrdMap Bytes Account

/-- The address a deployment must have. -/
structure DeploymentMock where
  creator : Bytes
  nonce : UInt64
  address : Bytes
  deriving DecidableEq, Repr, Inhabited

/-- The ledger a scenario runs against. -/
structure World where
  accounts : Accounts
  /-- Copies of the accounts, oldest first. -/
  snapshots : List Accounts
  previousBlock : Option Block
  currentBlock : Option Block
  blockHashes : List Bytes
  mocks : List DeploymentMock
  /-- The address of the last deployment. -/
  lastCreated : Bytes
  /-- The gas costs of built-in functions, once they are known. -/
  builtinCosts : Option (OrdMap String UInt64)
  /-- The machine type that addresses of contracts carry. -/
  vmType : Bytes
  deriving Inhabited

/-- An account with the nonce, the code and the storage that a change asks for. -/
def AccountChange.rewrite (change : AccountChange) (account : Account) : Account :=
  -- a nonce never falls
  let account := if account.nonce < change.nonce then { account with nonce := change.nonce }
    else account
  let account := if change.code.isEmpty then account
    else { account.withCode change.code with
      codeMetadata := change.codeMetadata
      owner := change.codeDeployer }
  change.storage.foldl (fun account entry => account.save entry.1 entry.2) account

namespace World

/-- An operation that changes the world and may fail. -/
abbrev Action (α : Type) := EStateM Fault World α

/-- Takes over a result that does not depend on the world. -/
def Action.ofExcept (result : Except Fault α) : Action α :=
  match result with
  | .ok value => pure value
  | .error fault => throw fault

def new (vmType : Bytes) : World :=
  ⟨.empty, [], none, none, [], [], [], none, vmType⟩

def shardCount : Nat := 1

/-- The empty world with the same costs and machine type. -/
def clear (world : World) : World :=
  { new world.vmType with builtinCosts := world.builtinCosts }

/-- The world with the costs of built-in functions taken from a table. -/
def withCosts (world : World) (costs : GasCosts) : World :=
  { world with builtinCosts := some (costs.getD builtinSection .empty) }

def randomSeed (world : World) : Bytes := (world.currentBlock.getD .zero).randomSeed

def account? (world : World) (address : Bytes) : Option Account := world.accounts.get? address

/-- The account at an address, a blank one if there is none. -/
def accountOrBlank (world : World) (address : Bytes) : Account :=
  world.accounts.getD address (.blank address)

def setAccount (world : World) (address : Bytes) (account : Account) : World :=
  { world with accounts := world.accounts.insert address account }

def putAccount (world : World) (account : Account) : World :=
  world.setAccount account.address account

/-- The world without the account at an address. -/
def deleteAccount (world : World) (address : Bytes) : World :=
  { world with accounts := world.accounts.erase address }

/-- The world with one more copy of its accounts. -/
def backup (world : World) : World :=
  { world with snapshots := world.snapshots ++ [world.accounts] }

/-- The index of the latest snapshot, -1 when there is none. -/
def journalLength (world : World) : Int := (world.snapshots.length : Int) - 1

/-- Takes a snapshot and gives the index to go back to. -/
def snapshot : Action Int := do
  modify backup
  return (← get).journalLength

/-- Goes back to a snapshot. -/
def revert (index : Int) : Action Unit := do
  let world ← get
  if world.snapshots.isEmpty then throw .noSnapshots
  else if index < 0 then throw (.snapshotOutOfBounds index world.journalLength)
  else
    match world.snapshots[index.toNat]? with
    | some accounts =>
      set { world with accounts := accounts, snapshots := world.snapshots.take index.toNat }
    | none => throw (.snapshotOutOfBounds index world.journalLength)

/-- Goes back to the latest snapshot. -/
def rollback : Action Unit := do
  revert (← get).journalLength

/-- The world with its state kept for good: no snapshot is left and no balance change pending. -/
def commit (world : World) : World :=
  { world with
    snapshots := []
    accounts := world.accounts.mapValues fun _ account => { account with balanceDelta := 0 } }

def applyChange (address : Bytes) (change : AccountChange) : Action Unit := do
  -- the account is there from now on, even if its balance cannot be changed
  modify fun world => world.setAccount address (world.accountOrBlank address)
  let account ← Action.ofExcept (((← get).accountOrBlank address).addToBalance change.balanceDelta)
  modify (·.setAccount address (change.rewrite account))

def applyChanges (changes : OrdMap Bytes AccountChange) (deleted : List Bytes) : Action Unit := do
  changes.toList.forM fun (address, change) => applyChange address change
  modify fun world => deleted.foldl deleteAccount world

/-- Changes the balance of an account. -/
def updateBalance (address : Bytes) (delta : Int) : Action Unit := do
  match (← get).account? address with
  | some account =>
    let account ← Action.ofExcept (account.addToBalance delta)
    modify (·.setAccount address account)
  | none => throw .accountNotFound

def gasCost (limit price : UInt64) : Nat := limit.toNat * price.toNat

def chargeSender (sender : Bytes) (limit price : UInt64) : Action Unit := do
  match (← get).account? sender with
  | some account =>
    modify (·.setAccount sender (account.afterSending (gasCost limit price)))
  | none => throw (.senderNotFound sender)

def deploymentAddress (world : World) (creator : Bytes) (nonce : UInt64) : Bytes :=
  match world.mocks.find? fun mock => mock.creator == creator && mock.nonce == nonce with
  | some mock => mock.address
  | none => Address.mock creator nonce world.vmType

/-- Takes an address for a deployment. -/
def createAddress (creator : Bytes) (nonce : UInt64) : Action Bytes := do
  let address := (← get).deploymentAddress creator nonce
  modify fun world => { world with lastCreated := address }
  return address

end World
end ChainScenario
