import ChainScenario.Run.Fault

/-!
# Setting the state

Accounts of a scenario become accounts of the ledger, or update them in the fields that are written.
Main definition: `SetState.apply`.
-/
namespace ChainScenario

open Token (Holding Metadata)

/-- A setting that may fail; accounts set before the fault stay set. -/
abbrev Setting (α : Type) := EStateM Run.Fault World α

/-- A number that must fit 32 bits. -/
def Written.to32Bits (field : String) (written : Written UInt64) : Except Run.Fault UInt32 :=
  if written.value.toNat < UInt32.size then .ok written.value.toUInt32
  else .error (.beyond32Bits field written.text)

/-- The value that was written, or a default. -/
def valueOr (fallback : α) (written : Option (Written α)) : α := written.elim fallback (·.value)

/-- The metadata of an instance; the fungible one has none. -/
def InstanceSetting.metadata (setting : InstanceSetting) (token : Bytes) (royalties : UInt32) :
    Option Metadata :=
  if setting.nonce.value = 0 then none
  else some
    { nonce := setting.nonce.value
      name := token
      creator := valueOr [] setting.creator
      royalties := royalties
      hash := valueOr [] setting.hash
      uris := setting.uris.map (·.value)
      attributes := valueOr [] setting.attributes }

def InstanceSetting.holding (setting : InstanceSetting) (token : Bytes) (frozen : Bool) :
    Except Run.Fault Holding := do
  let royalties ← match setting.royalties with
    | some written => written.to32Bits "royalties"
    | none => pure 0
  return {
    kind := if setting.nonce.value = 0 then .fungible else .nonFungible
    value := setting.balance.value
    properties := if frozen then [1] else []
    metadata := setting.metadata token royalties }

def Account.withToken (account : Account) (setting : TokenSetting) : Except Run.Fault Account := do
  let token := setting.identifier.value
  let frozen := valueOr 0 setting.frozen != 0
  let account ← setting.instances.foldlM (fun account one => do
    return account.saveHolding token one.nonce.value (← one.holding token frozen)) account
  let account := match setting.lastNonce with
    | some nonce => account.setLastNonce token nonce.value
    | none => account
  return account.setRoles token (setting.roles.map Utf8.ofString)

namespace AccountSetting

/-- The metadata of the code; contracts have the usual one unless another is written. -/
def metadata (setting : AccountSetting) : Bytes :=
  match setting.codeMetadata with
  | some written => written.value
  | none => if (valueOr [] setting.code).isEmpty then [] else Account.defaultCodeMetadata

/-- Refuses an address of another length. -/
def validateAddress (setting : AccountSetting) : Except Run.Fault Unit :=
  if setting.address.value.length = Address.length then .ok () else .error .addressLength

/-- The account as it is written, with defaults for what is not. -/
def toAccount (setting : AccountSetting) : Except Run.Fault Account := do
  -- whatever else is wrong with an account, its address is complained about first
  setting.validateAddress
  let plain := setting.storage.foldl
    (fun account entry => account.put entry.1.value entry.2.value)
    (Account.blank setting.address.value)
  let stored ← setting.tokens.foldlM Account.withToken plain
  let shard ← match setting.shard with
    | some written => written.to32Bits "shard"
    | none => pure 0
  return { stored with
    nonce := valueOr 0 setting.nonce
    balance := valueOr 0 setting.balance
    developerReward := valueOr 0 setting.developerReward
    username := valueOr [] setting.username
    owner := valueOr [] setting.owner
    asyncCallData := valueOr [] setting.asyncCallData
    shard := shard
    codeMetadata := setting.metadata }.withCode (valueOr [] setting.code)

/-- An account with the written fields taken from another. -/
def merge (setting : AccountSetting) (old new : Account) : Account :=
  let coded := if setting.code.isSome then
      { old.withCode new.code with codeMetadata := new.codeMetadata }
    else old
  { coded with
    storage := old.storage.insertAll new.storage.toList
    nonce := if setting.nonce.isSome then new.nonce else old.nonce
    balance := if setting.balance.isSome then new.balance else old.balance
    username := if setting.username.isSome then new.username else old.username
    owner := if setting.owner.isSome then new.owner else old.owner
    shard := if setting.shard.isSome then new.shard else old.shard
    -- the only field that an update always replaces
    asyncCallData := new.asyncCallData }

/-- Puts an account into the ledger, if it fits together. -/
def accept (setting : AccountSetting) (account : Account) : Setting Unit := do
  match account.validate with
  | .ok () => modify (·.putAccount account)
  | .error cause => throw (.invalidAccount setting.address.text cause)

/-- Replaces or updates an account of the ledger. -/
def apply (setting : AccountSetting) : Setting Unit := do
  match setting.toAccount with
  | .error fault => throw fault
  | .ok written =>
    if setting.update then
      match (← get).account? setting.address.value with
      | some old => setting.accept (setting.merge old written)
      | none => throw (.ledger .accountNotFound)
    else setting.accept written

end AccountSetting

/-- A block with the written fields replaced. -/
def BlockSetting.merge (setting : BlockSetting) (block : Block) : Except Run.Fault Block := do
  let epoch ← match setting.epoch with
    | some written => written.to32Bits "block epoch"
    | none => pure block.epoch
  return {
    timestamp := valueOr block.timestamp setting.timestamp
    nonce := valueOr block.nonce setting.nonce
    round := valueOr block.round setting.round
    epoch := epoch
    randomSeed := (setting.randomSeed.map (Block.seed ·.value)).getD block.randomSeed }

/-- A block of the ledger after a setting, if there is one. -/
def mergeBlock (setting : Option BlockSetting) (block : Option Block) :
    Except Run.Fault (Option Block) :=
  match setting with
  | some setting => (setting.merge (block.getD .zero)).map some
  | none => .ok block

/-- Takes over a result that does not depend on the ledger. -/
def Setting.ofExcept (result : Except Run.Fault α) : Setting α :=
  match result with
  | .ok value => pure value
  | .error fault => throw fault

/-- Refuses a deployment address that is not that of a contract. -/
def AddressMock.validate (mock : AddressMock) : Except Run.Fault Unit :=
  if Address.isContract mock.address.value then .ok ()
  else .error (.notAContractAddress mock.address.text)

/-- Sets accounts, blocks, block hashes and deployment addresses. -/
def SetState.apply (step : SetState) : Setting Unit := do
  step.accounts.forM AccountSetting.apply
  let previous ← Setting.ofExcept (mergeBlock step.previousBlock (← get).previousBlock)
  modify fun world => { world with previousBlock := previous }
  let current ← Setting.ofExcept (mergeBlock step.currentBlock (← get).currentBlock)
  modify fun world => { world with
    currentBlock := current
    blockHashes := step.blockHashes.map (·.value) }
  -- all addresses are looked at before the first is taken over
  step.addressMocks.forM fun mock => Setting.ofExcept mock.validate
  modify fun world => { world with
    mocks := world.mocks ++ step.addressMocks.map fun mock =>
      ⟨mock.creator.value, mock.nonce.value, mock.address.value⟩ }

end ChainScenario
