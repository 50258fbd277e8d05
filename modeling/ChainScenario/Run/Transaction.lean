import ChainScenario.Builtin.Conversion
import ChainScenario.Builtin.Run
import ChainScenario.Run.Executor

/-!
# Running transactions

A transaction runs between a copy of the accounts and either a commit or a return to the copy. Main
definitions: `transact` and `transactionStep`.
-/
namespace ChainScenario.Run

/-- The hash of a transaction: its identifier, cut or filled with dots. -/
def transactionHash (tx : String) : Bytes := (Utf8.ofString tx).fit 32 0x2E

def carriedTokens (transaction : Transaction) : List TokenTransfer :=
  transaction.payments.map fun payment =>
    ⟨payment.token.value, payment.nonce.value, payment.value.value,
      if payment.nonce.value = 0 then .fungible else .nonFungible⟩

def callInput (transaction : Transaction) (hash : Bytes) : CallInput where
  caller := transaction.sender.value
  arguments := transaction.arguments.map (·.value)
  value := transaction.value.value
  gasPrice := transaction.gasPrice.value
  gasProvided := transaction.gasLimit.value
  originalHash := hash
  currentHash := hash
  transfers := carriedTokens transaction

def callOf (transaction : Transaction) (hash : Bytes) : Call :=
  ⟨callInput transaction hash, transaction.receiver.value, transaction.function⟩

def codeMetadataOf (transaction : Transaction) : Bytes :=
  match transaction.codeMetadata with
  | some written => written.value
  | none => Account.defaultCodeMetadata

/-- The result of changing the balance and the storage of one account. -/
def changing (address : Bytes) (delta : Int) (storage : List (Bytes × Bytes)) : CallOutput :=
  { CallOutput.success with
    changes := OrdMap.empty.insert address { AccountChange.none with
      balanceDelta := delta
      storage := storage } }

/-- Moves the tokens of a call by the built-in function for them. -/
def moveTokens (call : Call) : Run σ CallOutput := do
  let converted := Builtin.convert call
  let output ← onWorld (Builtin.run converted) .ledger
  if output.succeeded then return output
  else throw (.transferFailed converted.function output.returnCode output.message)

def receiverOf (transaction : Transaction) : Run σ Account := do
  match (← world).account? transaction.receiver.value with
  | some account => return account
  | none => throw (.receiverMissing transaction.receiver.value)

def deploy (machine : Machine σ) (tx : String) (transaction : Transaction) : Run σ CallOutput :=
  onStarted (machine.create ⟨callInput transaction (transactionHash tx), transaction.code.value,
    codeMetadataOf transaction⟩)

/-- Calls a contract, its tokens first. -/
def callContract (machine : Machine σ) (tx : String) (transaction : Transaction) :
    Run σ CallOutput := do
  let receiver ← receiverOf transaction
  if receiver.code.isEmpty then throw (.receiverNotContract transaction.receiver.value)
  else
    let call := callOf transaction (transactionHash tx)
    -- the contract sees its tokens when it runs
    if !call.input.transfers.isEmpty then
      let _ ← moveTokens call
    onStarted (machine.call call)

/-- The call that upgrades a contract: new code and metadata stand before the arguments. -/
def upgradeCall (transaction : Transaction) : Transaction :=
  { transaction with
    function := upgradeFunction
    arguments := transaction.code :: ⟨codeMetadataOf transaction, .null⟩ :: transaction.arguments }

def queryGas : UInt64 := 9223372036854775807

/-- The call of a query: the contract calls itself, without regard to gas. -/
def queryCall (transaction : Transaction) : Transaction :=
  { transaction with
    sender := transaction.receiver
    gasLimit := { transaction.gasLimit with value := queryGas } }

def gasUsed (given : UInt64) (output : CallOutput) : UInt64 :=
  if given < output.gasRemaining then 0 else given - output.gasRemaining

/-- Prints the gas that a transaction used, if gas is traced. -/
def printGas (tx description : String) (given : UInt64) (output : CallOutput) : Run σ Unit := do
  if (← get).tracesGas then
    let used := gasUsed given output
    printLine s!"\nIn txID: {tx}, step type: {description}, total gas used: {used}"

/-- The result of a reward: it is credited, and added up in the storage of the receiver. -/
def reward (transaction : Transaction) : Run σ CallOutput := do
  let receiver ← receiverOf transaction
  let value := transaction.value.value
  let total := Bytes.toNat (receiver.stored Address.rewardKey) + value
  return changing transaction.receiver.value value [(Address.rewardKey, Bytes.ofNat total)]

/-- The result of a transaction by its kind. -/
def outcome (machine : Machine σ) (tx : String) (transaction : Transaction) (gas : UInt64) :
    Run σ CallOutput := do
  match transaction.kind with
  | .deploy =>
    let output ← deploy machine tx transaction
    printGas tx "Deploy" gas output
    return output
  | .upgrade => callContract machine tx (upgradeCall transaction)
  | .query =>
    let output ← callContract machine tx (queryCall transaction)
    printGas tx s!"ScCall, function: {transaction.function}" queryGas output
    return output
  | .call =>
    let output ← callContract machine tx transaction
    printGas tx s!"ScCall, function: {transaction.function}" gas output
    return output
  | .transfer =>
    if transaction.payments.isEmpty then
      return changing transaction.receiver.value transaction.value.value []
    else moveTokens (callOf transaction [])
  | .reward => reward transaction

def sumOfDeltas (changes : OrdMap Bytes AccountChange) : Int :=
  changes.values.foldr (fun change sum => change.balanceDelta + sum) 0

/-- Applies a result that ended well: the sender pays the value, and the changes of balances must add
up to it. -/
def applyOutcome (transaction : Transaction) (output : CallOutput) : Run σ Unit := do
  let value : Int := transaction.value.value
  if transaction.kind.hasSender then
    onWorld (World.updateBalance transaction.sender.value (-value)) .ledger
  onWorld (World.applyChanges output.changes output.deleted) .ledger
  if transaction.kind.hasSender then
    let deltas := sumOfDeltas output.changes
    if deltas ≠ value then throw (.unbalanced deltas value)

def canPay (world : World) (transaction : Transaction) : Bool :=
  !transaction.kind.hasSender ||
    ((world.account? transaction.sender.value).any fun sender =>
      transaction.value.value ≤ sender.balance)

/-- Runs a transaction whose sender was charged. -/
def perform (machine : Machine σ) (tx : String) (transaction : Transaction) (gas : UInt64) :
    Run σ CallOutput := do
  if canPay (← world) transaction then
    let output ← outcome machine tx transaction gas
    if output.succeeded then applyOutcome transaction output
    return output
  else return .failure .outOfFunds ""

/-- Goes back to the accounts before the transaction. -/
def rollback : Run σ Unit := onWorld World.rollback .ledger

/-- Runs an action on a copy of the accounts: they are kept if its result ended well, else the
ledger goes back to the copy. -/
def bracket (action : Run σ CallOutput) : Run σ CallOutput := do
  onWorld (ε := World.Fault) (modify World.backup) .ledger
  match ← attempt action with
  | .ok output =>
    if output.succeeded then onWorld (ε := World.Fault) (modify World.commit) .ledger else rollback
    return output
  | .error fault =>
    -- if the copy is gone, that is the fault that is told
    rollback
    throw fault

/-- Runs a transaction: its sender is charged, whatever becomes of the rest. -/
def transact (machine : Machine σ) (tx : String) (transaction : Transaction) :
    Run σ CallOutput := do
  let gasLimit := transaction.gasLimit.value
  let charged := transaction.kind.hasSender
  if charged then
    onWorld (World.chargeSender transaction.sender.value gasLimit transaction.gasPrice.value)
      (.cannotCharge tx)
  bracket (perform machine tx transaction (if charged then gasLimit else 0))

/-- Judges the result of a transaction step; without an expectation it must end well. -/
def judge (checkGas : Bool) (step : TransactionStep) (output : CallOutput) : Except Fault Unit :=
  match step.expectation with
  | some expected =>
    (ResultCheck.compare checkGas expected output).mapError (.wrongResult step.identifier)
  | none =>
    if output.succeeded then .ok () else .error (.transactionFailed output.returnCode output.message)

def transactionStep (machine : Machine σ) (step : TransactionStep) : Run σ Unit := do
  let output ← transact machine step.identifier step.transaction
  ofExcept (judge (← get).checkGas step output) id

end ChainScenario.Run
