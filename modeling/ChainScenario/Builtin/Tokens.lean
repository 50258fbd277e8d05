import ChainScenario.Builtin.Function

/-!
# Built-in functions on tokens

Transfers, changes of supply and changes of metadata. `moveTokens` and `moveCurrency` check before
they write, so a refused movement leaves the ledger as it was.
-/
namespace ChainScenario.Builtin

open Builtin.Action Token

def event (call : Call) (topics : List Bytes) : LogEntry :=
  ⟨Utf8.ofString call.function, call.input.caller, topics, []⟩

def transferEvent (call : Call) (token : Bytes) (nonce : UInt64) (value : Nat)
    (destination : Bytes) : LogEntry :=
  event call [token, nonceBytes nonce, Bytes.ofNat value, destination]

def touching (destination : Bytes) (logs : List LogEntry) : CallOutput :=
  { CallOutput.success with
    changes := OrdMap.empty.insert destination .none
    logs := logs }

/-- The caller must call itself. -/
def demandSelfCall (call : Call) : Action Unit :=
  demand (call.recipient == call.input.caller) .invalidReceiver

/-- The caller must have a role. -/
def demandRole (holder token : Bytes) (role : Role) : Action Unit := do
  match (← get).account? holder with
  | some account => demand (← stored (account.hasRole token role.name)) .actionNotAllowed
  | none => refuse .actionNotAllowed

/-- What the receiver of an amount then holds: more than before, or a holding of the sent kind. -/
def received (sent : Holding) (value : Nat) : Option Holding → Holding
  | some held => { held with value := held.value + value }
  | none => ⟨sent.kind, value, [], sent.metadata⟩

/-- Moves an amount of an instance from one account to another. -/
def moveTokens (source destination token : Bytes) (nonce : UInt64) (value : Nat) :
    Action Unit := do
  demand (destination.length == Address.length) .invalidReceiver
  let sender ← need ((← get).account? source) .insufficientFunds
  let sent ← need (← stored (sender.holding? token nonce)) .insufficientFunds
  demand (value ≤ sent.value) .insufficientFunds
  demand (!sent.isFrozen) .frozen
  put source (sender.saveHolding token nonce { sent with value := sent.value - value })
  -- looked up only now: the receiver may be the sender
  let receiver := (← get).accountOrBlank destination
  let held ← stored (receiver.holding? token nonce)
  put destination (receiver.setHolding token nonce (received sent value held))

/-- Moves currency from one account to another. -/
def moveCurrency (source destination : Bytes) (value : Nat) : Action Unit := do
  demand (destination.length == Address.length) .invalidReceiver
  let sender ← need ((← get).account? source) .insufficientFunds
  match sender.takeFromBalance value with
  | .error _ => refuse .insufficientFunds
  | .ok sender =>
    put source sender
    -- looked up only now: the receiver may be the sender
    let receiver := (← get).accountOrBlank destination
    put destination { receiver with balance := receiver.balance + value }

/-- Moves an amount of an instance, or currency under its identifier among tokens. -/
def moveAny (source destination token : Bytes) (nonce : UInt64) (value : Nat) : Action Unit :=
  if token = currency then moveCurrency source destination value
  else moveTokens source destination token nonce value

/-- Moves an amount of a fungible token to the recipient. -/
def tokenTransfer (call : Call) : Action CallOutput := do
  match call.input.arguments with
  | token :: amount :: _ =>
    let value ← positive amount
    moveTokens call.input.caller call.recipient token 0 value
    return touching call.recipient [transferEvent call token 0 value call.recipient]
  | _ => refuse .invalidArguments

/-- Moves an amount of an instance to the account named last. -/
def instanceTransfer (call : Call) : Action CallOutput := do
  demandSelfCall call
  match call.input.arguments with
  | token :: number :: amount :: destination :: _ =>
    let nonce := nonceOfBytes number
    demand (nonce != 0) .invalidArguments
    let value ← positive amount
    moveTokens call.input.caller destination token nonce value
    return touching destination [transferEvent call token nonce value destination]
  | _ => refuse .invalidArguments

/-- The first triples of a list, if it is long enough. -/
def triples? : Nat → List α → Option (List (α × α × α))
  | 0, _ => some []
  | count + 1, a :: b :: c :: rest => (triples? count rest).map ((a, b, c) :: ·)
  | _ + 1, _ => none

/-- The movements a call lists: their number, then a triple each. -/
def listedMovements? (count : Bytes) (rest : List Bytes) : Option (List (Bytes × Bytes × Bytes)) :=
  let number := (nonceOfBytes count).toNat
  if number = 0 ∨ 8 < count.length ∨ rest.length < 3 * number then none else triples? number rest

/-- Carries out movements one after another and gives their events. -/
def movements (call : Call) (destination : Bytes) :
    List (Bytes × Bytes × Bytes) → Action (List LogEntry)
  | [] => return []
  | (token, number, amount) :: rest => do
    let nonce := nonceOfBytes number
    let value ← positive amount
    moveAny call.input.caller destination token nonce value
    return transferEvent call token nonce value destination :: (← movements call destination rest)

/-- Moves the listed amounts to the account named first. -/
def multiTransfer (call : Call) : Action CallOutput := do
  demandSelfCall call
  match call.input.arguments with
  | destination :: count :: rest =>
    let listed ← need (listedMovements? count rest) .invalidArguments
    return touching destination (← movements call destination listed)
  | _ => refuse .invalidArguments

def supplyChanged (call : Call) (token : Bytes) (value : Nat) : CallOutput :=
  { CallOutput.success with logs := [event call [token, [], Bytes.ofNat value]] }

/-- Takes an amount of an instance from an account for good. -/
def burnFrom (holder token : Bytes) (nonce : UInt64) (value : Nat) : Action Unit := do
  let account ← need ((← get).account? holder) .insufficientFunds
  let held ← need (← stored (account.holding? token nonce)) .insufficientFunds
  demand (value ≤ held.value) .insufficientFunds
  put holder (account.saveHolding token nonce { held with value := held.value - value })

def localMint (call : Call) : Action CallOutput := do
  demandSelfCall call
  match call.input.arguments with
  | [token, amount] =>
    demandRole call.input.caller token .localMint
    let value ← positive amount
    let account := (← get).accountOrBlank call.input.caller
    let held := (← stored (account.holding? token 0)).getD (.fungible 0)
    put call.input.caller (account.setHolding token 0 { held with value := held.value + value })
    return supplyChanged call token value
  | _ => refuse .invalidArguments

/-- Takes some of a fungible token from the caller for good. -/
def localBurn (call : Call) : Action CallOutput := do
  demandSelfCall call
  match call.input.arguments with
  | [token, amount] =>
    demandRole call.input.caller token .localBurn
    let value ← positive amount
    burnFrom call.input.caller token 0 value
    return supplyChanged call token value
  | _ => refuse .invalidArguments

/-- The greatest royalties, in hundredths of a percent. -/
def maxRoyalties : UInt64 := 10000

/-- Creates an instance under the next nonce of the caller. -/
def create (call : Call) : Action CallOutput := do
  demandSelfCall call
  match call.input.arguments with
  | token :: amount :: name :: share :: hash :: attributes :: uris@(_ :: _) =>
    let caller := call.input.caller
    demandRole caller token .create
    let quantity ← positive amount
    let royalties := nonceOfBytes share
    demand (share.length ≤ 8 && royalties ≤ maxRoyalties) .royaltiesTooHigh
    let account := (← get).accountOrBlank caller
    let last := account.lastNonce token
    demand (last.toNat + 1 < UInt64.size) .noNonceLeft
    let nonce := last + 1
    let metadata : Metadata := ⟨nonce, name, caller, royalties.toUInt32, hash, uris, attributes⟩
    let created := account.setHolding token nonce ⟨.nonFungible, quantity, [], some metadata⟩
    put caller (created.setLastNonce token nonce)
    return { CallOutput.success with
      returnData := [nonceBytes nonce]
      logs := [event call [token, nonceBytes nonce, Bytes.ofNat quantity]] }
  | _ => refuse .invalidArguments

/-- What the caller holds of the instance it names, if it has a role, and the arguments behind. -/
def ownInstance (call : Call) (role : Role) :
    Action (Bytes × UInt64 × Holding × Bytes × List Bytes) := do
  demandSelfCall call
  match call.input.arguments with
  | token :: number :: argument :: rest =>
    let nonce := nonceOfBytes number
    demandRole call.input.caller token role
    let account ← need ((← get).account? call.input.caller) .noSuchInstance
    let held ← need (← stored (account.holding? token nonce)) .noSuchInstance
    return (token, nonce, held, argument, rest)
  | _ => refuse .invalidArguments

def setOwn (call : Call) (token : Bytes) (nonce : UInt64) (holding : Holding) : Action CallOutput := do
  let account := (← get).accountOrBlank call.input.caller
  put call.input.caller (account.setHolding token nonce holding)
  return .success

/-- Gives the caller more of an instance it holds. -/
def addQuantity (call : Call) : Action CallOutput := do
  let (token, nonce, held, amount, _) ← ownInstance call .addQuantity
  let value ← positive amount
  setOwn call token nonce { held with value := held.value + value }

/-- Takes some of an instance from the caller for good. -/
def burn (call : Call) : Action CallOutput := do
  demandSelfCall call
  match call.input.arguments with
  | [token, number, amount] =>
    demandRole call.input.caller token .burn
    let value ← positive amount
    burnFrom call.input.caller token (nonceOfBytes number) value
    return .success
  | _ => refuse .invalidArguments

/-- Adds links to an instance the caller holds. -/
def addUris (call : Call) : Action CallOutput := do
  let (token, nonce, held, uri, uris) ← ownInstance call .addUri
  let metadata ← need held.metadata .noMetadata
  let metadata := { metadata with uris := metadata.uris ++ uri :: uris }
  setOwn call token nonce { held with metadata := some metadata }

def updateAttributes (call : Call) : Action CallOutput := do
  let (token, nonce, held, attributes, _) ← ownInstance call .updateAttributes
  let metadata ← need held.metadata .noMetadata
  setOwn call token nonce { held with metadata := some { metadata with attributes := attributes } }

/-- Roles with one more granted. -/
def grant (roles : List Bytes) (role : Bytes) : List Bytes :=
  if roles.contains role then roles else roles ++ [role]

/-- Roles with one revoked. -/
def revoke (roles : List Bytes) (role : Bytes) : List Bytes :=
  roles.filter (· != role)

/-- Changes the roles of the recipient for a token, one named role after another. -/
def changeRoles (change : List Bytes → Bytes → List Bytes) (call : Call) : Action CallOutput := do
  demand (call.input.caller == Address.tokenSystem) .notTokenSystem
  match call.input.arguments with
  | token :: role :: named =>
    let account := (← get).accountOrBlank call.recipient
    let held ← stored (account.roles token)
    put call.recipient (account.setRoles token ((role :: named).foldl change held))
    return .success
  | _ => refuse .invalidArguments

end ChainScenario.Builtin
