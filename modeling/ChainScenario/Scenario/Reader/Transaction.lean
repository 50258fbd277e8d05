import ChainScenario.Scenario.Reader.Value

/-!
# Reading transactions and their expected results

A field that the kind of a transaction forbids is refused, or must be empty.
-/
namespace ChainScenario.Scenario.Reader

open Expression (Context)

/-- Refuses a field unless the kind of the transaction has it. -/
def allowed (field : TransactionField) (kind : Transaction.Kind) (has : Bool)
    (result : Except Fault α) : Except Fault α :=
  if has then result else throw (.forbidden field kind)

/-- Refuses a value that is not empty unless the kind of the transaction has the field. -/
def emptyUnless (field : TransactionField) (kind : Transaction.Kind) (has : Bool)
    (isEmpty : α → Bool) (result : Except Fault α) : Except Fault α := do
  let value ← result
  if has || isEmpty value then return value else throw (.forbidden field kind)

def paymentField (context : Context) : FieldReaders Payment
  | "tokenIdentifier" | "tokenName" =>
    setting (within "invalid ESDT token identifier" <| bytes context ·)
      fun read target => { target with token := read }
  | "nonce" => setting (within "invalid ESDT token nonce" <| word context ·)
      fun read target => { target with nonce := read }
  | "value" => setting (within "invalid ESDT transfer value" <| natural context ·)
      fun read target => { target with value := read }
  | _ => none

/-- A token amount. -/
def payment (context : Context) (value : Json) : Except Fault Payment := do
  readFields .payment (paymentField context) ⟨.implied [], .implied 0, .implied 0⟩
    (← fieldsOf .payment value)

/-- Token amounts: a list or a single one. -/
def payments (context : Context) (value : Json) : Except Fault (List Payment) :=
  match value with
  | .array items => items.mapM (payment context)
  | .object _ => (payment context value).map fun single => [single]
  | _ => throw (.notACollection .payments)

/-- The receiver; the receiver of a deployment is not known yet and must be empty. -/
def receiver (context : Context) (kind : Transaction.Kind) (value : Json) :
    Except Fault (Written Bytes) :=
  if kind.hasReceiver then address context value
  else do
    let text ← emptyUnless .receiver kind false String.isEmpty
      (within "invalid transaction to" (string value))
    return .implied (Utf8.ofString text)

def transactionField (context : Context) (kind : Transaction.Kind) : FieldReaders Transaction
  | "nonce" => setting (within "invalid transaction nonce" <| word context ·)
      fun read target => { target with nonce := some read }
  | "from" => setting (allowed .sender kind kind.hasSender <| address context ·)
      fun read target => { target with sender := read }
  | "to" => setting (receiver context kind)
      fun read target => { target with receiver := read }
  | "function" =>
    setting (emptyUnless .function kind kind.hasFunction String.isEmpty <|
        within "invalid transaction function" <| string ·)
      fun read target => { target with function := read }
  | "value" | "egldValue" =>
    setting (allowed .value kind kind.hasValue <|
        within "invalid transaction egldValue" <| natural context ·)
      fun read target => { target with value := read }
  | "esdt" | "esdtValue" =>
    setting (allowed .payments kind kind.hasTokens <|
        within "invalid transaction esdtValue" <| payments context ·)
      fun read target => { target with payments := read }
  | "arguments" =>
    setting (emptyUnless .arguments kind kind.hasArguments List.isEmpty <|
        within "invalid transaction arguments" <| treeList context ·)
      fun read target => { target with arguments := read }
  | "contractCode" =>
    setting (emptyUnless .code kind kind.hasCode (·.value.isEmpty) <|
        within "invalid transaction contract code" <| bytes context ·)
      fun read target => { target with code := read }
  | "codeMetadata" =>
    setting (emptyUnless .codeMetadata kind kind.hasCode (·.value.isEmpty) <|
        within "invalid transaction contract codeMetadata" <| bytes context ·)
      fun read target => { target with codeMetadata := some read }
  | "gasLimit" =>
    setting (allowed .gasLimit kind kind.hasGas <|
        within "invalid transaction gasLimit" <| word context ·)
      fun read target => { target with gasLimit := read }
  | "gasPrice" =>
    setting (allowed .gasPrice kind kind.hasGas <|
        within "invalid transaction gasPrice" <| word context ·)
      fun read target => { target with gasPrice := read }
  | _ => none

def transaction (context : Context) (kind : Transaction.Kind) (value : Json) :
    Except Fault Transaction := do
  readFields .transaction (transactionField context kind) (.blank kind)
    (← fieldsOf .transaction value)

def logField (context : Context) : FieldReaders LogCheck
  | "address" => setting (within "invalid log address" <| bytesCheck context ·)
      fun read target => { target with address := read }
  | "endpoint" | "identifier" => setting (within "invalid log identifier" <| bytesCheck context ·)
      fun read target => { target with identifier := read }
  | "topics" => setting (within "invalid log entry topics" <| listCheck context ·)
      fun read target => { target with topics := read }
  | "data" => setting (within "invalid log data" <| listCheck context ·)
      fun read target => { target with data := read }
  | _ => none

/-- Reads one item of the expected log: an entry, or the plus sign behind which none may stand. -/
def logItem (context : Context) (read : List LogCheck × Bool) (item : Json) :
    Except Fault (List LogCheck × Bool) :=
  match item with
  | .string "+" => return (read.1, true)
  | .string _ => throw .strayLogText
  | .object fields =>
    if read.2 then throw .entryAfterPlus
    else do
      let entry ← readFields .logEntry (logField context)
        ⟨.unspecified, .unspecified, .unspecified, .unspecified⟩ fields
      return (read.1 ++ [entry], false)
  | _ => throw (.notARecord .logEntry)

/-- The expected log. -/
def logsCheck (context : Context) (value : Json) : Except Fault LogsCheck := do
  if isStar value then return .any
  else
    let (entries, more) ← (← itemsOf .logs value).foldlM (logItem context) ([], false)
    return .entries entries more

def expectationField (context : Context) : FieldReaders Expectation
  | "out" => setting (within "invalid tx expected result out" <| listCheck context ·)
      fun read target => { target with out := read }
  | "status" => setting (within "invalid tx expected result status" <| naturalCheck context ·)
      fun read target => { target with status := read }
  | "message" => setting (within "invalid tx expected result message" <| bytesCheck context ·)
      fun read target => { target with message := read }
  | "logs" => setting (within "invalid tx expected result logs" <| logsCheck context ·)
      fun read target => { target with logs := read }
  | "gas" => setting (within "invalid tx expected result gas" <| wordCheck context ·)
      fun read target => { target with gas := read }
  | "refund" => setting (within "invalid tx expected result refund" <| naturalCheck context ·)
      fun read target => { target with refund := read }
  | _ => none

/-- The expected result; success if nothing else is written. -/
def expectation (context : Context) (value : Json) : Except Fault Expectation := do
  readFields .expectation (expectationField context) .success (← fieldsOf .expectation value)

end ChainScenario.Scenario.Reader
