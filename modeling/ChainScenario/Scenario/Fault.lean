import ChainScenario.Expression.Fault
import ChainScenario.Scenario.Basic

/-!
# Faults of scenarios

What can be wrong with a scenario file, with the wording that a test author reads. A fault of a part
is told behind the name of the part.
-/
namespace ChainScenario

namespace Scenario

/-- The objects of a scenario that have named fields. -/
inductive Record where
  | scenario
  | step
  | account
  | accountCheck
  | token
  | tokenInstance
  | block
  | newAddress
  | transaction
  | payment
  | expectation
  | logEntry
  deriving DecidableEq, Repr

/-- The lists and maps of a scenario. -/
inductive Collection where
  | steps
  | accounts
  | accountChecks
  | tokens
  | storage
  | newAddresses
  | instances
  | payments
  | logs
  | plainMap
  | plainList
  deriving DecidableEq, Repr

/-- Fields that are tied to the kind of a transaction. -/
inductive TransactionField where
  | sender
  | receiver
  | function
  | value
  | payments
  | arguments
  | code
  | codeMetadata
  | gasLimit
  | gasPrice
  deriving DecidableEq, Repr

/-- What is wrong with a scenario. -/
inductive Fault where
  /-- The file is not JSON. -/
  | notJson (cause : Json.Fault)
  /-- An expression stands for no value. -/
  | expression (cause : Expression.Fault)
  /-- A value is not the object it should be. -/
  | notARecord (record : Record)
  /-- A value is not the list or map it should be. -/
  | notACollection (collection : Collection)
  /-- A value is not a string. -/
  | notAString
  /-- A value is neither true nor false. -/
  | notABool
  /-- A log entry is a string other than the plus sign. -/
  | strayLogText
  /-- A log entry stands behind the plus sign. -/
  | entryAfterPlus
  /-- An object has a field that it must not have. -/
  | unknownField (record : Record) (key : String)
  | unknownGasSchedule (name : String)
  | unknownStep (name : String)
  /-- A step does not tell its kind. -/
  | untypedStep
  /-- A transaction step holds no transaction. -/
  | missingTransaction
  /-- An external step names no file. -/
  | missingPath
  | incompleteNewAddress
  | forbidden (field : TransactionField) (kind : Transaction.Kind)
  /-- A number does not fit 64 bits. -/
  | tooLarge (number : String)
  | addressLength
  /-- The royalties of a token are more than the whole. -/
  | royaltiesTooHigh
  /-- A part of the scenario is wrong. -/
  | within (part : String) (cause : Fault)

end Scenario

/-- The greatest royalties, in hundredths of a percent. -/
def maxRoyalties : UInt64 := 10000

namespace Scenario

/-- The complaint about a value that should be an object with named fields. -/
def Record.misshapen : Record → String
  | .scenario => "scenario file is not a JSON object"
  | .step => "step is not a map"
  | .account => "unmarshalled account object is not a map"
  | .accountCheck => "unmarshalled check account object is not a map"
  | .token => "invalid JSON object for ESDT"
  | .tokenInstance => "JSON map expected as esdt instances list item"
  | .block => "unmarshalled block info object is not a map"
  | .newAddress => "new address entry is not a map"
  | .transaction => "unmarshalled transaction is not a map"
  | .payment => "wrong ESDT transfer format, map expected"
  | .expectation => "unmarshalled expected result is not a map"
  | .logEntry => "log entry should be either string or object"

def Record.unknownField (record : Record) (key : String) : String :=
  match record with
  | .scenario => s!"unknown scenario field: {key}"
  | .step => s!"unknown step field: {key}"
  | .account => s!"unknown account field: {key}"
  | .accountCheck => s!"unknown check account field: {key}"
  | .token => s!"unknown ESDT data field: {key}"
  | .tokenInstance =>
    "invalid account ESDT instance field in instances list: `" ++ key ++ "`"
  | .block => s!"unknown block info field: {key}"
  | .newAddress => s!"unknown new address field: {key}"
  | .transaction => s!"unknown field in transaction: {key}"
  | .payment => s!"unknown transaction ESDT data field: {key}"
  | .expectation => s!"unknown tx expected result field: {key}"
  | .logEntry => s!"unknown log field: {key}"

/-- The complaint about a value that should be a list or a map. -/
def Collection.misshapen : Collection → String
  | .steps => "steps not a JSON list"
  | .accounts => "unmarshalled accounts object is not a map"
  | .accountChecks => "unmarshalled check accounts object is not a map"
  | .tokens => "invalid ESDT map: not a JSON map"
  | .storage => "invalid account storage"
  | .newAddresses => "new addresses object is not a list"
  | .instances => "esdt instances object is not a list"
  | .payments => "wrong ESDT transfer format, list expected"
  | .logs => "unmarshalled logs list is not a list"
  | .plainMap => "not a JSON map"
  | .plainList => "not a JSON list"

def TransactionField.forbidden (field : TransactionField) (kind : Transaction.Kind) : String :=
  match field with
  | .sender => "`from` not allowed in transaction, it is always the zero address"
  | .receiver => s!"transaction to field not allowed for {kind.name} transactions"
  | .function => "transaction function field not allowed in this context"
  | .value => "`egldValue` not allowed in this context"
  | .payments => "`esdtValue` not allowed in this context"
  | .arguments => s!"function arguments not allowed for {kind.name} transactions"
  | .code =>
    "transaction contractCode field only allowed in scDeploy or scUpgrade transactions"
  | .codeMetadata =>
    "transaction codeMetadata field only allowed in scDeploy or scUpgrade transactions"
  | .gasLimit => "`gasLimit` not allowed in this context"
  | .gasPrice => "`gasPrice` not allowed in this context"

/-- What is wrong with a scenario, in words. -/
def Fault.message : Fault → String
  | .notJson cause => s!"invalid JSON: {cause.message}"
  | .expression cause => cause.message
  | .notARecord record => record.misshapen
  | .notACollection collection => collection.misshapen
  | .notAString => "not a string value"
  | .notABool => "not a bool value"
  | .strayLogText => "unmarshalled log entry is an invalid string"
  | .entryAfterPlus => "log entries not allowed after \"+\""
  | .unknownField record key => record.unknownField key
  | .unknownGasSchedule name => s!"invalid gas schedule: {name}"
  | .unknownStep name => s!"unknown step type: {name}"
  | .untypedStep => "step type not specified"
  | .missingTransaction => "tx field missing"
  | .missingPath => "external steps path missing"
  | .incompleteNewAddress =>
    "new address entry requires creatorAddress, creatorNonce and newAddress"
  | .forbidden field kind => field.forbidden kind
  | .tooLarge number => s!"value too large for uint64: {number}"
  | .addressLength => "account address is not 32 bytes in length"
  | .royaltiesTooHigh =>
    s!"invalid ESDT NFT royalties: value exceeds maximum allowed {maxRoyalties}"
  | .within part cause => s!"{part}: {cause.message}"

end Scenario
end ChainScenario
