import ChainScenario.Scenario.Check

/-!
# Transactions of a scenario

What a transaction step sends, and what it expects to happen. A kind of transaction decides which
fields may be written.
-/
namespace ChainScenario

/-- The kinds of transactions. -/
inductive Transaction.Kind where
  /-- Installs new contract code. -/
  | deploy
  /-- Replaces the code of a contract. -/
  | upgrade
  | call
  /-- Calls a function without a sender. -/
  | query
  /-- Moves currency and tokens. -/
  | transfer
  /-- Credits a reward without a sender. -/
  | reward
  deriving DecidableEq, Repr, Inhabited

namespace Transaction.Kind

def all : List Kind := [.deploy, .upgrade, .call, .query, .transfer, .reward]

def name : Kind → String
  | deploy => "scDeploy"
  | upgrade => "scUpgrade"
  | call => "scCall"
  | query => "scQuery"
  | transfer => "transfer"
  | reward => "validatorReward"

def ofName? (name : String) : Option Kind := all.find? (·.name == name)

theorem ofName?_name (kind : Kind) : ofName? kind.name = some kind := by
  cases kind <;> decide

def hasSender : Kind → Bool
  | reward | query => false
  | _ => true

def hasReceiver : Kind → Bool
  | deploy => false
  | _ => true

def hasFunction : Kind → Bool
  | call | query => true
  | _ => false

/-- Whether the transaction carries currency. -/
def hasValue : Kind → Bool
  | query => false
  | _ => true

def hasTokens : Kind → Bool
  | call | deploy | upgrade | transfer => true
  | _ => false

def hasArguments : Kind → Bool
  | transfer | reward => false
  | _ => true

def hasCode : Kind → Bool
  | deploy | upgrade => true
  | _ => false

def hasGas (kind : Kind) : Bool := kind.hasSender

end Transaction.Kind

/-- A token amount a transaction carries. -/
structure Payment where
  token : Written Bytes
  nonce : Written UInt64
  value : Written Nat
  deriving Inhabited

/-- What is sent. -/
structure Transaction where
  kind : Transaction.Kind
  nonce : Option (Written UInt64)
  value : Written Nat
  payments : List Payment
  sender : Written Bytes
  receiver : Written Bytes
  function : String
  code : Written Bytes
  codeMetadata : Option (Written Bytes)
  arguments : List (Written Bytes)
  gasLimit : Written UInt64
  gasPrice : Written UInt64
  deriving Inhabited

/-- A transaction of which only the kind is known. -/
def Transaction.blank (kind : Transaction.Kind) : Transaction where
  kind := kind
  nonce := none
  value := .implied 0
  payments := []
  sender := .implied []
  receiver := .implied []
  function := ""
  code := .implied []
  codeMetadata := none
  arguments := []
  gasLimit := .implied 0
  gasPrice := .implied 0

/-- What is expected of one log entry. -/
structure LogCheck where
  address : Check Bytes
  identifier : Check Bytes
  topics : ListCheck
  data : ListCheck
  deriving Inhabited

/-- What is expected of the log. -/
inductive LogsCheck where
  /-- Nothing was written. -/
  | unspecified
  /-- Any log will do. -/
  | any
  /-- The first entries, and whether more may follow. -/
  | entries (expected : List LogCheck) (moreAllowed : Bool)
  deriving Inhabited

/-- What is expected of the result of a transaction. -/
structure Expectation where
  out : ListCheck
  status : Check Nat
  message : Check Bytes
  logs : LogsCheck
  gas : Check UInt64
  refund : Check Nat

/-- Success with an empty message. -/
def Expectation.success : Expectation where
  out := .unspecified
  status := .implied 0
  message := .implied []
  logs := .unspecified
  gas := .unspecified
  refund := .unspecified

end ChainScenario
