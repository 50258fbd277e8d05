import ChainScenario.Address
import ChainScenario.Hash.Blake3
import ChainScenario.Ledger.Fault
import ChainScenario.OrdMap

/-!
# Accounts

An account of the ledger: its currency, its code and its storage. A key that is not stored reads as the
empty value; `save` keeps no entry for an empty value, while `put` stores whatever it is given. The
balance is never negative.
-/
namespace ChainScenario

/-- An account. -/
structure Account where
  address : Bytes
  nonce : UInt64
  balance : Nat
  /-- The change of the balance since the last commit. -/
  balanceDelta : Int
  storage : OrdMap Bytes Bytes
  code : Bytes
  codeHash : Bytes
  codeMetadata : Bytes
  owner : Bytes
  asyncCallData : Bytes
  username : Bytes
  developerReward : Nat
  shard : UInt32
  isContract : Bool
  deriving Inhabited

namespace Account

/-- The account without contents at an address. -/
def blank (address : Bytes) : Account :=
  ⟨address, 0, 0, 0, .empty, [], [], [], [], [], [], 0, 0, false⟩

/-- The metadata of contracts for which none is given: upgradeable, readable, payable by
contracts. -/
def defaultCodeMetadata : Bytes := [0x05, 0x06]

/-- The account with other code; its hash follows the code. -/
def withCode (account : Account) (code : Bytes) : Account :=
  { account with
    code := code
    codeHash := if code.isEmpty then [] else Blake3.digest code
    isContract := !code.isEmpty }

/-- The value stored under a key, nothing if there is none. -/
def stored (account : Account) (key : Bytes) : Bytes := account.storage.getD key []

def put (account : Account) (key value : Bytes) : Account :=
  { account with storage := account.storage.insert key value }

def remove (account : Account) (key : Bytes) : Account :=
  { account with storage := account.storage.erase key }

/-- The account with a value stored under a key; the empty value removes the key. -/
def save (account : Account) (key value : Bytes) : Account :=
  if value.isEmpty then account.remove key else account.put key value

def addToBalance (account : Account) (delta : Int) : Except World.Fault Account :=
  let balance := account.balance + delta
  if balance < 0 then .error .insufficientFunds
  else .ok { account with
    balance := balance.toNat
    balanceDelta := account.balanceDelta + delta }

def takeFromBalance (account : Account) (value : Nat) : Except World.Fault Account :=
  if account.balance < value then .error .insufficientFunds
  else .ok { account with
    balance := account.balance - value
    balanceDelta := account.balanceDelta - value }

/-- An account that has sent a transaction: its nonce is one higher, and its gas is paid if the
balance covers it. -/
def afterSending (account : Account) (cost : Nat) : Account :=
  { account with
    nonce := account.nonce + 1
    balance := if cost ≤ account.balance then account.balance - cost else account.balance }

/-- Whether address, code and owner fit together. -/
def validate (account : Account) : Except World.Fault Unit :=
  let defect (d : Bytes → AccountDefect) := Except.error (.invalidAccount (d account.address))
  if account.address.length ≠ Address.length then defect fun _ => .addressLength
  else if Address.isContract account.address then
    if account.code.isEmpty then defect .codeMissing
    else if account.owner.isEmpty then defect .ownerMissing
    else .ok ()
  else if account.code.isEmpty then .ok ()
  else defect .codeMisplaced

end Account
end ChainScenario
