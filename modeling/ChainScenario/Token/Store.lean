import ChainScenario.Ledger.World
import ChainScenario.Token.Key

/-!
# Tokens of accounts

Tokens are kept in the storage of accounts. A record gathers all that an account holds of a token.
-/
namespace ChainScenario

namespace Account

open Token

/-- Reads what is stored under a key; nothing and the empty value read as `fallback`. -/
def decoded (account : Account) (key : Bytes) (reader : Codec.Reader α) (fallback : α) :
    Except Token.Fault α :=
  let stored := account.stored key
  if stored.isEmpty then .ok fallback else readAll reader stored

def holding? (account : Account) (token : Bytes) (nonce : UInt64) :
    Except Token.Fault (Option Holding) :=
  account.decoded (holdingKey token nonce) (some <$> Holding.reader) none

/-- The amount the account holds of an instance. -/
def tokenBalance (account : Account) (token : Bytes) (nonce : UInt64) : Except Token.Fault Nat :=
  (account.holding? token nonce).map fun holding => holding.elim 0 (·.value)

def setHolding (account : Account) (token : Bytes) (nonce : UInt64) (holding : Holding) : Account :=
  account.put (holdingKey token nonce) holding.write

/-- The account with a holding set, or removed if its amount is zero. -/
def saveHolding (account : Account) (token : Bytes) (nonce : UInt64) (holding : Holding) :
    Account :=
  if holding.value = 0 then account.remove (holdingKey token nonce)
  else account.setHolding token nonce holding

def lastNonce (account : Account) (token : Bytes) : UInt64 :=
  nonceOfBytes (account.stored (lastNonceKey token))

/-- The account with a last nonce set. -/
def setLastNonce (account : Account) (token : Bytes) (nonce : UInt64) : Account :=
  account.save (lastNonceKey token) (nonceBytes nonce)

def roles (account : Account) (token : Bytes) : Except Token.Fault (List Bytes) :=
  account.decoded (rolesKey token) rolesReader []

def setRoles (account : Account) (token : Bytes) (roles : List Bytes) : Account :=
  if roles.isEmpty then account.remove (rolesKey token)
  else account.put (rolesKey token) (writeRoles roles)

def hasRole (account : Account) (token role : Bytes) : Except Token.Fault Bool :=
  (account.roles token).map (·.contains role)

end Account

namespace Token

/-- The bytes behind a beginning. -/
def behind? (start bytes : Bytes) : Option Bytes :=
  if start.isPrefixOf bytes then some (bytes.drop start.length) else none

abbrev Records := OrdMap Bytes Record

def Records.update (records : Records) (token : Bytes) (change : Record → Record) : Records :=
  records.insert token (change (records.getD token .blank))

def Records.include (records : Records) (entry : Bytes × Bytes) : Except Fault Records :=
  let (key, value) := entry
  -- a key without a value is as good as no key
  if value.isEmpty then .ok records
  else
    match behind? holdingMark key with
    | some rest => do
      let (token, nonce) := splitKey rest
      let holding ← readAll Holding.reader value
      return records.update token fun record =>
        { record with
          instances := record.instances.insert nonce holding
          frozen := record.frozen || holding.isFrozen }
    | none =>
      match behind? rolesMark key with
      | some token => do
        let roles ← readAll rolesReader value
        return records.update token fun record => { record with roles := roles }
      | none =>
        match behind? nonceMark key with
        | some token =>
          return records.update token fun record => { record with lastNonce := nonceOfBytes value }
        | none => return records

end Token

def Account.tokens (account : Account) : Except Token.Fault Token.Records :=
  account.storage.toList.foldlM Token.Records.include .empty

namespace World

open Token

/-- A holding with metadata from the system account if it has none of its own. -/
def withSharedMetadata (system : Option Account) (token : Bytes) (nonce : UInt64)
    (holding : Holding) : Except Token.Fault Holding :=
  match holding.metadata, system with
  | none, some system =>
    if nonce = 0 then .ok holding
    else do
      let shared ← system.holding? token nonce
      return { holding with metadata := shared.bind (·.metadata) }
  | _, _ => .ok holding

/-- All that an account holds of tokens; instances without metadata borrow that of the system
account. -/
def tokens (world : World) (address : Bytes) : Except Token.Fault Records :=
  match world.account? address with
  | none => .ok .empty
  | some account => do
    let system := world.account? Address.systemAccount
    (← account.tokens).mapValuesM fun token record => do
      let instances ← record.instances.mapValuesM (withSharedMetadata system token)
      return { record with instances := instances }

end World
end ChainScenario
