import ChainScenario.Scenario.Reader.Token

/-!
# Reading accounts, blocks and deployment addresses
-/
namespace ChainScenario.Scenario.Reader

open Expression (Context)

/-- The tokens of an account to be set, in the order they are written. -/
def tokens (context : Context) (value : Json) : Except Fault (List TokenSetting) := do
  (← entriesOf .tokens value).mapM fun (name, token) => do
    let identifier ← within "invalid ESDT token name" (bytes context (.string name))
    within "invalid ESDT data" (tokenSetting context identifier token)

def storage (context : Context) (value : Json) :
    Except Fault (List (Written Bytes × Written Bytes)) := do
  (← entriesOf .storage value).mapM fun (key, stored) => do
    let key ← within "invalid account storage key" (bytes context (.string key))
    let stored ← within "invalid account storage value" (treeBytes context stored)
    return (key, stored)

/-- Data of an asynchronous call, which is plain text. -/
def plainBytes (value : Json) : Except Fault (Written Bytes) := do
  return ⟨Utf8.ofString (← string value), value⟩

def accountSetting (context : Context) : FieldReaders AccountSetting
  | "comment" => setting (within "invalid account comment" <| string ·)
      fun read target => { target with comment := some read }
  | "update" => setting (within "invalid account update flag" <| bool ·)
      fun read target => { target with update := read }
  | "nonce" => setting (within "invalid account nonce" <| word context ·)
      fun read target => { target with nonce := some read }
  | "balance" => setting (within "invalid account balance" <| natural context ·)
      fun read target => { target with balance := some read }
  | "esdt" => setting (tokens context)
      fun read target => { target with tokens := read }
  | "username" => setting (within "invalid account username" <| bytes context ·)
      fun read target => { target with username := some read }
  | "storage" => setting (storage context)
      fun read target => { target with storage := read }
  | "code" => setting (within "invalid account code" <| bytes context ·)
      fun read target => { target with code := some read }
  | "codeMetadata" => setting (within "invalid account code metadata" <| bytes context ·)
      fun read target => { target with codeMetadata := some read }
  | "owner" => setting (within "invalid account owner" <| bytes context ·)
      fun read target => { target with owner := some read }
  | "developerRewards" =>
      setting (within "invalid account developer rewards" <| natural context ·)
        fun read target => { target with developerReward := some read }
  | "shard" => setting (within "invalid account shard" <| word context ·)
      fun read target => { target with shard := some read }
  | "asyncCallData" => setting (within "invalid asyncCallData string" <| plainBytes ·)
      fun read target => { target with asyncCallData := some read }
  | _ => none

/-- The accounts to be set, by address. -/
def accounts (context : Context) (value : Json) : Except Fault (List AccountSetting) := do
  (← entriesOf .accounts value).mapM fun (name, account) => do
    let owner ← address context (.string name)
    readFields .account (accountSetting context) { address := owner }
      (← fieldsOf .account account)

/-- The mark of maps that allow entries beyond the listed ones. -/
def moreAllowed : String := "+"

/-- Reads the entries of a map except the mark that allows more, and whether it is there. -/
def listedEntries (read : String × Json → Except Fault α) (entries : List (String × Json)) :
    Except Fault (List α × Bool) := do
  let listed ← (entries.filter (·.1 != moreAllowed)).mapM read
  return (listed, entries.any (·.1 == moreAllowed))

def entriesCheck (read : String × Json → Except Fault α) (value : Json) :
    Except Fault (EntriesCheck α) := do
  if isStar value then return .ignored
  else
    let (listed, more) ← listedEntries read (← entriesOf .plainMap value)
    return .listed listed more

def storageCheck (context : Context) (entry : String × Json) :
    Except Fault (Written Bytes × Check Bytes) := do
  let key ← within "invalid account storage key" (bytes context (.string entry.1))
  let value ← within "invalid account storage value" (bytesCheck context entry.2)
  return (key, value)

def namedTokenCheck (context : Context) (entry : String × Json) : Except Fault TokenCheck := do
  let identifier ← within "invalid ESDT token name" (bytes context (.string entry.1))
  tokenCheck context identifier entry.2

def accountCheck (context : Context) : FieldReaders AccountCheck
  | "comment" => setting (within "invalid account comment" <| string ·)
      fun read target => { target with comment := some read }
  | "nonce" => setting (within "invalid account nonce" <| wordCheck context ·)
      fun read target => { target with nonce := read }
  | "balance" => setting (within "invalid account balance" <| naturalCheck context ·)
      fun read target => { target with balance := read }
  | "esdt" => setting (within "invalid check ESDT" <| entriesCheck (namedTokenCheck context) ·)
      fun read target => { target with tokens := read }
  | "username" => setting (within "invalid account username" <| bytesCheck context ·)
      fun read target => { target with username := read }
  | "storage" => setting (within "invalid account storage" <| entriesCheck (storageCheck context) ·)
      fun read target => { target with storage := read }
  | "code" => setting (within "invalid account code" <| bytesCheck context ·)
      fun read target => { target with code := read }
  | "codeMetadata" => setting (within "invalid account code metadata" <| bytesCheck context ·)
      fun read target => { target with codeMetadata := read }
  | "owner" => setting (within "invalid account owner" <| bytesCheck context ·)
      fun read target => { target with owner := read }
  | "developerRewards" =>
      setting (within "invalid account developer rewards" <| naturalCheck context ·)
        fun read target => { target with developerReward := read }
  | "asyncCallData" => setting (within "invalid asyncCallData" <| check plainBytes ·)
      fun read target => { target with asyncCallData := read }
  | _ => none

/-- The expected accounts, and whether there may be others. -/
def accountChecks (context : Context) (value : Json) : Except Fault (List AccountCheck × Bool) := do
  listedEntries (fun (name, account) => do
    let owner ← address context (.string name)
    readFields .accountCheck (accountCheck context) { address := owner }
      (← fieldsOf .accountCheck account)) (← entriesOf .accountChecks value)

def blockSetting (context : Context) : FieldReaders BlockSetting
  | "blockTimestamp" => setting (within "invalid blockTimestamp" <| word context ·)
      fun read target => { target with timestamp := some read }
  | "blockNonce" => setting (within "invalid blockNonce" <| word context ·)
      fun read target => { target with nonce := some read }
  | "blockRound" => setting (within "invalid blockRound" <| word context ·)
      fun read target => { target with round := some read }
  | "blockEpoch" => setting (within "invalid blockEpoch" <| word context ·)
      fun read target => { target with epoch := some read }
  | "blockRandomSeed" => setting (within "invalid blockRandomSeed" <| treeBytes context ·)
      fun read target => { target with randomSeed := some read }
  | _ => none

/-- A block to be set; a field with an empty text counts as not written. -/
def block (context : Context) (value : Json) : Except Fault BlockSetting := do
  let fields ← fieldsOf .block value
  readFields .block (blockSetting context) {} (fields.filter (·.2.asString? != some ""))

/-- The entry of a new address that is being read. -/
structure MockDraft where
  creator : Option (Written Bytes) := none
  nonce : Option (Written UInt64) := none
  address : Option (Written Bytes) := none

def mockField (context : Context) : FieldReaders MockDraft
  | "creatorAddress" => setting (within "invalid creator address" <| address context ·)
      fun read target => { target with creator := some read }
  | "creatorNonce" => setting (within "invalid creator nonce" <| word context ·)
      fun read target => { target with nonce := some read }
  | "newAddress" => setting (within "invalid new address" <| address context ·)
      fun read target => { target with address := some read }
  | _ => none

/-- The entry of a new address, of which no field may be missing. -/
def addressMock (context : Context) (value : Json) : Except Fault AddressMock := do
  let draft ← readFields .newAddress (mockField context) {} (← fieldsOf .newAddress value)
  match draft with
  | ⟨some creator, some nonce, some address⟩ => return ⟨creator, nonce, address⟩
  | _ => throw .incompleteNewAddress

def addressMocks (context : Context) (value : Json) : Except Fault (List AddressMock) := do
  (← itemsOf .newAddresses value).mapM (addressMock context)

end ChainScenario.Scenario.Reader
