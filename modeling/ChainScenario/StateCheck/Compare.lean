import ChainScenario.Scenario.Basic
import ChainScenario.StateCheck.Mismatch
import ChainScenario.Token.Store

/-!
# Comparing the state

The ledger is compared with the expected accounts field by field. Storage, tokens and instances are
compared under all keys that are listed or there, in increasing order; of two entries under one key
the later one counts.
-/
namespace ChainScenario.StateCheck

open Token (Record Records Holding Metadata)

/-- A mismatch, if what is there was not accepted. -/
def complain (accepted : Bool) (mismatch : α) : List α := if accepted then [] else [mismatch]

def fields (expected : AccountCheck) (account : Account) : List FieldMismatch :=
  complain (expected.nonce.accepts account.nonce) (.nonce expected.nonce account.nonce) ++
  complain (expected.balance.accepts account.balance) (.balance expected.balance account.balance) ++
  complain (expected.username.accepts account.username)
    (.username expected.username account.username) ++
  complain (expected.code.accepts account.code) (.code expected.code account.code) ++
  complain (expected.codeMetadata.accepts account.codeMetadata)
    (.codeMetadata expected.codeMetadata account.codeMetadata) ++
  complain (expected.owner.accepts account.owner) (.owner expected.owner account.owner) ++
  complain (expected.developerReward.accepts account.developerReward)
    (.developerReward expected.developerReward account.developerReward) ++
  complain (expected.asyncCallData.accepts account.asyncCallData)
    (.asyncCallData expected.asyncCallData account.asyncCallData)

/-- The check of storage entries that are not listed. -/
def unlistedEntry (moreAllowed : Bool) : Check Bytes := if moreAllowed then .any else .implied []

/-- The storage entries that differ; entries of the protocol are passed over. -/
def storage (expected : EntriesCheck (Written Bytes × Check Bytes)) (account : Account) :
    List StorageMismatch :=
  match expected with
  | .ignored => []
  | .listed entries moreAllowed =>
    let listed := OrdMap.ofList (entries.map fun (key, check) => (key.value, check))
    let keys := OrdMap.sortedKeys (listed.keys ++ account.storage.keys)
    (keys.filter (!Address.isProtected ·)).flatMap fun key =>
      let want := listed.getD key (unlistedEntry moreAllowed)
      let actual := account.stored key
      complain (want.accepts actual) ⟨key, want, actual⟩

/-- The metadata of an instance that has none. -/
def noMetadata : Metadata := ⟨0, [], [], 0, [], [], []⟩

/-- The fields of an instance that differ; an instance that is not there has an amount of zero. -/
def holding (expected : InstanceCheck) (actual : Option Holding) : List InstanceMismatch :=
  let balance := actual.elim 0 (·.value)
  let metadata := (actual.bind (·.metadata)).getD noMetadata
  complain (expected.balance.accepts balance) (.balance expected.balance balance) ++
  complain (expected.creator.accepts metadata.creator) (.creator expected.creator metadata.creator) ++
  complain (expected.royalties.accepts metadata.royalties.toUInt64)
    (.royalties expected.royalties metadata.royalties) ++
  complain (expected.hash.accepts metadata.hash) (.hash expected.hash metadata.hash) ++
  complain (ListCheck.accepts expected.uris metadata.uris) (.uris expected.uris metadata.uris) ++
  complain (expected.attributes.accepts metadata.attributes)
    (.attributes expected.attributes metadata.attributes)

/-- The instances of a token that differ; those that are not listed must not be there. -/
def instances (expected : List InstanceCheck) (actual : OrdMap UInt64 Holding) :
    List TokenMismatch :=
  let listed := OrdMap.ofList (expected.map fun check => (check.nonce.value, check))
  (OrdMap.sortedKeys (listed.keys ++ actual.keys)).flatMap fun nonce =>
    let want := listed.getD nonce (.absent (.implied nonce))
    (holding want (actual.get? nonce)).map (.ofInstance nonce)

/-- The bytes of one list that are not in another, in increasing order, each once. -/
def without (left right : List Bytes) : List Bytes :=
  (OrdMap.sortedKeys left).filter (!right.contains ·)

/-- What differs in the roles, the last nonce and the frozen flag of a token. -/
def properties (expected : TokenCheck) (actual : Record) : List TokenMismatch :=
  let roles := expected.roles.map Utf8.ofString
  let frozen : UInt64 := if actual.frozen then 1 else 0
  complain (expected.lastNonce.accepts actual.lastNonce)
    (.lastNonce expected.lastNonce actual.lastNonce) ++
  (without actual.roles roles).map .unexpectedRole ++
  (without roles actual.roles).map .missingRole ++
  complain (expected.frozen.accepts frozen) (.frozen expected.frozen frozen)

/-- What is expected of a token that is not listed: no instances and no roles. -/
def unlistedToken (token : Bytes) : TokenCheck :=
  ⟨⟨token, .string (Utf8.decodeLossy token)⟩, [], .unspecified, [], .unspecified⟩

def token (expected : TokenCheck) (actual : Record) : List TokenMismatch :=
  instances expected.instances actual.instances ++ properties expected actual

/-- The tokens that differ, by identifier. -/
def tokens (expected : EntriesCheck TokenCheck) (actual : Records) :
    List (Bytes × TokenMismatch) :=
  match expected with
  | .ignored => []
  | .listed entries moreAllowed =>
    let listed := OrdMap.ofList (entries.map fun check => (check.identifier.value, check))
    (OrdMap.sortedKeys (listed.keys ++ actual.keys)).flatMap fun name =>
      let want := match listed.get? name with
        | some check => some check
        | none => if moreAllowed then none else some (unlistedToken name)
      match want with
      | some want => (token want (actual.getD name .blank)).map fun mismatch => (name, mismatch)
      | none => []

/-- The tokens of an account, unless nothing is expected of them. -/
def heldTokens (world : World) (expected : AccountCheck) : Except Token.Fault Records :=
  match expected.tokens with
  | .ignored => .ok .empty
  | .listed _ _ => world.tokens expected.address.value

def account (world : World) (expected : AccountCheck) : Except World.Fault (List Mismatch) := do
  let name := expected.address.text
  match world.account? expected.address.value with
  | none => return [.missingAccount name]
  | some account =>
    let entries := storage expected.storage account
    -- tokens nobody asks about are not read, so they may be damaged
    let records ← (heldTokens world expected).mapError .tokenStorage
    let differing := tokens expected.tokens records
    return (fields expected account).map (.field name) ++
      complain entries.isEmpty (.storage name entries) ++
      complain differing.isEmpty (.tokens name differing)

/-- The accounts that nobody expects. -/
def unexpected (world : World) (step : CheckState) : List Mismatch :=
  if step.moreAllowed then []
  else
    let strange (address : Bytes) : Bool :=
      address != Address.systemAccount &&
        !step.accounts.any fun expected => expected.address.value == address
    (world.accounts.keys.filter strange).map .unexpectedAccount

/-- How the ledger differs from what a step expects. -/
def compare (world : World) (step : CheckState) : Except World.Fault (List Mismatch) := do
  return unexpected world step ++ (← step.accounts.mapM (account world)).flatten

/-- What the message of every mismatch starts with. -/
def heading (identifier : String) : String :=
  if identifier.isEmpty then "Check state:" else s!"Check state \"{identifier}\":"

/-- All mismatches in words, one behind another. -/
def report (identifier : String) (mismatches : List Mismatch) : String :=
  "\n".intercalate (mismatches.map fun mismatch => heading identifier ++ " " ++ mismatch.message)

end ChainScenario.StateCheck
