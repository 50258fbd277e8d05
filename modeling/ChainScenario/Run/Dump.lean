import ChainScenario.Expression.Render
import ChainScenario.Json.Writer
import ChainScenario.Token.Store

/-!
# Dumps

The accounts of the ledger as JSON, in the form in which a scenario sets them.
-/
namespace ChainScenario.Dump

open Expression (render)
open Token (Record Records Holding Metadata)

/-- A field, if there is something to show. -/
def fieldIf (shown : Bool) (name : String) (value : Json) : List (String × Json) :=
  if shown then [(name, value)] else []

def number (value : Nat) : Json := .string (toString value)

/-- The fields of metadata that are not empty. -/
def metadataFields (metadata : Metadata) : List (String × Json) :=
  fieldIf (!metadata.creator.isEmpty) "creator" (.string (render .address metadata.creator)) ++
  fieldIf (metadata.royalties != 0) "royalties" (number metadata.royalties.toNat) ++
  fieldIf (!metadata.hash.isEmpty) "hash" (.string (render .unknown metadata.hash)) ++
  fieldIf (!metadata.uris.isEmpty) "uri"
    (.array (metadata.uris.map fun uri => .string (render .text uri))) ++
  fieldIf (!metadata.attributes.isEmpty) "attributes"
    (.string (render .unknown metadata.attributes))

def instanceJson (nonce : UInt64) (holding : Holding) : Json :=
  .ofFields ([("nonce", number nonce.toNat), ("balance", number holding.value)] ++
    (holding.metadata.map metadataFields).getD [])

def tokenJson (record : Record) : Json :=
  .ofFields (
    [("instances", .array (record.instances.toList.map fun entry =>
      instanceJson entry.1 entry.2))] ++
    fieldIf (record.lastNonce != 0) "lastNonce" (number record.lastNonce.toNat) ++
    fieldIf (!record.roles.isEmpty) "roles"
      (.array (record.roles.map fun role => .string (Utf8.decodeLossy role))) ++
    fieldIf record.frozen "frozen" (.string "true"))

def tokensJson (records : Records) : Json :=
  .ofFields (records.toList.map fun entry =>
    ("str:" ++ Utf8.decodeLossy entry.1, tokenJson entry.2))

/-- The storage of an account without the entries of the protocol. -/
def storageJson (account : Account) : Json :=
  let shown := account.storage.toList.filter fun entry =>
    !Address.isProtected entry.1 && !entry.2.isEmpty
  .ofFields (shown.map fun entry =>
    (render .unknown entry.1, .string (render .unknown entry.2)))

def accountJson (account : Account) (records : Records) : Json :=
  .ofFields (
    [("nonce", number account.nonce.toNat), ("balance", number account.balance)] ++
    fieldIf (!records.isEmpty) "esdt" (tokensJson records) ++
    [("storage", storageJson account)] ++
    fieldIf (!account.owner.isEmpty) "owner" (.string (render .address account.owner)))

/-- All accounts of the ledger by address. -/
def worldJson (world : World) : Except Token.Fault Json := do
  let entries ← world.accounts.toList.mapM fun (address, account) => do
    return (render .address address, accountJson account (← world.tokens address))
  return .ofFields entries

end ChainScenario.Dump
