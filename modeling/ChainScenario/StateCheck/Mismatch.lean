import ChainScenario.Expression.Render
import ChainScenario.Scenario.Account

/-!
# Mismatches of the state

How the ledger differs from what a scenario expects, and how it is told.
-/
namespace ChainScenario.StateCheck

open Expression (render renderList)

/-- A field of an account that differs. -/
inductive FieldMismatch where
  | nonce (want : Check UInt64) (actual : UInt64)
  | balance (want : Check Nat) (actual : Nat)
  | username (want : Check Bytes) (actual : Bytes)
  | code (want : Check Bytes) (actual : Bytes)
  | codeMetadata (want : Check Bytes) (actual : Bytes)
  | owner (want : Check Bytes) (actual : Bytes)
  | developerReward (want : Check Nat) (actual : Nat)
  | asyncCallData (want : Check Bytes) (actual : Bytes)

/-- A storage entry that differs. -/
structure StorageMismatch where
  key : Bytes
  want : Check Bytes
  actual : Bytes

/-- A field of an instance of a token that differs. -/
inductive InstanceMismatch where
  | balance (want : Check Nat) (actual : Nat)
  | creator (want : Check Bytes) (actual : Bytes)
  | royalties (want : Check UInt64) (actual : UInt32)
  | hash (want : Check Bytes) (actual : Bytes)
  | uris (want : ListCheck) (actual : List Bytes)
  | attributes (want : Check Bytes) (actual : Bytes)

/-- What differs in a token. -/
inductive TokenMismatch where
  | ofInstance (nonce : UInt64) (mismatch : InstanceMismatch)
  | lastNonce (want : Check UInt64) (actual : UInt64)
  | unexpectedRole (role : Bytes)
  | missingRole (role : Bytes)
  | frozen (want : Check UInt64) (actual : UInt64)

/-- How the ledger differs from what is expected. -/
inductive Mismatch where
  /-- An account that nobody expects. -/
  | unexpectedAccount (address : Bytes)
  | missingAccount (account : String)
  | field (account : String) (mismatch : FieldMismatch)
  | storage (account : String) (mismatches : List StorageMismatch)
  /-- Tokens of an account, by identifier. -/
  | tokens (account : String) (mismatches : List (Bytes × TokenMismatch))

/-- A text between double quotes. -/
def inQuotes (text : String) : String := "\"" ++ text ++ "\""

/-- The name of a field, what was expected and what is there. -/
def FieldMismatch.parts : FieldMismatch → String × String × String
  | nonce want actual => ("account nonce", inQuotes want.text, inQuotes (toString actual))
  | balance want actual => ("account balance", inQuotes want.text, inQuotes (toString actual))
  | username want actual => ("account username", want.json, inQuotes (render .text actual))
  | code want actual => ("account code", want.json, inQuotes (render .code actual))
  | codeMetadata want actual =>
    ("account code metadata", want.json, inQuotes ("0x" ++ Hex.encode actual))
  | owner want actual => ("account owner", want.json, inQuotes (render .address actual))
  | developerReward want actual =>
    ("account developer rewards", inQuotes want.text, inQuotes (toString actual))
  | asyncCallData want actual =>
    ("async call data", "[" ++ want.text ++ "]", "[" ++ Utf8.decodeLossy actual ++ "]")

/-- A field of an account that differs, in words. -/
def FieldMismatch.message (account : String) (mismatch : FieldMismatch) : String :=
  let (name, want, actual) := mismatch.parts
  s!"bad {name}. Account: {account}. Want: {want}. Have: {actual}"

/-- A storage entry that differs, in words. -/
def StorageMismatch.message (mismatch : StorageMismatch) : String :=
  let key := render .unknown mismatch.key
  let actual := inQuotes (render .unknown mismatch.actual)
  s!"\n  for key {key}: Want: {mismatch.want.json}. Have: {actual}"

/-- The name of a field, what was expected and what is there. -/
def InstanceMismatch.parts : InstanceMismatch → String × String × String
  | balance want actual => ("balance", inQuotes want.text, inQuotes (toString actual))
  | creator want actual => ("creator", want.json, inQuotes (render .address actual))
  | royalties want actual => ("royalties", inQuotes want.text, inQuotes (toString actual))
  | hash want actual => ("hash", want.json, render .unknown actual)
  | uris want actual => ("URI", "[" ++ ListCheck.itemsJson want ++ "]", renderList .text actual)
  | attributes want actual => ("attributes", want.json, inQuotes (render .text actual))

/-- What differs in a token, in words. -/
def TokenMismatch.message (account : String) (token : Bytes) (mismatch : TokenMismatch) : String :=
  let token := Utf8.decodeLossy token
  match mismatch with
  | ofInstance nonce mismatch =>
    let (name, want, actual) := mismatch.parts
    s!"for token: {token}, nonce: {nonce}: Bad {name}. Want: {want}. Have: {actual}"
  | lastNonce want actual =>
    let want := inQuotes want.text
    s!"bad account ESDT last nonce. Account: {account}. Token: {token}. Want: {want}. Have: {actual}"
  | unexpectedRole role =>
    let role := Utf8.decodeLossy role
    s!"unexpected ESDT role. Account: {account}. Token: {token}. Role: {role}"
  | missingRole role =>
    let role := Utf8.decodeLossy role
    s!"missing ESDT role. Account: {account}. Token: {token}. Role: {role}"
  | frozen want actual =>
    let want := inQuotes want.text
    s!"bad ESDT frozen flag. Account: {account}. Token: {token}. Want: {want}. Have: {actual}"

/-- How the ledger differs from what is expected, in words. -/
def Mismatch.message : Mismatch → String
  | unexpectedAccount address => "unexpected account address: " ++ render .address address
  | missingAccount account => s!"account {account} expected but not found after running test"
  | field account mismatch => mismatch.message account
  | storage account mismatches =>
    let lines := String.join (mismatches.map (·.message))
    s!"wrong account storage for account \"{account}\":{lines}"
  | tokens account mismatches =>
    let lines := String.join (mismatches.map fun (token, mismatch) =>
      "\n  " ++ mismatch.message account token)
    s!"mismatch for account \"{account}\":{lines}"

end ChainScenario.StateCheck
