import ChainScenario.Scenario.Check

/-!
# Accounts of a scenario

Accounts as a scenario sets them and as it expects them. A token of an account has numbered
instances; instance zero is the fungible one.
-/
namespace ChainScenario

/-- What a scenario says of a token of an account. -/
structure TokenEntry (Instance Counter : Type) where
  identifier : Written Bytes
  instances : List Instance
  lastNonce : Counter
  roles : List String
  frozen : Counter

/-- An instance of a token to be set. -/
structure InstanceSetting where
  nonce : Written UInt64
  balance : Written Nat
  creator : Option (Written Bytes)
  royalties : Option (Written UInt64)
  hash : Option (Written Bytes)
  uris : List (Written Bytes)
  attributes : Option (Written Bytes)

/-- An instance of which nothing was written. -/
def InstanceSetting.blank : InstanceSetting :=
  ⟨.implied 0, .implied 0, none, none, none, [], none⟩

abbrev TokenSetting := TokenEntry InstanceSetting (Option (Written UInt64))

/-- An account to be set: replaced as a whole, or only updated in what is written. -/
structure AccountSetting where
  address : Written Bytes
  comment : Option String := none
  update : Bool := false
  nonce : Option (Written UInt64) := none
  balance : Option (Written Nat) := none
  tokens : List TokenSetting := []
  username : Option (Written Bytes) := none
  storage : List (Written Bytes × Written Bytes) := []
  code : Option (Written Bytes) := none
  codeMetadata : Option (Written Bytes) := none
  owner : Option (Written Bytes) := none
  developerReward : Option (Written Nat) := none
  shard : Option (Written UInt64) := none
  asyncCallData : Option (Written Bytes) := none

/-- What is expected of an instance of a token. -/
structure InstanceCheck where
  nonce : Written UInt64
  balance : Check Nat
  creator : Check Bytes
  royalties : Check UInt64
  hash : Check Bytes
  uris : ListCheck
  attributes : Check Bytes

/-- An instance of which nothing is expected. -/
def InstanceCheck.blank (nonce : Written UInt64) : InstanceCheck :=
  ⟨nonce, .unspecified, .unspecified, .unspecified, .unspecified, .unspecified, .unspecified⟩

/-- An instance that must not be there. -/
def InstanceCheck.absent (nonce : Written UInt64) : InstanceCheck :=
  { blank nonce with balance := .implied 0 }

abbrev TokenCheck := TokenEntry InstanceCheck (Check UInt64)

/-- What is expected of a set of entries. -/
inductive EntriesCheck (α : Type) where
  /-- Nothing. -/
  | ignored
  /-- The listed entries, and whether there may be others. -/
  | listed (entries : List α) (moreAllowed : Bool)

/-- What is expected of an account. -/
structure AccountCheck where
  address : Written Bytes
  comment : Option String := none
  nonce : Check UInt64 := .unspecified
  balance : Check Nat := .unspecified
  username : Check Bytes := .unspecified
  code : Check Bytes := .unspecified
  codeMetadata : Check Bytes := .unspecified
  owner : Check Bytes := .unspecified
  developerReward : Check Nat := .unspecified
  asyncCallData : Check Bytes := .unspecified
  storage : EntriesCheck (Written Bytes × Check Bytes) := .ignored
  tokens : EntriesCheck TokenCheck := .ignored

/-- Fields of a block to be set; the others keep their values. -/
structure BlockSetting where
  timestamp : Option (Written UInt64) := none
  nonce : Option (Written UInt64) := none
  round : Option (Written UInt64) := none
  epoch : Option (Written UInt64) := none
  randomSeed : Option (Written Bytes) := none

/-- The address a deployment must have. -/
structure AddressMock where
  creator : Written Bytes
  nonce : Written UInt64
  address : Written Bytes

end ChainScenario
