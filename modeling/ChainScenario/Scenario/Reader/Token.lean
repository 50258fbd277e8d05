import ChainScenario.Scenario.Reader.Value

/-!
# Reading tokens of accounts

A token is its balance, or an object with its instances, last nonce, roles and frozen flag. Fields of
an instance that stand in the object itself make up a first instance. Tokens that are set and tokens
that are expected have the same form; only the readers of their values differ.
-/
namespace ChainScenario.Scenario.Reader

open Expression (Context)

/-- Royalties, which are at most the whole. -/
def royaltiesInRange (royalties : Option UInt64) : Except Fault Unit :=
  match royalties with
  | some value => if maxRoyalties < value then .error .royaltiesTooHigh else .ok ()
  | none => .ok ()

def royalties (context : Context) (value : Json) : Except Fault (Written UInt64) := do
  let read ← within "invalid ESDT NFT royalties" (word context value)
  royaltiesInRange read.value
  return read

def royaltiesCheck (context : Context) (value : Json) : Except Fault (Check UInt64) := do
  let read ← within "invalid ESDT NFT royalties" (wordCheck context value)
  royaltiesInRange read.expected?
  return read

/-- The links of an instance: a list, nothing, or a single one. -/
def uris (context : Context) (value : Json) : Except Fault (List (Written Bytes)) :=
  match value with
  | .array _ => treeList context value
  | .string "" => .ok []
  | _ => (treeBytes context value).map fun single => [single]

def instanceSetting (context : Context) : FieldReaders InstanceSetting
  | "nonce" => setting (within "invalid account nonce" <| word context ·)
      fun read target => { target with nonce := read }
  | "balance" => setting (within "invalid ESDT balance" <| natural context ·)
      fun read target => { target with balance := read }
  | "creator" => setting (within "invalid ESDT NFT creator address" <| bytes context ·)
      fun read target => { target with creator := some read }
  | "royalties" => setting (royalties context)
      fun read target => { target with royalties := some read }
  | "hash" => setting (within "invalid ESDT NFT hash" <| bytes context ·)
      fun read target => { target with hash := some read }
  | "uri" => setting (within "invalid ESDT NFT URI" <| uris context ·)
      fun read target => { target with uris := read }
  | "attributes" => setting (within "invalid ESDT NFT attributes" <| treeBytes context ·)
      fun read target => { target with attributes := some read }
  | _ => none

def instanceCheck (context : Context) : FieldReaders InstanceCheck
  | "nonce" => setting (within "invalid account nonce" <| word context ·)
      fun read target => { target with nonce := read }
  | "balance" => setting (within "invalid ESDT balance" <| naturalCheck context ·)
      fun read target => { target with balance := read }
  | "creator" => setting (within "invalid ESDT NFT creator address" <| bytesCheck context ·)
      fun read target => { target with creator := read }
  | "royalties" => setting (royaltiesCheck context)
      fun read target => { target with royalties := read }
  | "hash" => setting (within "invalid ESDT NFT hash" <| bytesCheck context ·)
      fun read target => { target with hash := read }
  | "uri" => setting (within "invalid ESDT NFT URI" <| listCheck context ·)
      fun read target => { target with uris := read }
  | "attributes" => setting (within "invalid ESDT NFT attributes" <| bytesCheck context ·)
      fun read target => { target with attributes := read }
  | _ => none

/-- How tokens of one use are read. -/
structure TokenForm (Instance Counter : Type) where
  /-- An instance of which nothing was written. -/
  blank : Instance
  /-- A counter of which nothing was written. -/
  unwritten : Counter
  /-- The fungible instance with a written balance. -/
  balance : Json → Except Fault Instance
  instanceField : FieldReaders Instance
  /-- The name of the part in which a fault of an item of the instances lies, if it is named. -/
  itemPart : Option String
  counter : Json → Except Fault Counter

/-- A token that is being read: its own fields and a first instance beside the listed ones. -/
structure TokenDraft (Instance Counter : Type) where
  direct : Option Instance
  listed : List Instance
  lastNonce : Counter
  roles : List String
  frozen : Counter

/-- The fields of an instance in the list of instances. -/
def TokenForm.itemField (form : TokenForm ι κ) : FieldReaders ι := fun key =>
  (form.instanceField key).map fun reader value target =>
    match form.itemPart with
    | some part => within part (reader value target)
    | none => reader value target

/-- An item of the list of instances. -/
def TokenForm.item (form : TokenForm ι κ) (value : Json) : Except Fault ι := do
  readFields .tokenInstance form.itemField form.blank (← fieldsOf .tokenInstance value)

def TokenForm.items (form : TokenForm ι κ) (value : Json) : Except Fault (List ι) := do
  (← itemsOf .instances value).mapM form.item

/-- The fields of a token: those of an instance and those of its own. -/
def TokenForm.field (form : TokenForm ι κ) : FieldReaders (TokenDraft ι κ) := fun key =>
  match form.instanceField key with
  | some reader => some fun value draft => do
    -- fields beside the list write into one instance of their own
    let direct ← within "invalid account ESDT instance field"
      (reader value (draft.direct.getD form.blank))
    return { draft with direct := some direct }
  | none =>
    match key with
    | "instances" => setting (within "invalid account ESDT instances" <| form.items ·)
        fun read draft => { draft with listed := read }
    | "lastNonce" => setting (within "invalid account ESDT lastNonce" <| form.counter ·)
        fun read draft => { draft with lastNonce := read }
    | "roles" => setting (within "invalid account ESDT roles" <| strings ·)
        fun read draft => { draft with roles := read }
    | "frozen" => setting (within "invalid ESDT frozen flag" <| form.counter ·)
        fun read draft => { draft with frozen := read }
    | _ => none

def TokenForm.read (form : TokenForm ι κ) (identifier : Written Bytes) (value : Json) :
    Except Fault (TokenEntry ι κ) :=
  match value with
  | .string _ => do
    let only ← within "invalid ESDT balance" (form.balance value)
    return ⟨identifier, [only], form.unwritten, [], form.unwritten⟩
  | .object fields => do
    let draft ← readFields .token form.field ⟨none, [], form.unwritten, [], form.unwritten⟩ fields
    return ⟨identifier, draft.direct.toList ++ draft.listed, draft.lastNonce, draft.roles,
      draft.frozen⟩
  | _ => throw (.notARecord .token)

def settingForm (context : Context) : TokenForm InstanceSetting (Option (Written UInt64)) where
  blank := .blank
  unwritten := none
  balance value := (natural context value).map fun read => { InstanceSetting.blank with balance := read }
  instanceField := instanceSetting context
  itemPart := none
  counter value := (word context value).map some

def checkForm (context : Context) : TokenForm InstanceCheck (Check UInt64) where
  blank := .blank (.implied 0)
  unwritten := .unspecified
  balance value := (naturalCheck context value).map fun read =>
    { InstanceCheck.blank (.implied 0) with balance := read }
  instanceField := instanceCheck context
  itemPart := some "invalid account ESDT instance field in instances list"
  counter := wordCheck context

def tokenSetting (context : Context) : Written Bytes → Json → Except Fault TokenSetting :=
  (settingForm context).read

def tokenCheck (context : Context) : Written Bytes → Json → Except Fault TokenCheck :=
  (checkForm context).read

end ChainScenario.Scenario.Reader
