import ChainScenario.Proofs.Nesting

/-!
# Fields of objects

Which fields an object of a scenario may have, and which objects of a document are read by the names of
their fields. Main statement: `unknown_field`, a document with any other field is no scenario; only an
empty text in a block is passed over, whatever its name.
-/
namespace ChainScenario.Scenario

open Expression (Context)

/-! ## Names of fields -/

/-- The fields that every step may have. -/
def commonNames : List String := ["step", "id", "comment"]

/-- The fields of an instance of a token. -/
def instanceNames : List String :=
  ["nonce", "balance", "creator", "royalties", "hash", "uri", "attributes"]

/-- The fields of a step with a name. -/
def stepNames : String → List String
  | "setState" =>
    ["accounts", "newAddresses", "previousBlockInfo", "currentBlockInfo", "blockHashes"] ++ commonNames
  | "checkState" => "accounts" :: commonNames
  | "externalSteps" => ["path", "traceGas"] ++ commonNames
  | "dumpState" => commonNames
  | name =>
    if (Transaction.Kind.ofName? name).isSome then
      ["txId", "displayLogs", "tx", "expect"] ++ commonNames
    else []

/-- The fields that an object may have; those of a step depend on what it says it is. -/
def Record.names (fields : List (String × Json)) : Record → List String
  | .scenario => ["name", "comment", "checkGas", "traceGas", "gasSchedule", "steps"]
  | .step =>
    match Json.field? "step" fields with
    | some (.string name) => stepNames name
    | _ => []
  | .account =>
    ["comment", "update", "nonce", "balance", "esdt", "username", "storage", "code", "codeMetadata",
      "owner", "developerRewards", "shard", "asyncCallData"]
  | .accountCheck =>
    ["comment", "nonce", "balance", "esdt", "username", "storage", "code", "codeMetadata", "owner",
      "developerRewards", "asyncCallData"]
  | .token => instanceNames ++ ["instances", "lastNonce", "roles", "frozen"]
  | .tokenInstance => instanceNames
  | .block => ["blockTimestamp", "blockNonce", "blockRound", "blockEpoch", "blockRandomSeed"]
  | .newAddress => ["creatorAddress", "creatorNonce", "newAddress"]
  | .transaction =>
    ["nonce", "from", "to", "function", "value", "egldValue", "esdt", "esdtValue", "arguments",
      "contractCode", "codeMetadata", "gasLimit", "gasPrice"]
  | .payment => ["tokenIdentifier", "tokenName", "nonce", "value"]
  | .expectation => ["out", "status", "message", "logs", "gas", "refund"]
  | .logEntry => ["address", "endpoint", "identifier", "topics", "data"]

namespace Reader

section Readers

variable {α β : Type}

/-- The readers know these fields and no others. -/
def Named (readers : FieldReaders α) (names : List String) : Prop :=
  ∀ key, (readers key).isSome ↔ key ∈ names

/-- Every field of an object that was read had a reader, which read it. -/
theorem reads_field {record : Record} {readers : FieldReaders α} {start result : α}
    {fields : List (String × Json)} (ran : readFields record readers start fields = .ok result)
    {key : String} {value : Json} (listed : (key, value) ∈ fields) :
    ∃ reader target next, readers key = some reader ∧ reader value target = .ok next := by
  -- By induction on the fields: each is read into what those before it left.
  induction fields generalizing start with
  | nil => cases listed
  | cons field rest ih =>
    obtain ⟨reader, next, known, step, ran⟩ := readFields_cons.1 ran
    rcases List.mem_cons.1 listed with rfl | listed
    · exact ⟨reader, start, next, known, step⟩
    · exact ih ran listed

theorem Named.mem {record : Record} {readers : FieldReaders α} {names : List String}
    (named : Named readers names) {start result : α} {fields : List (String × Json)}
    (ran : readFields record readers start fields = .ok result) {key : String} {value : Json}
    (listed : (key, value) ∈ fields) : key ∈ names := by
  obtain ⟨reader, target, next, known, -⟩ := reads_field ran listed
  exact (named key).1 (by rw [known]; rfl)

theorem reads_setting {record : Record} {readers : FieldReaders α} {start result : α}
    {fields : List (String × Json)} (ran : readFields record readers start fields = .ok result)
    {key : String} {value : Json} (listed : (key, value) ∈ fields)
    {read : Json → Except Fault β} {set : β → α → α} (sets : readers key = setting read set) :
    ∃ given, read value = .ok given := by
  obtain ⟨reader, target, next, known, ran⟩ := reads_field ran listed
  obtain ⟨given, reads, -⟩ := setting_ok (sets.symm.trans known) ran
  exact ⟨given, reads⟩

theorem reads_item {ε : Type} {read : α → Except ε β} {items : List α} {results : List β}
    (ran : items.mapM read = .ok results) {item : α} (listed : item ∈ items) :
    ∃ result, read item = .ok result := by
  have each := mapM_ok_iff.1 ran
  obtain ⟨place, inside, rfl⟩ := List.getElem_of_mem listed
  exact ⟨_, each.get inside (each.length_eq ▸ inside)⟩

theorem within_ok {part : String} {result : Except Fault α} {value : α}
    (ran : within part result = .ok value) : result = .ok value :=
  ok_mapError.1 ran

end Readers

variable {context : Context}

theorem named_common {α : Type} : Named (commonField (α := α)) commonNames := by
  intro key
  unfold commonField
  split <;> simp_all [commonNames]

theorem named_setState : Named (setStateField context) (stepNames "setState") := by
  intro key
  unfold setStateField
  split
  case h_6 => simp_all [stepNames, named_common key]
  all_goals simp [stepNames, setting]

theorem named_checkState : Named (checkStateField context) (stepNames "checkState") := by
  intro key
  unfold checkStateField
  split
  case h_3 => simp_all [stepNames, named_common key]
  all_goals simp [stepNames, commonNames, setting]

theorem named_externalSteps : Named externalStepsField (stepNames "externalSteps") := by
  intro key
  unfold externalStepsField
  split
  case h_3 => simp_all [stepNames, named_common key]
  all_goals simp [stepNames, setting]

theorem stepNames_kind (kind : Transaction.Kind) :
    stepNames kind.name = ["txId", "displayLogs", "tx", "expect"] ++ commonNames := by
  cases kind <;> decide

theorem named_transactionStep {kind : Transaction.Kind} :
    Named (transactionStepField context kind) (stepNames kind.name) := by
  intro key
  rw [stepNames_kind]
  unfold transactionStepField
  split
  case h_6 => simp_all [named_common key]
  all_goals simp [commonNames, setting]

theorem named_scenario : Named (scenarioField context) (Record.names [] .scenario) := by
  intro key
  unfold scenarioField
  split <;> simp_all [Record.names, setting]

theorem named_account : Named (accountSetting context) (Record.names [] .account) := by
  intro key
  unfold accountSetting
  split <;> simp_all [Record.names, setting]

theorem named_accountCheck : Named (accountCheck context) (Record.names [] .accountCheck) := by
  intro key
  unfold accountCheck
  split <;> simp_all [Record.names, setting]

theorem named_block : Named (blockSetting context) (Record.names [] .block) := by
  intro key
  unfold blockSetting
  split <;> simp_all [Record.names, setting]

theorem named_newAddress : Named (mockField context) (Record.names [] .newAddress) := by
  intro key
  unfold mockField
  split <;> simp_all [Record.names, setting]

theorem named_transaction {kind : Transaction.Kind} :
    Named (transactionField context kind) (Record.names [] .transaction) := by
  intro key
  unfold transactionField
  split <;> simp_all [Record.names, setting]

theorem named_payment : Named (paymentField context) (Record.names [] .payment) := by
  intro key
  unfold paymentField
  split <;> simp_all [Record.names, setting]

theorem named_expectation : Named (expectationField context) (Record.names [] .expectation) := by
  intro key
  unfold expectationField
  split <;> simp_all [Record.names, setting]

theorem named_logEntry : Named (logField context) (Record.names [] .logEntry) := by
  intro key
  unfold logField
  split <;> simp_all [Record.names, setting]

theorem named_instanceSetting : Named (settingForm context).instanceField instanceNames := by
  intro key
  unfold settingForm instanceSetting
  dsimp only
  split <;> simp_all [instanceNames, setting]

theorem named_instanceCheck : Named (checkForm context).instanceField instanceNames := by
  intro key
  unfold checkForm instanceCheck
  dsimp only
  split <;> simp_all [instanceNames, setting]

theorem TokenForm.named_itemField {ι κ : Type} {form : TokenForm ι κ}
    (named : Named form.instanceField instanceNames) : Named form.itemField instanceNames := by
  intro key
  rw [itemField, Option.isSome_map, named key]

theorem TokenForm.named_field {ι κ : Type} {form : TokenForm ι κ}
    (named : Named form.instanceField instanceNames) :
    Named form.field (Record.names [] .token) := by
  intro key
  have known := named key
  unfold field
  split
  · rename_i reader found
    have direct : key ∈ instanceNames := known.1 (by rw [found]; rfl)
    simp [Record.names, direct]
  · rename_i unknown
    rw [unknown] at known
    split <;> simp_all [Record.names, setting]

theorem TokenForm.read_ok {ι κ : Type} {form : TokenForm ι κ} {identifier : Written Bytes}
    {fields : List (String × Json)} {entry : TokenEntry ι κ}
    (ran : form.read identifier (.object fields) = .ok entry) :
    ∃ start draft, readFields .token form.field start fields = .ok draft := by
  obtain ⟨draft, reads, -⟩ := except_bind.1 ran
  exact ⟨_, draft, reads⟩

end Reader

/-! ## Objects of a document -/

/-- An object stands in a field of another one and is read by the names of its own fields. -/
inductive Part : Record → List (String × Json) → Record → List (String × Json) → Prop
  | step {fields items child} :
    ("steps", .array items) ∈ fields → .object child ∈ items → Part .scenario fields .step child
  | account {fields entries child} {name : String} :
    Json.field? "step" fields = some (.string "setState") →
    ("accounts", .object entries) ∈ fields → (name, .object child) ∈ entries →
      Part .step fields .account child
  | newAddress {fields items child} :
    Json.field? "step" fields = some (.string "setState") →
    ("newAddresses", .array items) ∈ fields → .object child ∈ items →
      Part .step fields .newAddress child
  | previousBlock {fields child} :
    Json.field? "step" fields = some (.string "setState") →
    ("previousBlockInfo", .object child) ∈ fields → Part .step fields .block child
  | currentBlock {fields child} :
    Json.field? "step" fields = some (.string "setState") →
    ("currentBlockInfo", .object child) ∈ fields → Part .step fields .block child
  | accountCheck {fields entries child} {name : String} :
    Json.field? "step" fields = some (.string "checkState") →
    ("accounts", .object entries) ∈ fields → (name, .object child) ∈ entries →
    name ≠ Reader.moreAllowed → Part .step fields .accountCheck child
  | transaction {fields child} {kind : Transaction.Kind} :
    Json.field? "step" fields = some (.string kind.name) →
    ("tx", .object child) ∈ fields → Part .step fields .transaction child
  | expectation {fields child} {kind : Transaction.Kind} :
    Json.field? "step" fields = some (.string kind.name) →
    ("expect", .object child) ∈ fields → Part .step fields .expectation child
  | token {fields entries child} {name : String} :
    ("esdt", .object entries) ∈ fields → (name, .object child) ∈ entries →
      Part .account fields .token child
  | tokenCheck {fields entries child} {name : String} :
    ("esdt", .object entries) ∈ fields → (name, .object child) ∈ entries →
    name ≠ Reader.moreAllowed → Part .accountCheck fields .token child
  | tokenInstance {fields items child} :
    ("instances", .array items) ∈ fields → .object child ∈ items →
      Part .token fields .tokenInstance child
  | listedPayment {fields items child} {name : String} :
    name = "esdt" ∨ name = "esdtValue" →
    (name, .array items) ∈ fields → .object child ∈ items → Part .transaction fields .payment child
  | singlePayment {fields child} {name : String} :
    name = "esdt" ∨ name = "esdtValue" →
    (name, .object child) ∈ fields → Part .transaction fields .payment child
  | logEntry {fields items child} :
    ("logs", .array items) ∈ fields → .object child ∈ items → Part .expectation fields .logEntry child

/-- The objects of a document, from the outermost one inwards. -/
inductive Contains (document : List (String × Json)) : Record → List (String × Json) → Prop
  | whole : Contains document .scenario document
  | part {parent record : Record} {fields child : List (String × Json)} :
    Contains document parent fields → Part parent fields record child → Contains document record child

namespace Reader

variable {context : Context}

/-- An object was read somewhere in a scenario. -/
def Accepted (context : Context) (fields : List (String × Json)) : Record → Prop
  | .scenario => ∃ read, scenario context (.object fields) = .ok read
  | .step => ∃ read, step context (.object fields) = .ok read
  | .account => ∃ start read, readFields .account (accountSetting context) start fields = .ok read
  | .accountCheck =>
    ∃ start read, readFields .accountCheck (accountCheck context) start fields = .ok read
  | .token =>
    (∃ start read, readFields .token (settingForm context).field start fields = .ok read) ∨
      ∃ start read, readFields .token (checkForm context).field start fields = .ok read
  | .tokenInstance =>
    (∃ start read,
      readFields .tokenInstance (settingForm context).itemField start fields = .ok read) ∨
      ∃ start read, readFields .tokenInstance (checkForm context).itemField start fields = .ok read
  | .block => ∃ read, block context (.object fields) = .ok read
  | .newAddress => ∃ start read, readFields .newAddress (mockField context) start fields = .ok read
  | .transaction =>
    ∃ kind start read, readFields .transaction (transactionField context kind) start fields = .ok read
  | .payment => ∃ start read, readFields .payment (paymentField context) start fields = .ok read
  | .expectation =>
    ∃ start read, readFields .expectation (expectationField context) start fields = .ok read
  | .logEntry => ∃ start read, readFields .logEntry (logField context) start fields = .ok read

section Steps

variable {fields : List (String × Json)}

/-- The fields of a step with a name were read. -/
def StepRead (context : Context) (fields : List (String × Json)) : String → Prop
  | "setState" => ∃ start read, readFields .step (setStateField context) start fields = .ok read
  | "checkState" => ∃ start read, readFields .step (checkStateField context) start fields = .ok read
  | "externalSteps" => ∃ start read, readFields .step externalStepsField start fields = .ok read
  | "dumpState" => ∃ read, readFields .step commonField () fields = .ok read
  | name =>
    ∃ kind start read, Transaction.Kind.ofName? name = some kind ∧
      readFields .step (transactionStepField context kind) start fields = .ok read

theorem stepRead_kind {kind : Transaction.Kind} :
    StepRead context fields kind.name ↔ ∃ start read,
      readFields .step (transactionStepField context kind) start fields = .ok read := by
  have known := Transaction.Kind.ofName?_name kind
  constructor
  · intro reads
    cases kind <;>
    · obtain ⟨kind, start, read, same, reads⟩ := reads
      cases same.symm.trans known
      exact ⟨start, read, reads⟩
  · rintro ⟨start, read, reads⟩
    cases kind <;> exact ⟨_, start, read, known, reads⟩

theorem step_ok {read : Step} (ran : step context (.object fields) = .ok read) :
    ∃ name, Json.field? "step" fields = some (.string name) ∧ StepRead context fields name := by
  obtain ⟨_, whole, ran⟩ := except_bind.1 ran
  obtain rfl := Except.ok.inj whole
  obtain ⟨name, called, ran⟩ := except_bind.1 ran
  have said : Json.field? "step" fields = some (.string name) := by
    unfold stepName at called
    split at called
    · rename_i value found
      have texts := within_ok called
      cases value <;> cases texts
      exact found
    · cases called
  refine ⟨name, said, ?_⟩
  split at ran
  case h_1 | h_2 =>
    obtain ⟨given, reads, -⟩ := except_bind.1 ran
    obtain ⟨comment, -, reads⟩ := except_bind.1 (within_ok reads)
    exact ⟨_, given, reads⟩
  case h_3 =>
    obtain ⟨given, reads, -⟩ := except_bind.1 ran
    obtain ⟨comment, -, reads⟩ := except_bind.1 (within_ok reads)
    obtain ⟨external, reads, -⟩ := except_bind.1 reads
    exact ⟨_, external, reads⟩
  case h_4 =>
    obtain ⟨given, reads, -⟩ := except_bind.1 ran
    obtain ⟨_, reads, -⟩ := except_bind.1 reads
    exact ⟨_, reads⟩
  case h_5 =>
    split at ran
    · rename_i kind known
      obtain rfl : kind.name = name := by simpa using List.find?_some known
      obtain ⟨given, reads, -⟩ := except_bind.1 ran
      obtain ⟨draft, reads, -⟩ := except_bind.1 (within_ok reads)
      exact stepRead_kind.2 ⟨_, draft, reads⟩
    · cases ran

/-- The name of a step decides how its fields were read. -/
theorem reads_named (accepted : Accepted context fields .step) {name : String}
    (said : Json.field? "step" fields = some (.string name)) : StepRead context fields name := by
  obtain ⟨read, ran⟩ := accepted
  obtain ⟨other, same, reads⟩ := step_ok ran
  rw [said] at same
  cases same
  exact reads

end Steps

/-! ## Parts of what was accepted -/

section Parts

variable {fields child : List (String × Json)}

theorem itemsOf_ok {collection : Collection} {items given : List Json}
    (ran : itemsOf collection (.array items) = .ok given) : given = items :=
  (Except.ok.inj ran).symm

theorem TokenForm.items_ok {ι κ : Type} {form : TokenForm ι κ} {items : List Json} {given : List ι}
    (ran : form.items (.array items) = .ok given) (listed : .object child ∈ items) :
    ∃ start read, readFields .tokenInstance form.itemField start child = .ok read := by
  obtain ⟨_, same, ran⟩ := except_bind.1 ran
  obtain ⟨read, ran⟩ := reads_item (itemsOf_ok same ▸ ran) listed
  obtain ⟨_, whole, ran⟩ := except_bind.1 ran
  cases whole
  exact ⟨_, read, ran⟩

/-- What an entry of a map is read from, if it is not the mark that allows more. -/
theorem listedEntries_ok {α : Type} {read : String × Json → Except Fault α}
    {entries : List (String × Json)} {result : List α × Bool}
    (ran : listedEntries read entries = .ok result) {entry : String × Json}
    (listed : entry ∈ entries) (other : entry.1 ≠ moreAllowed) :
    ∃ given, read entry = .ok given := by
  obtain ⟨given, reads, -⟩ := except_bind.1 ran
  exact reads_item reads (List.mem_filter.2 ⟨listed, by simpa using other⟩)

theorem logs_ok {items : List Json} {start result : List LogCheck × Bool}
    (ran : items.foldlM (logItem context) start = .ok result)
    (listed : .object child ∈ items) : Accepted context child .logEntry := by
  induction items generalizing start with
  | nil => cases listed
  | cons item rest ih =>
    rw [List.foldlM_cons] at ran
    obtain ⟨next, step, ran⟩ := except_bind.1 ran
    rcases List.mem_cons.1 listed with rfl | listed
    · unfold logItem at step
      dsimp only at step
      split at step
      · cases step
      · obtain ⟨entry, reads, -⟩ := except_bind.1 step
        exact ⟨_, entry, reads⟩
    · exact ih ran listed

theorem allowed_given {α : Type} {field : TransactionField} {kind : Transaction.Kind} {has : Bool}
    {result : Except Fault α} {given : α} (ran : allowed field kind has result = .ok given) :
    result = .ok given := by
  cases has with
  | false => cases ran
  | true => exact ran

theorem payments_ok {value : Json} {given : List Payment}
    (ran : payments context value = .ok given)
    (listed : value = .object child ∨ ∃ items, value = .array items ∧ .object child ∈ items) :
    Accepted context child .payment := by
  have single : ∃ read, payment context (.object child) = .ok read := by
    rcases listed with rfl | ⟨items, rfl, listed⟩
    · exact (ok_map.1 ran).imp fun _ => And.left
    · exact reads_item ran listed
  obtain ⟨read, ran⟩ := single
  obtain ⟨_, whole, ran⟩ := except_bind.1 ran
  cases whole
  exact ⟨_, read, ran⟩

/-- What stands in an object that was read was read too. -/
theorem accepted_part {parent record : Record} (part : Part parent fields record child)
    (accepted : Accepted context fields parent) : Accepted context child record := by
  cases part with
  | step listed inside =>
    obtain ⟨read, ran⟩ := accepted
    obtain ⟨_, whole, ran⟩ := except_bind.1 ran
    cases whole
    obtain ⟨given, reads⟩ := reads_setting ran listed rfl
    obtain ⟨items, same, reads⟩ := except_bind.1 (within_ok reads)
    exact reads_item (itemsOf_ok same ▸ reads) inside
  | account said listed inside =>
    obtain ⟨start, read, ran⟩ := reads_named accepted said
    obtain ⟨given, reads⟩ := reads_setting ran listed rfl
    obtain ⟨_, same, reads⟩ := except_bind.1 reads
    cases same
    obtain ⟨account, reads⟩ := reads_item reads inside
    obtain ⟨owner, -, reads⟩ := except_bind.1 reads
    exact ⟨_, account, reads⟩
  | newAddress said listed inside =>
    obtain ⟨start, read, ran⟩ := reads_named accepted said
    obtain ⟨given, reads⟩ := reads_setting ran listed rfl
    obtain ⟨items, same, reads⟩ := except_bind.1 (within_ok reads)
    obtain ⟨mock, reads⟩ := reads_item (itemsOf_ok same ▸ reads) inside
    obtain ⟨_, whole, reads⟩ := except_bind.1 reads
    cases whole
    obtain ⟨draft, reads, -⟩ := except_bind.1 reads
    exact ⟨_, draft, reads⟩
  | previousBlock said listed =>
    obtain ⟨start, read, ran⟩ := reads_named accepted said
    obtain ⟨given, reads⟩ := reads_setting ran listed rfl
    exact ⟨given, within_ok reads⟩
  | currentBlock said listed =>
    obtain ⟨start, read, ran⟩ := reads_named accepted said
    obtain ⟨given, reads⟩ := reads_setting ran listed rfl
    exact ⟨given, within_ok reads⟩
  | accountCheck said listed inside other =>
    obtain ⟨start, read, ran⟩ := reads_named accepted said
    obtain ⟨given, reads⟩ := reads_setting ran listed rfl
    obtain ⟨_, same, reads⟩ := except_bind.1 (within_ok reads)
    cases same
    obtain ⟨account, reads⟩ := listedEntries_ok reads inside other
    obtain ⟨owner, -, reads⟩ := except_bind.1 reads
    exact ⟨_, account, reads⟩
  | transaction said listed =>
    obtain ⟨start, read, ran⟩ := stepRead_kind.1 (reads_named accepted said)
    obtain ⟨given, reads⟩ := reads_setting ran listed rfl
    exact ⟨_, _, given, reads⟩
  | expectation said listed =>
    obtain ⟨start, read, ran⟩ := stepRead_kind.1 (reads_named accepted said)
    obtain ⟨given, reads⟩ := reads_setting ran listed rfl
    exact ⟨_, given, within_ok reads⟩
  | token listed inside =>
    obtain ⟨start, read, ran⟩ := accepted
    obtain ⟨given, reads⟩ := reads_setting ran listed rfl
    obtain ⟨_, same, reads⟩ := except_bind.1 reads
    cases same
    obtain ⟨token, reads⟩ := reads_item reads inside
    obtain ⟨identifier, -, reads⟩ := except_bind.1 reads
    exact .inl (TokenForm.read_ok (within_ok reads))
  | tokenCheck listed inside other =>
    obtain ⟨start, read, ran⟩ := accepted
    obtain ⟨given, reads⟩ := reads_setting ran listed rfl
    obtain ⟨_, same, reads⟩ := except_bind.1 (within_ok reads)
    cases same
    obtain ⟨listed, reads, -⟩ := except_bind.1 reads
    obtain ⟨token, reads⟩ := listedEntries_ok reads inside other
    obtain ⟨identifier, -, reads⟩ := except_bind.1 reads
    exact .inr (TokenForm.read_ok reads)
  | tokenInstance listed inside =>
    rcases accepted with ⟨start, read, ran⟩ | ⟨start, read, ran⟩
    · obtain ⟨given, reads⟩ := reads_setting ran listed rfl
      exact .inl (TokenForm.items_ok (within_ok reads) inside)
    · obtain ⟨given, reads⟩ := reads_setting ran listed rfl
      exact .inr (TokenForm.items_ok (within_ok reads) inside)
  | listedPayment named listed inside =>
    obtain ⟨kind, start, read, ran⟩ := accepted
    rcases named with rfl | rfl
    all_goals
      obtain ⟨given, reads⟩ := reads_setting ran listed rfl
      exact payments_ok (within_ok (allowed_given reads)) (.inr ⟨_, rfl, inside⟩)
  | singlePayment named listed =>
    obtain ⟨kind, start, read, ran⟩ := accepted
    rcases named with rfl | rfl
    all_goals
      obtain ⟨given, reads⟩ := reads_setting ran listed rfl
      exact payments_ok (within_ok (allowed_given reads)) (.inl rfl)
  | logEntry listed inside =>
    obtain ⟨start, read, ran⟩ := accepted
    obtain ⟨given, reads⟩ := reads_setting ran listed rfl
    obtain ⟨_, same, reads⟩ := except_bind.1 (within_ok reads)
    cases same
    obtain ⟨result, reads, -⟩ := except_bind.1 reads
    exact logs_ok reads inside

theorem accepted_of_contains {document : List (String × Json)} {record : Record}
    (contains : Contains document record fields) (accepted : Accepted context document .scenario) :
    Accepted context fields record := by
  induction contains with
  | whole => exact accepted
  | part _ part ih => exact accepted_part part ih

end Parts

/-! ## Known fields -/

section Known

variable {fields : List (String × Json)} {key : String} {value : Json}

/-- The fields of a step that was read are known for its name. -/
theorem StepRead.mem {name : String} (reads : StepRead context fields name)
    (listed : (key, value) ∈ fields) : key ∈ stepNames name := by
  unfold StepRead at reads
  split at reads
  case h_1 =>
    obtain ⟨start, read, ran⟩ := reads
    exact named_setState.mem ran listed
  case h_2 =>
    obtain ⟨start, read, ran⟩ := reads
    exact named_checkState.mem ran listed
  case h_3 =>
    obtain ⟨start, read, ran⟩ := reads
    exact named_externalSteps.mem ran listed
  case h_4 =>
    obtain ⟨read, ran⟩ := reads
    exact named_common.mem ran listed
  case h_5 =>
    obtain ⟨kind, start, read, known, ran⟩ := reads
    obtain rfl : kind.name = name := by simpa using List.find?_some known
    exact named_transactionStep.mem ran listed

/-- An object that was read has known fields only, if it is not a block with an empty text. -/
theorem mem_names {record : Record} (accepted : Accepted context fields record)
    (listed : (key, value) ∈ fields) :
    key ∈ record.names fields ∨ record = .block ∧ value = .string "" := by
  cases record with
  | scenario =>
    obtain ⟨read, ran⟩ := accepted
    obtain ⟨_, whole, ran⟩ := except_bind.1 ran
    cases whole
    exact .inl (named_scenario.mem ran listed)
  | step =>
    obtain ⟨read, ran⟩ := accepted
    obtain ⟨name, said, reads⟩ := step_ok ran
    refine .inl ?_
    rw [Record.names, said]
    exact reads.mem listed
  | account =>
    obtain ⟨start, read, ran⟩ := accepted
    exact .inl (named_account.mem ran listed)
  | accountCheck =>
    obtain ⟨start, read, ran⟩ := accepted
    exact .inl (named_accountCheck.mem ran listed)
  | token =>
    rcases accepted with ⟨start, read, ran⟩ | ⟨start, read, ran⟩
    · exact .inl ((TokenForm.named_field named_instanceSetting).mem ran listed)
    · exact .inl ((TokenForm.named_field named_instanceCheck).mem ran listed)
  | tokenInstance =>
    rcases accepted with ⟨start, read, ran⟩ | ⟨start, read, ran⟩
    · exact .inl ((TokenForm.named_itemField named_instanceSetting).mem ran listed)
    · exact .inl ((TokenForm.named_itemField named_instanceCheck).mem ran listed)
  | block =>
    obtain ⟨read, ran⟩ := accepted
    obtain ⟨_, whole, ran⟩ := except_bind.1 ran
    cases whole
    -- only what is not an empty text comes to the readers
    by_cases empty : value = .string ""
    · exact .inr ⟨rfl, empty⟩
    · have remains : (key, value) ∈ fields.filter (·.2.asString? != some "") := by
        refine List.mem_filter.2 ⟨listed, ?_⟩
        cases value <;> simp_all [Json.asString?]
      exact .inl (named_block.mem ran remains)
  | newAddress =>
    obtain ⟨start, read, ran⟩ := accepted
    exact .inl (named_newAddress.mem ran listed)
  | transaction =>
    obtain ⟨kind, start, read, ran⟩ := accepted
    exact .inl (named_transaction.mem ran listed)
  | payment =>
    obtain ⟨start, read, ran⟩ := accepted
    exact .inl (named_payment.mem ran listed)
  | expectation =>
    obtain ⟨start, read, ran⟩ := accepted
    exact .inl (named_expectation.mem ran listed)
  | logEntry =>
    obtain ⟨start, read, ran⟩ := accepted
    exact .inl (named_logEntry.mem ran listed)

end Known

theorem block_empty (before after : List (String × Json)) (key : String) :
    block context (.object (before ++ (key, .string "") :: after)) =
      block context (.object (before ++ after)) := by
  have passed : (before ++ (key, .string "") :: after).filter (·.2.asString? != some "") =
      (before ++ after).filter (·.2.asString? != some "") := by
    simp [Json.asString?]
  change readFields _ _ _ _ = readFields _ _ _ _
  rw [passed]

end Reader

/-! ## Documents -/

/-- A document in which an object has a field that is not known is refused, unless the object is a block
and the field an empty text; such a field is as if it were not there. -/
theorem unknown_field {context : Context} {contents : Bytes} {document : List (String × Json)}
    (parsed : Json.read contents = .ok (.object document)) :
    (∀ record fields key value, Contains document record fields → (key, value) ∈ fields →
      key ∉ record.names fields → ¬(record = .block ∧ value = .string "") →
        ∃ fault, Scenario.read context contents = .error fault) ∧
      ∀ before after key, Reader.block context (.object (before ++ (key, .string "") :: after)) =
        Reader.block context (.object (before ++ after)) := by
  refine ⟨?_, Reader.block_empty⟩
  intro record fields key value contains listed unknown other
  cases ran : Scenario.read context contents with
  | error fault => exact ⟨fault, rfl⟩
  | ok read =>
    obtain ⟨_, whole, ran⟩ := except_bind.1 ran
    rw [parsed] at whole
    cases whole
    have accepted := Reader.accepted_of_contains contains ⟨read, ran⟩
    rcases Reader.mem_names accepted listed with known | passed
    · exact absurd known unknown
    · exact absurd passed other

/-! ### Two misspelt fields -/

/-- A document with one step. -/
def single (step : List (String × Json)) : List (String × Json) :=
  [("steps", .array [.object step])]

theorem contains_single (step : List (String × Json)) : Contains (single step) .step step :=
  .part .whole (.step List.mem_cons_self List.mem_cons_self)

/-- A scenario without files. -/
def bare : Context := ⟨[0, 0], .none, ⟨.directory [], "/"⟩⟩

/-- A query that expects a log entry with a misspelt field. -/
def misspeltLog : Bytes :=
  Utf8.ofString ("\x7b\"steps\": [\x7b\"step\": \"scQuery\", \"expect\": " ++
    "\x7b\"logs\": [\x7b\"adress\": \"*\"\x7d]\x7d\x7d]\x7d")

/-- A step that sets a block, of which a misspelt field is empty. -/
def misspeltBlock : Bytes :=
  Utf8.ofString ("\x7b\"steps\": [\x7b\"step\": \"setState\", " ++
    "\"currentBlockInfo\": \x7b\"blockNonse\": \"\"\x7d\x7d]\x7d")

/-- The misspelt field of a log entry is found. -/
theorem unknown_field_logEntry :
    ∃ document fields, Json.read misspeltLog = .ok (.object document) ∧
      Contains document .logEntry fields ∧ ("adress", .string "*") ∈ fields ∧
      "adress" ∉ Record.logEntry.names fields ∧
      ∃ fault, Scenario.read bare misspeltLog = .error fault := by
  let entry : List (String × Json) := [("adress", .string "*")]
  let query : List (String × Json) :=
    [("step", .string "scQuery"), ("expect", .object [("logs", .array [.object entry])])]
  have read : Json.read misspeltLog = .ok (.object (single query)) := by with_unfolding_all rfl
  have contains : Contains (single query) .logEntry entry :=
    ((contains_single query).part (@Part.expectation query _ .query rfl (.tail _ (.head _)))).part
      (.logEntry List.mem_cons_self List.mem_cons_self)
  have unknown : "adress" ∉ Record.logEntry.names entry := by decide
  exact ⟨_, _, read, contains, List.mem_cons_self, unknown,
    (unknown_field read).1 _ _ _ _ contains List.mem_cons_self unknown (by rintro ⟨⟨⟩, -⟩)⟩

/-- The misspelt field of a block is not. -/
theorem unknown_field_passed :
    ¬∀ (context : Context) (contents : Bytes) (document : List (String × Json)) (record : Record)
      (fields : List (String × Json)) (key : String) (value : Json),
      Json.read contents = .ok (.object document) → Contains document record fields →
        (key, value) ∈ fields → key ∉ record.names fields →
          ∃ fault, Scenario.read context contents = .error fault := by
  intro refused
  let block : List (String × Json) := [("blockNonse", .string "")]
  let step : List (String × Json) :=
    [("step", .string "setState"), ("currentBlockInfo", .object block)]
  have read : Json.read misspeltBlock = .ok (.object (single step)) := by with_unfolding_all rfl
  have contains : Contains (single step) .block block :=
    (contains_single step).part (.currentBlock rfl (.tail _ (.head _)))
  obtain ⟨fault, failed⟩ :=
    refused bare misspeltBlock _ _ _ "blockNonse" _ read contains List.mem_cons_self (by decide)
  have accepted : (Scenario.read bare misspeltBlock).toBool = true := by decide +kernel
  rw [failed] at accepted
  cases accepted

end ChainScenario.Scenario
