import ChainScenario.Proofs.Atomicity
import ChainScenario.Proofs.Checks
import ChainScenario.Proofs.Listed
import ChainScenario.Proofs.Storage
import ChainScenario.Run.Steps

/-!
# What a check of the state means

`CheckState.Met` says in words of the ledger what a step that checks the state asks for. Which values a
single check accepts is `Check.accepts_iff`, and which lists the check of a list accepts, item by item, is
`ListCheck.accepts_iff`. Of entries with one name only the last counts; `CheckState.decisive` is what is
left of a step then. Main statements: `compare_eq_nil`, nothing is reported exactly if what counts is met,
`checkState_iff`, a step that names nothing twice ends well exactly if it is met, and `checkState_upheld`,
what holds after any step that ended well.
-/
namespace ChainScenario

open Token (Holding Record Records)

/-! ## Meeting an expectation -/

/-- The amount of an instance, nothing if it is not there. -/
def Token.Record.amount (record : Record) (nonce : UInt64) : Nat :=
  (record.instances.get? nonce).elim 0 (·.value)

namespace StateCheck

/-- All fields of an account meet their checks, each as `Check.accepts_iff` says. -/
structure FieldsMet (expected : AccountCheck) (account : Account) : Prop where
  nonce : expected.nonce.accepts account.nonce
  balance : expected.balance.accepts account.balance
  username : expected.username.accepts account.username
  code : expected.code.accepts account.code
  codeMetadata : expected.codeMetadata.accepts account.codeMetadata
  owner : expected.owner.accepts account.owner
  developerReward : expected.developerReward.accepts account.developerReward
  asyncCallData : expected.asyncCallData.accepts account.asyncCallData

/-- Listed entries of storage meet their checks, and the others are empty unless there may be more;
entries of the protocol do not matter. -/
structure StorageMet (entries : List (Written Bytes × Check Bytes)) (moreAllowed : Bool)
    (account : Account) : Prop where
  listed : ∀ entry ∈ entries, Address.isProtected entry.1.value = false →
    entry.2.accepts (account.stored entry.1.value)
  unlisted : moreAllowed = false → ∀ key, Address.isProtected key = false →
    (∀ entry ∈ entries, entry.1.value ≠ key) → account.stored key = []

/-- An instance meets the checks of its amount and of its metadata: the addresses of its contents item by
item, as `ListCheck.accepts_iff` says, and the others as `Check.accepts_iff` says. An instance that is not
there has an amount of nothing and blank metadata. -/
structure InstanceMet (expected : InstanceCheck) (actual : Option Holding) : Prop where
  balance : expected.balance.accepts (actual.elim 0 (·.value))
  creator : expected.creator.accepts ((actual.bind (·.metadata)).getD noMetadata).creator
  royalties :
    expected.royalties.accepts ((actual.bind (·.metadata)).getD noMetadata).royalties.toUInt64
  hash : expected.hash.accepts ((actual.bind (·.metadata)).getD noMetadata).hash
  uris : ListCheck.accepts expected.uris ((actual.bind (·.metadata)).getD noMetadata).uris
  attributes : expected.attributes.accepts ((actual.bind (·.metadata)).getD noMetadata).attributes

/-- The last nonce and the frozen flag of a token meet their checks, and its roles are those listed. -/
structure PropertiesMet (expected : TokenCheck) (actual : Record) : Prop where
  lastNonce : expected.lastNonce.accepts actual.lastNonce
  roles : ∀ role, role ∈ actual.roles ↔ role ∈ expected.roles.map Utf8.ofString
  frozen : expected.frozen.accepts (if actual.frozen then 1 else 0)

/-- Listed instances of a token meet their checks, there is nothing of the others, and the rest of the
token is as expected. -/
structure TokenMet (expected : TokenCheck) (actual : Record) : Prop where
  listed : ∀ check ∈ expected.instances,
    InstanceMet check (actual.instances.get? check.nonce.value)
  unlisted : ∀ nonce, (∀ check ∈ expected.instances, check.nonce.value ≠ nonce) →
    actual.amount nonce = 0
  properties : PropertiesMet expected actual

/-- Listed tokens are as expected; of the others there is nothing, and no role, unless there may be
more. -/
structure TokensMet (entries : List TokenCheck) (moreAllowed : Bool) (records : Records) : Prop where
  listed : ∀ check ∈ entries, TokenMet check (records.getD check.identifier.value .blank)
  unlisted : moreAllowed = false → ∀ name, (∀ check ∈ entries, check.identifier.value ≠ name) →
    (∀ nonce, (records.getD name .blank).amount nonce = 0) ∧ (records.getD name .blank).roles = []

/-- An account is there and as expected; its storage and its tokens matter unless they are ignored. -/
structure AccountMet (world : World) (expected : AccountCheck) (account : Account) : Prop where
  found : world.account? expected.address.value = some account
  fields : FieldsMet expected account
  storage : ∀ entries moreAllowed, expected.storage = .listed entries moreAllowed →
    StorageMet entries moreAllowed account
  tokens : ∀ entries moreAllowed, expected.tokens = .listed entries moreAllowed →
    ∃ records, world.tokens expected.address.value = .ok records ∧
      TokensMet entries moreAllowed records

end StateCheck

/-- Every listed account is as expected, and there are no others, but for the system account, unless
there may be more. -/
structure CheckState.Met (step : CheckState) (world : World) : Prop where
  unlisted : step.moreAllowed = false → ∀ address, (world.account? address).isSome →
    address ≠ Address.systemAccount → ∃ expected ∈ step.accounts, expected.address.value = address
  listed : ∀ expected ∈ step.accounts, ∃ account, StateCheck.AccountMet world expected account

/-! ## What counts of an expectation -/

/-- The listed entries. -/
def EntriesCheck.entries {α : Type} : EntriesCheck α → List α
  | ignored => []
  | listed entries _ => entries

/-- The same expectation of other entries. -/
def EntriesCheck.relist {α : Type} (f : List α → List α) : EntriesCheck α → EntriesCheck α
  | ignored => .ignored
  | listed entries moreAllowed => .listed (f entries) moreAllowed

/-- The expectation of a token with one check for each number, the last one. -/
def TokenCheck.decisive (check : TokenCheck) : TokenCheck :=
  { check with instances := ChainScenario.decisive (·.nonce.value) check.instances }

/-- The expectation of an account with one check for each key, each token and each instance, the last
one. -/
def AccountCheck.decisive (expected : AccountCheck) : AccountCheck :=
  { expected with
    storage := expected.storage.relist (ChainScenario.decisive (·.1.value))
    tokens := expected.tokens.relist fun entries =>
      (ChainScenario.decisive (·.identifier.value) entries).map TokenCheck.decisive }

/-- The step of which only what counts is left. -/
def CheckState.decisive (step : CheckState) : CheckState :=
  { step with accounts := step.accounts.map AccountCheck.decisive }

/-- No key, no token and no instance of a token is named twice. -/
structure AccountCheck.Distinct (expected : AccountCheck) : Prop where
  storage : (expected.storage.entries.map (·.1.value)).Nodup
  tokens : (expected.tokens.entries.map (·.identifier.value)).Nodup
  instances : ∀ check ∈ expected.tokens.entries, (check.instances.map (·.nonce.value)).Nodup

namespace StateCheck

/-! ## Nothing differs from what is met -/

@[simp] theorem complain_eq_nil {α : Type} {accepted : Bool} {mismatch : α} :
    complain accepted mismatch = [] ↔ accepted = true := by
  cases accepted <;> simp [complain]

theorem fields_eq_nil {expected : AccountCheck} {account : Account} :
    fields expected account = [] ↔ FieldsMet expected account := by
  simp only [fields, List.append_eq_nil_iff, complain_eq_nil]
  constructor
  · rintro ⟨⟨⟨⟨⟨⟨⟨nonce, balance⟩, username⟩, code⟩, codeMetadata⟩, owner⟩, developerReward⟩,
      asyncCallData⟩
    exact ⟨nonce, balance, username, code, codeMetadata, owner, developerReward, asyncCallData⟩
  · rintro ⟨nonce, balance, username, code, codeMetadata, owner, developerReward, asyncCallData⟩
    exact ⟨⟨⟨⟨⟨⟨⟨nonce, balance⟩, username⟩, code⟩, codeMetadata⟩, owner⟩, developerReward⟩,
      asyncCallData⟩

theorem stored_of_notMem_keys {account : Account} {key : Bytes}
    (absent : key ∉ account.storage.keys) : account.stored key = [] := by
  rw [OrdMap.mem_keys, Option.not_isSome_iff_eq_none] at absent
  exact Account.stored_of_missing absent

theorem storage_eq_nil {entries : List (Written Bytes × Check Bytes)} {moreAllowed : Bool}
    {account : Account} :
    storage (.listed entries moreAllowed) account = [] ↔
      StorageMet (decisive (·.1.value) entries) moreAllowed account := by
  have stands : (unlistedEntry moreAllowed).accepts [] = true := by cases moreAllowed <;> rfl
  simp only [storage, List.flatMap_eq_nil_iff, List.mem_filter, complain_eq_nil, Bool.not_eq_true',
    and_imp]
  refine (OrdMap.forall_listed_iff (fun entry : Written Bytes × Check Bytes => entry.1.value) (·.2)
    (fun key check => Address.isProtected key = false →
      (check.getD (unlistedEntry moreAllowed)).accepts (account.stored key) = true)
    fun key absent _ => ?_).trans ?_
  · rw [stored_of_notMem_keys absent]
    exact stands
  · constructor
    · rintro ⟨listed, unlisted⟩
      refine ⟨listed, fun strict key free apart => ?_⟩
      have met := unlisted key apart free
      have empty : unlistedEntry moreAllowed = .implied [] := by rw [strict]; rfl
      rwa [Option.getD_none, empty, Check.accepts_implied] at met
    · rintro ⟨listed, unlisted⟩
      refine ⟨listed, fun key apart free => ?_⟩
      cases strict : moreAllowed with
      | false =>
        rw [unlisted strict key free apart, ← strict]
        exact stands
      | true => rfl

/-! ### Tokens -/

theorem holding_eq_nil {expected : InstanceCheck} {actual : Option Holding} :
    holding expected actual = [] ↔ InstanceMet expected actual := by
  simp only [holding, List.append_eq_nil_iff, complain_eq_nil]
  constructor
  · rintro ⟨⟨⟨⟨⟨balance, creator⟩, royalties⟩, hash⟩, uris⟩, attributes⟩
    exact ⟨balance, creator, royalties, hash, uris, attributes⟩
  · rintro ⟨balance, creator, royalties, hash, uris, attributes⟩
    exact ⟨⟨⟨⟨⟨balance, creator⟩, royalties⟩, hash⟩, uris⟩, attributes⟩

/-- Of an instance that must not be there, only the amount is compared. -/
theorem instanceMet_absent {nonce : Written UInt64} {actual : Option Holding} :
    InstanceMet (.absent nonce) actual ↔ actual.elim 0 (·.value) = 0 := by
  constructor
  · intro met
    exact Check.accepts_implied.1 met.balance
  · intro nothing
    exact ⟨Check.accepts_implied.2 nothing, rfl, rfl, rfl, rfl, rfl⟩

theorem instances_eq_nil {expected : List InstanceCheck} {actual : OrdMap UInt64 Holding} :
    instances expected actual = [] ↔
      (∀ check ∈ decisive (·.nonce.value) expected,
        InstanceMet check (actual.get? check.nonce.value)) ∧
        ∀ nonce, (∀ check ∈ decisive (·.nonce.value) expected, check.nonce.value ≠ nonce) →
          (actual.get? nonce).elim 0 (·.value) = 0 := by
  simp only [instances, List.flatMap_eq_nil_iff, List.map_eq_nil_iff, holding_eq_nil]
  refine (OrdMap.forall_listed_iff (fun check : InstanceCheck => check.nonce.value) id
    (fun nonce check => InstanceMet (check.getD (.absent (.implied nonce))) (actual.get? nonce))
    fun nonce absent => ?_).trans ?_
  · rw [OrdMap.mem_keys, Option.not_isSome_iff_eq_none] at absent
    rw [absent]
    exact instanceMet_absent.2 rfl
  · simp only [Option.getD_none, Option.getD_some, instanceMet_absent, id]

theorem without_eq_nil {left right : List Bytes} :
    without left right = [] ↔ ∀ role ∈ left, role ∈ right := by
  simp [without, List.filter_eq_nil_iff, OrdMap.mem_sortedKeys]

theorem properties_eq_nil {expected : TokenCheck} {actual : Record} :
    properties expected actual = [] ↔ PropertiesMet expected actual := by
  simp only [properties, List.append_eq_nil_iff, complain_eq_nil, List.map_eq_nil_iff,
    without_eq_nil]
  constructor
  · rintro ⟨⟨⟨lastNonce, expectedOnly⟩, allThere⟩, frozen⟩
    exact ⟨lastNonce, fun role => ⟨expectedOnly role, allThere role⟩, frozen⟩
  · rintro ⟨lastNonce, roles, frozen⟩
    exact ⟨⟨⟨lastNonce, fun role => (roles role).1⟩, fun role => (roles role).2⟩, frozen⟩

theorem token_eq_nil {expected : TokenCheck} {actual : Record} :
    token expected actual = [] ↔ TokenMet expected.decisive actual := by
  rw [token, List.append_eq_nil_iff, instances_eq_nil, properties_eq_nil]
  constructor
  · rintro ⟨⟨listed, unlisted⟩, properties⟩
    exact ⟨listed, unlisted, properties.lastNonce, properties.roles, properties.frozen⟩
  · rintro ⟨listed, unlisted, properties⟩
    exact ⟨⟨listed, unlisted⟩, properties.lastNonce, properties.roles, properties.frozen⟩

/-- A token that is not listed must be empty and without roles. -/
theorem tokenMet_unlisted {name : Bytes} {actual : Record} :
    TokenMet (unlistedToken name).decisive actual ↔
      (∀ nonce, actual.amount nonce = 0) ∧ actual.roles = [] := by
  constructor
  · intro met
    refine ⟨fun nonce => met.unlisted nonce (by simp [unlistedToken, TokenCheck.decisive, decisive]), ?_⟩
    refine List.eq_nil_iff_forall_not_mem.2 fun role held => ?_
    have named := (met.properties.roles role).1 held
    simp [unlistedToken, TokenCheck.decisive] at named
  · rintro ⟨nothing, roleless⟩
    refine ⟨by simp [unlistedToken, TokenCheck.decisive, decisive], fun nonce _ => nothing nonce, rfl, ?_, rfl⟩
    simp [roleless, unlistedToken, TokenCheck.decisive]

/-- What differs of a token that is listed, or is not. -/
def differing (moreAllowed : Bool) (records : Records) (name : Bytes) :
    Option TokenCheck → List (Bytes × TokenMismatch)
  | some check => (token check (records.getD name .blank)).map fun mismatch => (name, mismatch)
  | none =>
    if moreAllowed then []
    else (token (unlistedToken name) (records.getD name .blank)).map fun mismatch => (name, mismatch)

theorem tokens_listed {entries : List TokenCheck} {moreAllowed : Bool} {records : Records} :
    tokens (.listed entries moreAllowed) records =
      (OrdMap.sortedKeys ((OrdMap.ofList (entries.map fun check =>
          (check.identifier.value, check))).keys ++ records.keys)).flatMap fun name =>
        differing moreAllowed records name
          ((OrdMap.ofList (entries.map fun check => (check.identifier.value, check))).get? name) := by
  refine congrArg (List.flatMap · _) (funext fun name => ?_)
  cases (OrdMap.ofList (entries.map fun check : TokenCheck =>
    (check.identifier.value, check))).get? name with
  | some check => rfl
  | none => cases moreAllowed <;> rfl

section Differing

variable {moreAllowed : Bool} {records : Records} {name : Bytes}

theorem differing_some_eq_nil {check : TokenCheck} :
    differing moreAllowed records name (some check) = [] ↔
      TokenMet check.decisive (records.getD name .blank) := by
  rw [differing, List.map_eq_nil_iff, token_eq_nil]

theorem differing_none_eq_nil :
    differing moreAllowed records name none = [] ↔ (moreAllowed = false →
      (∀ nonce, (records.getD name .blank).amount nonce = 0) ∧
        (records.getD name .blank).roles = []) := by
  cases moreAllowed with
  | true => simp [differing]
  | false => simp [differing, token_eq_nil, tokenMet_unlisted]

end Differing

theorem tokens_eq_nil {entries : List TokenCheck} {moreAllowed : Bool} {records : Records} :
    tokens (.listed entries moreAllowed) records = [] ↔
      TokensMet ((decisive (·.identifier.value) entries).map TokenCheck.decisive) moreAllowed
        records := by
  rw [tokens_listed, List.flatMap_eq_nil_iff]
  refine (OrdMap.forall_listed_iff (fun check : TokenCheck => check.identifier.value) id
    (fun name check => differing moreAllowed records name check = [])
    fun name absent => ?_).trans ?_
  · rw [OrdMap.mem_keys, Option.not_isSome_iff_eq_none] at absent
    rw [differing_none_eq_nil, OrdMap.getD, absent]
    exact fun _ => ⟨fun _ => rfl, rfl⟩
  · simp only [id, differing_some_eq_nil, differing_none_eq_nil]
    constructor
    · rintro ⟨listed, unlisted⟩
      refine ⟨List.forall_mem_map.2 listed, fun strict name apart => unlisted name ?_ strict⟩
      exact fun check counts => apart check.decisive (List.mem_map_of_mem counts)
    · rintro ⟨listed, unlisted⟩
      refine ⟨List.forall_mem_map.1 listed, fun name apart strict => unlisted strict name ?_⟩
      exact List.forall_mem_map.2 apart

/-! ### Accounts -/

theorem storage_met {expected : EntriesCheck (Written Bytes × Check Bytes)} {account : Account} :
    storage expected account = [] ↔ ∀ entries moreAllowed,
      expected.relist (decisive (·.1.value)) = .listed entries moreAllowed →
        StorageMet entries moreAllowed account := by
  cases expected with
  | ignored => simp [storage, EntriesCheck.relist]
  | listed entries moreAllowed => simp [storage_eq_nil, EntriesCheck.relist]

theorem tokens_met {world : World} {expected : AccountCheck} :
    (∃ records, heldTokens world expected = .ok records ∧ tokens expected.tokens records = []) ↔
      ∀ entries moreAllowed, expected.decisive.tokens = .listed entries moreAllowed →
        ∃ records, world.tokens expected.address.value = .ok records ∧
          TokensMet entries moreAllowed records := by
  cases asked : expected.tokens with
  | ignored => simp [heldTokens, tokens, EntriesCheck.relist, AccountCheck.decisive, asked]
  | listed entries moreAllowed =>
    simp [heldTokens, tokens_eq_nil, EntriesCheck.relist, AccountCheck.decisive, asked]

theorem account_eq_nil {world : World} {expected : AccountCheck} :
    account world expected = .ok [] ↔ ∃ account, AccountMet world expected.decisive account := by
  have parts : account world expected = .ok [] ↔
      ∃ there, world.account? expected.address.value = some there ∧
        fields expected there = [] ∧ storage expected.storage there = [] ∧
          ∃ records, heldTokens world expected = .ok records ∧
            tokens expected.tokens records = [] := by
    unfold StateCheck.account
    cases found : world.account? expected.address.value with
    | none => simp [pure, Except.pure]
    | some there =>
      cases read : heldTokens world expected with
      | error fault =>
        have mapped : (Except.error fault : Except Token.Fault Records).mapError
            World.Fault.tokenStorage = .error (.tokenStorage fault) := rfl
        simp [mapped, bind, Except.bind]
      | ok records =>
        have mapped : (Except.ok records : Except Token.Fault Records).mapError
            World.Fault.tokenStorage = .ok records := rfl
        simp [mapped, bind, Except.bind, pure, Except.pure]
  rw [parts]
  -- What counts of an expectation has the same fields.
  constructor
  · rintro ⟨there, found, plain, stored, held⟩
    exact ⟨there, found, fields_eq_nil.1 plain, storage_met.1 stored, tokens_met.1 held⟩
  · rintro ⟨there, found, plain, stored, held⟩
    have unchanged : fields expected.decisive there = [] := fields_eq_nil.2 plain
    exact ⟨there, found, unchanged, storage_met.2 stored, tokens_met.2 held⟩

theorem unexpected_eq_nil {world : World} {step : CheckState} :
    unexpected world step = [] ↔ (step.moreAllowed = false → ∀ address,
      (world.account? address).isSome → address ≠ Address.systemAccount →
        ∃ expected ∈ step.accounts, expected.address.value = address) := by
  cases allowed : step.moreAllowed with
  | true => simp [unexpected, allowed]
  | false => simp [unexpected, allowed, List.filter_eq_nil_iff, OrdMap.mem_keys, World.account?]

/-- Lists that are made one by one are all empty exactly if each is. -/
theorem flatten_mapM_eq_nil {ι α ε : Type} {make : ι → Except ε (List α)} {items : List ι} :
    (∃ parts, items.mapM make = .ok parts ∧ parts.flatten = []) ↔
      ∀ item ∈ items, make item = .ok [] := by
  induction items with
  | nil => simp [pure, Except.pure]
  | cons first rest ih =>
    rw [List.forall_mem_cons, ← ih, List.mapM_cons]
    cases make first with
    | error fault => simp [bind, Except.bind]
    | ok part =>
      cases rest.mapM make with
      | error fault => simp [bind, Except.bind]
      | ok parts => simp [bind, Except.bind, pure, Except.pure]

/-- Nothing is reported exactly if what counts of the step is met. -/
theorem compare_eq_nil {world : World} {step : CheckState} :
    compare world step = .ok [] ↔ step.decisive.Met world := by
  have parts : compare world step = .ok [] ↔ unexpected world step = [] ∧
      ∃ parts, step.accounts.mapM (account world) = .ok parts ∧ parts.flatten = [] := by
    unfold StateCheck.compare
    cases step.accounts.mapM (account world) with
    | error fault => simp [bind, Except.bind]
    | ok parts => simp [bind, Except.bind, pure, Except.pure]
  rw [parts, flatten_mapM_eq_nil, unexpected_eq_nil]
  constructor
  · rintro ⟨unlisted, listed⟩
    refine ⟨fun strict address there apart => ?_, ?_⟩
    · obtain ⟨expected, named, same⟩ := unlisted strict address there apart
      exact ⟨expected.decisive, List.mem_map_of_mem named, same⟩
    · exact List.forall_mem_map.2 fun expected named => account_eq_nil.1 (listed expected named)
  · rintro ⟨unlisted, listed⟩
    refine ⟨fun strict address there apart => ?_, fun expected named => ?_⟩
    · obtain ⟨_, named, same⟩ := unlisted strict address there apart
      obtain ⟨expected, member, rfl⟩ := List.mem_map.1 named
      exact ⟨expected, member, same⟩
    · exact account_eq_nil.2 (listed expected.decisive (List.mem_map_of_mem named))

end StateCheck

/-! ## Steps that name nothing twice -/

theorem EntriesCheck.relist_eq {α : Type} {expected : EntriesCheck α} {f : List α → List α}
    (same : f expected.entries = expected.entries) : expected.relist f = expected := by
  cases expected with
  | ignored => rfl
  | listed entries moreAllowed => exact congrArg (EntriesCheck.listed · moreAllowed) same

theorem TokenCheck.decisive_eq {check : TokenCheck}
    (distinct : (check.instances.map (·.nonce.value)).Nodup) : check.decisive = check := by
  rw [TokenCheck.decisive, decisive_of_nodup distinct]

/-- Of tokens that are named once, with their instances, everything counts. -/
theorem TokenCheck.map_decisive_eq {entries : List TokenCheck}
    (tokens : (entries.map (·.identifier.value)).Nodup)
    (instances : ∀ check ∈ entries, (check.instances.map (·.nonce.value)).Nodup) :
    (ChainScenario.decisive (·.identifier.value) entries).map TokenCheck.decisive = entries := by
  rw [decisive_of_nodup tokens]
  exact (List.map_congr_left fun check named =>
    TokenCheck.decisive_eq (instances check named)).trans (List.map_id' _)

/-- Of an expectation that names nothing twice everything counts. -/
theorem AccountCheck.Distinct.decisive_eq {expected : AccountCheck} (distinct : expected.Distinct) :
    expected.decisive = expected := by
  rw [AccountCheck.decisive, EntriesCheck.relist_eq (decisive_of_nodup distinct.storage),
    EntriesCheck.relist_eq (TokenCheck.map_decisive_eq distinct.tokens distinct.instances)]

theorem CheckState.decisive_eq {step : CheckState}
    (distinct : ∀ expected ∈ step.accounts, expected.Distinct) : step.decisive = step := by
  have same : step.accounts.map AccountCheck.decisive = step.accounts :=
    (List.map_congr_left fun expected named => (distinct expected named).decisive_eq).trans
      (List.map_id' _)
  rw [CheckState.decisive, same]

namespace Run

variable {σ : Type}

/-- A step ends well exactly if what counts of it is met, and then nothing has changed. -/
theorem checkState_ok {step : CheckState} {executor after : Executor σ} :
    checkState step executor = .ok () after ↔
      step.decisive.Met executor.world ∧ after = executor := by
  have ends : checkState step executor = .ok () after ↔
      StateCheck.compare executor.world step = .ok [] ∧ after = executor := by
    change (ofExcept (StateCheck.compare executor.world step) .ledger >>=
      fun mismatches : List StateCheck.Mismatch =>
        if !mismatches.isEmpty then throw (.wrongState step.identifier mismatches)
        else pure ()) executor = _ ↔ _
    cases StateCheck.compare executor.world step with
    | error fault => simp [ofExcept, ok_bind]
    | ok mismatches => cases mismatches <;> simp [ofExcept]
  rw [ends, StateCheck.compare_eq_nil]

/-- A step that names nothing twice ends well exactly if it is met. -/
theorem checkState_iff {step : CheckState}
    (distinct : ∀ expected ∈ step.accounts, expected.Distinct) (executor : Executor σ) :
    (∃ after, checkState step executor = .ok () after) ↔ step.Met executor.world := by
  have whole := CheckState.decisive_eq distinct
  constructor
  · rintro ⟨after, passed⟩
    have met := (checkState_ok.1 passed).1
    rwa [whole] at met
  · intro met
    rw [← whole] at met
    exact ⟨executor, checkState_ok.2 ⟨met, rfl⟩⟩

/-- An account that stores `b` under `k` and may mint the three of a token that it holds. -/
def strongbox : Account :=
  { Account.blank (List.replicate Address.length 1) with
    storage := .ofList [(Utf8.ofString "k", Utf8.ofString "b"),
      (Token.holdingKey (Utf8.ofString "TOKEN-123456") 0, [0, 1, 3, 0, 0]),
      (Token.rolesKey (Utf8.ofString "TOKEN-123456"), [1, 17] ++ Utf8.ofString "ESDTRoleLocalMint")] }

/-- The step that expects it and its token, with the given entries of storage. -/
def strongboxCheck (entries : List (Written Bytes × Check Bytes)) : CheckState where
  comment := ""
  accounts := [{
    address := .implied strongbox.address
    storage := .listed entries false
    tokens := .listed [{
      identifier := .implied (Utf8.ofString "TOKEN-123456")
      instances := [{ InstanceCheck.blank (.implied 0) with balance := .implied 3 }]
      lastNonce := .unspecified
      roles := ["ESDTRoleLocalMint"]
      frozen := .implied 0 }] false }]

/-- The account is as the step expects that names its key once. -/
theorem checkState_iff_strongbox :
    (strongboxCheck [(.implied (Utf8.ofString "k"), .implied (Utf8.ofString "b"))]).Met
      (Executor.alone strongbox).world := by
  refine (checkState_iff (fun expected named => ?_) (.alone strongbox)).1 ?_
  · obtain rfl := List.mem_singleton.1 named
    refine ⟨by decide +kernel, by decide +kernel, fun check listed => ?_⟩
    obtain rfl := List.mem_singleton.1 listed
    decide +kernel
  · have ended : endedWith (fun _ _ => true) (checkState (strongboxCheck
        [(.implied (Utf8.ofString "k"), .implied (Utf8.ofString "b"))]) (.alone strongbox)) = true := by
      decide +kernel
    obtain ⟨_, after, ran, -⟩ := ok_of_endedWith ended
    exact ⟨after, ran⟩

end Run

/-! ## What is written and what is met -/

/-- What is written of the storage and of the tokens of an account is met, whether it counts or not. -/
structure AccountCheck.Upheld (expected : AccountCheck) (world : World) : Prop where
  storage : ∀ entry ∈ expected.storage.entries, Address.isProtected entry.1.value = false →
    ∃ account, world.account? expected.address.value = some account ∧
      entry.2.accepts (account.stored entry.1.value)
  tokens : ∀ check ∈ expected.tokens.entries, ∃ records,
    world.tokens expected.address.value = .ok records ∧
      StateCheck.PropertiesMet check (records.getD check.identifier.value .blank) ∧
      ∀ part ∈ check.instances, StateCheck.InstanceMet part
        ((records.getD check.identifier.value .blank).instances.get? part.nonce.value)

theorem StateCheck.AccountMet.upheld {world : World} {expected : AccountCheck} {account : Account}
    (met : AccountMet world expected account) : expected.Upheld world := by
  constructor
  · intro entry written free
    cases asked : expected.storage with
    | ignored =>
      rw [asked] at written
      cases written
    | listed entries moreAllowed =>
      rw [asked] at written
      exact ⟨account, met.found, (met.storage entries moreAllowed asked).listed entry written free⟩
  · intro check written
    cases asked : expected.tokens with
    | ignored =>
      rw [asked] at written
      cases written
    | listed entries moreAllowed =>
      rw [asked] at written
      obtain ⟨records, read, held⟩ := met.tokens entries moreAllowed asked
      have token := held.listed check written
      exact ⟨records, read, token.properties, token.listed⟩

namespace Run

variable {σ : Type}

/-- After a step that ended well all that counts is met, and for an account of which nothing is named
twice all that is written. -/
theorem checkState_upheld {step : CheckState} {executor after : Executor σ}
    (passed : checkState step executor = .ok () after) :
    ∀ expected ∈ step.accounts, expected.decisive.Upheld executor.world ∧
      (expected.Distinct → expected.Upheld executor.world) := by
  intro expected named
  obtain ⟨met, -⟩ := checkState_ok.1 passed
  obtain ⟨account, holds⟩ := met.listed expected.decisive (List.mem_map_of_mem named)
  refine ⟨holds.upheld, fun distinct => ?_⟩
  rw [distinct.decisive_eq] at holds
  exact holds.upheld

/-- A step that expects first `a` and then `b` under one key, in two spellings. -/
def strongboxTwice : CheckState :=
  strongboxCheck [(⟨Utf8.ofString "k", .string "str:k"⟩, .implied (Utf8.ofString "a")),
    (⟨Utf8.ofString "k", .string "0x6b"⟩, .implied (Utf8.ofString "b"))]

theorem checkState_strongboxTwice :
    ∃ after, checkState strongboxTwice (.alone strongbox) = .ok () after := by
  have ended : endedWith (fun _ _ => true) (checkState strongboxTwice (.alone strongbox)) = true := by
    decide +kernel
  obtain ⟨_, after, ran, -⟩ := ok_of_endedWith ended
  exact ⟨after, ran⟩

/-- The step ends well, so the later of its two expectations is met. -/
theorem checkState_upheld_strongbox : ∃ account,
    (Executor.alone strongbox).world.account? strongbox.address = some account ∧
      (Check.implied (Utf8.ofString "b")).accepts (account.stored (Utf8.ofString "k")) := by
  obtain ⟨after, passed⟩ := checkState_strongboxTwice
  obtain ⟨upheld, -⟩ := checkState_upheld passed _ (List.mem_singleton.2 rfl)
  have last : (⟨Utf8.ofString "k", .string "0x6b"⟩, .implied (Utf8.ofString "b")) ∈
      decisive (·.1.value) [((⟨Utf8.ofString "k", .string "str:k"⟩ : Written Bytes),
        Check.implied (Utf8.ofString "a")),
        (⟨Utf8.ofString "k", .string "0x6b"⟩, .implied (Utf8.ofString "b"))] :=
    mem_decisive_iff.2 ⟨[_], [], rfl, by simp⟩
  exact upheld.storage _ last (by decide +kernel)

/-- The step ends well though the earlier of its two expectations is not met. -/
theorem checkState_not_upheld :
    ¬∀ (step : CheckState) (executor after : Executor Dummy),
      checkState step executor = .ok () after →
        ∀ expected ∈ step.accounts, expected.Upheld executor.world := by
  intro upheld
  obtain ⟨after, passed⟩ := checkState_strongboxTwice
  have met := upheld _ _ _ passed _ (List.mem_singleton.2 rfl)
  obtain ⟨account, found, accepted⟩ := met.storage _ (List.mem_cons_self ..) (by decide +kernel)
  have there : (Executor.alone strongbox).world.account? strongbox.address = some strongbox := by
    rfl
  obtain rfl := Option.some.inj (there.symm.trans found)
  revert accepted
  decide +kernel

end Run
end ChainScenario
