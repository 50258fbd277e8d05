import ChainScenario.Proofs.Action
import ChainScenario.Proofs.Codec
import ChainScenario.Proofs.Listed
import ChainScenario.Proofs.Results
import ChainScenario.Proofs.Storage
import ChainScenario.Run.SetState

/-!
# Accounts as they are written

What the conversion of a setting gives when it succeeds: `ok_holding` for an instance, `ok_withToken` for
a token and `ok_toAccount` for an account. The tokens of a setting are entries that are saved one after
another (`stored_meant`), and a step that replaces accounts is a list of accounts put into the ledger
(`SetState.ok_apply`).
-/
namespace ChainScenario

/-! ## Conversions -/

theorem Written.ok_to32Bits {field : String} {written : Written UInt64} {value : UInt32}
    (converts : written.to32Bits field = .ok value) :
    value = written.value.toUInt32 ∧ written.value.toNat < UInt32.size := by
  unfold Written.to32Bits at converts
  split at converts
  · rename_i small
    cases converts
    exact ⟨rfl, small⟩
  · cases converts

/-- The holding that an instance of a setting stands for. -/
def InstanceSetting.meant (setting : InstanceSetting) (token : Bytes) (frozen : Bool) : Token.Holding where
  kind := if setting.nonce.value = 0 then .fungible else .nonFungible
  value := setting.balance.value
  properties := if frozen then [1] else []
  metadata := setting.metadata token (valueOr 0 setting.royalties).toUInt32

theorem InstanceSetting.ok_holding {setting : InstanceSetting} {token : Bytes} {frozen : Bool}
    {holding : Token.Holding} (converts : setting.holding token frozen = .ok holding) :
    holding = setting.meant token frozen ∧ (valueOr 0 setting.royalties).toNat < UInt32.size := by
  unfold InstanceSetting.holding at converts
  cases given : setting.royalties with
  | none =>
    rw [given] at converts
    cases converts
    exact ⟨by simp [meant, given, valueOr], by decide⟩
  | some written =>
    rw [given] at converts
    obtain ⟨royalties, fits, same⟩ := except_bind.1 converts
    obtain ⟨rfl, small⟩ := Written.ok_to32Bits fits
    cases same
    exact ⟨by simp [meant, given, valueOr], small⟩

namespace Account

def withInstance (account : Account) (token : Bytes) (frozen : Bool) (one : InstanceSetting) :
    Account :=
  account.saveHolding token one.nonce.value (one.meant token frozen)

def withLastNonce (account : Account) (token : Bytes) (nonce : Option (Written UInt64)) : Account :=
  nonce.elim account fun nonce => account.setLastNonce token nonce.value

/-- The account with a token saved: its instances one after another, its last nonce and its roles. -/
def savedToken (account : Account) (setting : TokenSetting) : Account :=
  let token := setting.identifier.value
  ((setting.instances.foldl (withInstance · token (valueOr 0 setting.frozen != 0))
    account).withLastNonce token setting.lastNonce).setRoles token (setting.roles.map Utf8.ofString)

/-- A token is saved only if the royalties of its instances fit 32 bits. -/
theorem royalties_of_withToken {account written : Account} {setting : TokenSetting}
    (writes : account.withToken setting = .ok written) :
    ∀ one ∈ setting.instances, (valueOr 0 one.royalties).toNat < UInt32.size := by
  intro one listed
  simp only [withToken, except_bind] at writes
  obtain ⟨held, folded, -⟩ := writes
  obtain ⟨_, _, stepped⟩ := ok_of_mem_foldlM folded listed
  obtain ⟨holding, converts, -⟩ := except_bind.1 stepped
  exact (InstanceSetting.ok_holding converts).2

theorem ok_withToken {account written : Account} {setting : TokenSetting}
    (writes : account.withToken setting = .ok written) : written = account.savedToken setting := by
  simp only [withToken, except_bind] at writes
  obtain ⟨held, folded, rest⟩ := writes
  have saved : held = setting.instances.foldl
      (withInstance · setting.identifier.value (valueOr 0 setting.frozen != 0)) account := by
    refine foldlM_eq_foldl ?_ folded
    intro account one next stepped
    obtain ⟨holding, converts, same⟩ := except_bind.1 stepped
    obtain ⟨rfl, -⟩ := InstanceSetting.ok_holding converts
    cases same
    rfl
  rw [savedToken, ← saved]
  cases given : setting.lastNonce <;> rw [given] at rest <;> cases rest <;> rfl

end Account

namespace AccountSetting

/-- The account of a setting before its tokens are saved. -/
def plain (setting : AccountSetting) : Account :=
  setting.storage.foldl (fun account entry => account.put entry.1.value entry.2.value)
    (Account.blank setting.address.value)

/-- An account with the fields of a setting; its storage is that of another account. -/
def filled (setting : AccountSetting) (stored : Account) : Account :=
  { stored with
    nonce := valueOr 0 setting.nonce
    balance := valueOr 0 setting.balance
    developerReward := valueOr 0 setting.developerReward
    username := valueOr [] setting.username
    owner := valueOr [] setting.owner
    asyncCallData := valueOr [] setting.asyncCallData
    shard := (valueOr 0 setting.shard).toUInt32
    codeMetadata := setting.metadata }.withCode (valueOr [] setting.code)

/-- The account that a setting stands for. -/
def meant (setting : AccountSetting) : Account :=
  setting.filled (setting.tokens.foldl Account.savedToken setting.plain)

theorem ok_validateAddress {setting : AccountSetting} :
    setting.validateAddress = .ok () ↔ setting.address.value.length = Address.length := by
  unfold validateAddress
  split <;> simp_all

/-- Only an account whose address is one is converted, and then to what it stands for. -/
theorem ok_toAccount {setting : AccountSetting} {account : Account}
    (converts : setting.toAccount = .ok account) :
    account = setting.meant ∧ (valueOr 0 setting.shard).toNat < UInt32.size ∧
      setting.address.value.length = Address.length := by
  unfold toAccount at converts
  obtain ⟨⟨⟩, valid, converts⟩ := except_bind.1 converts
  obtain ⟨stored, folded, rest⟩ := except_bind.1 converts
  have addressed := ok_validateAddress.1 valid
  have saved := foldlM_eq_foldl (fun _ _ _ => Account.ok_withToken) folded
  rw [meant, plain, ← saved]
  cases given : setting.shard with
  | none =>
    rw [given] at rest
    cases rest
    exact ⟨by simp [filled, given, valueOr], by decide, addressed⟩
  | some written =>
    rw [given] at rest
    obtain ⟨shard, fits, same⟩ := except_bind.1 rest
    obtain ⟨rfl, small⟩ := Written.ok_to32Bits fits
    cases same
    exact ⟨by simp [filled, given, valueOr], small, addressed⟩

theorem royalties_of_toAccount {setting : AccountSetting} {account : Account}
    (converts : setting.toAccount = .ok account) :
    ∀ token ∈ setting.tokens, ∀ one ∈ token.instances,
      (valueOr 0 one.royalties).toNat < UInt32.size := by
  intro token listed
  unfold toAccount at converts
  obtain ⟨⟨⟩, -, converts⟩ := except_bind.1 converts
  obtain ⟨stored, folded, -⟩ := except_bind.1 converts
  obtain ⟨_, _, writes⟩ := ok_of_mem_foldlM folded listed
  exact Account.royalties_of_withToken writes

end AccountSetting

/-! ## Saved entries -/

namespace Account

open Token

theorem saveHolding_eq_save (account : Account) (token : Bytes) (nonce : UInt64) (holding : Holding) :
    account.saveHolding token nonce holding =
      account.save (holdingKey token nonce) (if holding.value = 0 then [] else holding.write) := by
  unfold saveHolding save
  split
  · rfl
  · rw [if_neg fun empty => holding.write_ne_nil (List.isEmpty_iff.1 empty)]
    rfl

theorem setRoles_eq_save (account : Account) (token : Bytes) (roles : List Bytes) :
    account.setRoles token roles =
      account.save (rolesKey token) (if roles.isEmpty then [] else writeRoles roles) := by
  unfold setRoles save
  split
  · rfl
  · rw [if_neg fun empty => writeRoles_ne_nil roles (List.isEmpty_iff.1 empty)]

/-- Of entries that are saved under different keys each is there. -/
theorem stored_saveAll_of_mem {account : Account} {entries : List (Bytes × Bytes)}
    (distinct : (entries.map Prod.fst).Nodup) {entry : Bytes × Bytes} (member : entry ∈ entries) :
    (entries.foldl (fun account entry => account.save entry.1 entry.2) account).stored entry.1 =
      entry.2 := by
  obtain ⟨front, back, rfl⟩ := List.append_of_mem member
  rw [List.map_append, List.map_cons] at distinct
  obtain ⟨-, tail, -⟩ := List.nodup_append.1 distinct
  -- what is saved later has other keys, and what was saved before does not matter
  have later : ∀ other ∈ back, entry.1 ≠ other.1 := by
    intro other behind same
    exact (List.nodup_cons.1 tail).1 (same ▸ List.mem_map_of_mem behind)
  rw [List.foldl_append, List.foldl_cons, stored_saveAll later, stored_save, if_pos rfl]

end Account

open Token in
/-- The entries of storage that stand for a token; an empty value stands for none. -/
def TokenSetting.entries (setting : TokenSetting) : List (Bytes × Bytes) :=
  let token := setting.identifier.value
  let roles := setting.roles.map Utf8.ofString
  setting.instances.map (fun one => (holdingKey token one.nonce.value,
    if one.balance.value = 0 then []
    else (one.meant token (valueOr 0 setting.frozen != 0)).write)) ++
  (setting.lastNonce.map fun nonce => (lastNonceKey token, nonceBytes nonce.value)).toList ++
  [(rolesKey token, if roles.isEmpty then [] else writeRoles roles)]

theorem Account.savedToken_eq (account : Account) (setting : TokenSetting) :
    account.savedToken setting =
      setting.entries.foldl (fun account entry => account.save entry.1 entry.2) account := by
  have held : setting.instances.foldl
      (withInstance · setting.identifier.value (valueOr 0 setting.frozen != 0)) account =
        setting.instances.foldl (fun account one =>
          account.save (Token.holdingKey setting.identifier.value one.nonce.value)
            (if one.balance.value = 0 then []
            else (one.meant setting.identifier.value (valueOr 0 setting.frozen != 0)).write)) account :=
    congrArg (List.foldl · account setting.instances)
      (funext fun account => funext fun one => account.saveHolding_eq_save _ _ _)
  rw [savedToken, setRoles_eq_save, held]
  simp only [TokenSetting.entries, List.foldl_append, List.foldl_map, List.foldl_cons, List.foldl_nil]
  cases setting.lastNonce <;> rfl

namespace AccountSetting

def entries (setting : AccountSetting) : List (Bytes × Bytes) :=
  setting.tokens.flatMap TokenSetting.entries

theorem meant_eq (setting : AccountSetting) :
    setting.meant = setting.filled
      (setting.entries.foldl (fun account entry => account.save entry.1 entry.2) setting.plain) := by
  have saves : Account.savedToken = fun account (token : TokenSetting) =>
      token.entries.foldl (fun account entry => account.save entry.1 entry.2) account :=
    funext fun account => funext fun token => account.savedToken_eq token
  rw [meant, entries, List.foldl_flatMap, saves]

theorem storage_meant (setting : AccountSetting) :
    setting.meant.storage =
      (setting.entries.foldl (fun account entry => account.save entry.1 entry.2)
        setting.plain).storage := by
  rw [meant_eq]
  rfl

theorem stored_meant (setting : AccountSetting) (key : Bytes) :
    setting.meant.stored key =
      (setting.entries.foldl (fun account entry => account.save entry.1 entry.2)
        setting.plain).stored key :=
  congrArg (·.getD key []) setting.storage_meant

theorem get?_meant_of_unsaved {setting : AccountSetting} {key : Bytes}
    (unsaved : ∀ entry ∈ setting.entries, key ≠ entry.1) :
    setting.meant.storage.get? key = setting.plain.storage.get? key := by
  rw [storage_meant, Account.get?_saveAll unsaved]

theorem stored_meant_of_unsaved {setting : AccountSetting} {key : Bytes}
    (unsaved : ∀ entry ∈ setting.entries, key ≠ entry.1) :
    setting.meant.stored key = setting.plain.stored key :=
  congrArg (·.getD []) (get?_meant_of_unsaved unsaved)

/-- Before its tokens are saved an account stores what is written for it, of several values under one
key the last. -/
theorem get?_plain {setting : AccountSetting} {key value : Bytes} :
    setting.plain.storage.get? key = some value ↔
      ∃ entry ∈ decisive (·.1.value) setting.storage, entry.1.value = key ∧ entry.2.value = value := by
  -- entries are put one after another, which is how a map is made of a list
  have puts : ∀ (entries : List (Written Bytes × Written Bytes)) (account : Account),
      (entries.foldl (fun account entry => account.put entry.1.value entry.2.value) account).storage =
        account.storage.insertAll (entries.map fun entry => (entry.1.value, entry.2.value)) := by
    intro entries
    induction entries with
    | nil => exact fun _ => rfl
    | cons entry rest ih => exact fun account => ih (account.put entry.1.value entry.2.value)
  have made : setting.plain.storage =
      .ofList (setting.storage.map fun entry => (entry.1.value, entry.2.value)) := puts _ _
  rw [made, OrdMap.get?_named]

theorem address_meant (setting : AccountSetting) : setting.meant.address = setting.address.value := by
  -- neither plain entries nor tokens change anything but storage
  have puts : setting.plain.bare = Account.blank setting.address.value :=
    List.foldlRecOn setting.storage _ (motive := fun account : Account => account.bare = Account.blank _) rfl
      fun _ before _ _ => before
  have saves := (Account.bare_saveAll setting.plain setting.entries).trans puts
  rw [meant_eq]
  exact congrArg Account.address saves

end AccountSetting

/-! ## Accounts of the ledger -/

theorem Setting.keeps_ofExcept {α τ : Type} {view : World → τ} (result : Except Run.Fault α) :
    Keeps view (Setting.ofExcept result) := by
  cases result with
  | ok value => exact keeps_pure value
  | error fault => exact keeps_throw fault

theorem AccountSetting.ok_accept {setting : AccountSetting} {account : Account} {world after : World} :
    setting.accept account world = .ok () after ↔
      account.validate = .ok () ∧ after = world.putAccount account := by
  unfold accept
  cases account.validate with
  | ok _ => exact ok_modify.trans (and_iff_right rfl).symm
  | error cause => simp

/-- An account whose address has another length is refused, whatever else is written for it and whether
it would be replaced or updated, and the ledger is left alone. -/
theorem AccountSetting.apply_of_misaddressed {setting : AccountSetting}
    (other : setting.address.value.length ≠ Address.length) (world : World) :
    setting.apply world = .error .addressLength world := by
  have refused : setting.toAccount = .error .addressLength := by
    rw [toAccount, validateAddress, if_neg other]
    rfl
  rw [apply, refused]
  rfl

theorem AccountSetting.ok_apply {setting : AccountSetting} (replaces : setting.update = false)
    {world after : World} (ran : setting.apply world = .ok () after) :
    setting.toAccount = .ok setting.meant ∧
      after = world.setAccount setting.address.value setting.meant := by
  unfold AccountSetting.apply at ran
  cases converts : setting.toAccount with
  | error fault => simp [converts] at ran
  | ok account =>
    obtain ⟨rfl, -⟩ := ok_toAccount converts
    simp only [converts, replaces, Bool.false_eq_true, if_false] at ran
    exact ⟨rfl, by rw [(ok_accept.1 ran).2, World.putAccount, address_meant]⟩

/-- Accounts that are replaced one after another are put into the ledger in this order. -/
theorem AccountSetting.ok_applyAll {settings : List AccountSetting}
    (replace : ∀ setting ∈ settings, setting.update = false) {world after : World}
    (ran : settings.forM AccountSetting.apply world = .ok () after) :
    (∀ setting ∈ settings, setting.toAccount = .ok setting.meant) ∧
      after.accounts = world.accounts.insertAll
        (settings.map fun setting => (setting.address.value, setting.meant)) := by
  induction settings generalizing world with
  | nil =>
    obtain ⟨-, rfl⟩ := ok_pure.1 ran
    exact ⟨by simp, rfl⟩
  | cons setting rest ih =>
    obtain ⟨⟨⟩, middle, first, others⟩ := ok_bind.1 ran
    obtain ⟨converts, rfl⟩ := ok_apply (replace setting List.mem_cons_self) first
    obtain ⟨convert, same⟩ :=
      ih (fun other member => replace other (List.mem_cons_of_mem _ member)) others
    exact ⟨List.forall_mem_cons.2 ⟨converts, convert⟩, same⟩

open Setting in
theorem SetState.ok_apply {step : SetState} {world after : World}
    (ran : step.apply world = .ok () after) :
    ∃ middle, step.accounts.forM AccountSetting.apply world = .ok () middle ∧
      after.accounts = middle.accounts := by
  obtain ⟨⟨⟩, middle, accounts, rest⟩ := ok_bind.1 ran
  refine ⟨middle, accounts, ?_⟩
  -- blocks, hashes and addresses are set behind the accounts and do not touch them
  refine Keeps.ok (?_ : Keeps World.accounts _) rest
  refine keeps_get.bind fun _ => (keeps_ofExcept _).bind fun _ => (keeps_modify ?_).bind fun _ => ?_
  · exact fun _ => rfl
  refine keeps_get.bind fun _ => (keeps_ofExcept _).bind fun _ => (keeps_modify ?_).bind fun _ => ?_
  · exact fun _ => rfl
  exact (keeps_forM fun _ _ => keeps_ofExcept _).bind fun _ => keeps_modify fun _ => rfl

/-- After a step that replaces accounts, each once, on a ledger without accounts, these are there and no
others. -/
theorem SetState.ok_apply_replacing {step : SetState} {world after : World}
    (empty : world.accounts = .empty) (replace : ∀ setting ∈ step.accounts, setting.update = false)
    (distinct : (step.accounts.map (·.address.value)).Nodup)
    (ran : step.apply world = .ok () after) :
    (∀ setting ∈ step.accounts, setting.toAccount = .ok setting.meant) ∧
      ∀ address account, after.account? address = some account ↔
        ∃ setting ∈ step.accounts, setting.address.value = address ∧ setting.meant = account := by
  obtain ⟨middle, accounts, same⟩ := ok_apply ran
  obtain ⟨converts, made⟩ := AccountSetting.ok_applyAll replace accounts
  have listed : after.accounts =
      .ofList (step.accounts.map fun setting => (setting.address.value, setting.meant)) := by
    rw [same, made, empty]
    rfl
  refine ⟨converts, fun address account => ?_⟩
  change after.accounts.get? address = some account ↔ _
  rw [listed, OrdMap.get?_named, decisive_of_nodup distinct]

end ChainScenario
