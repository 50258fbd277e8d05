import ChainScenario.Proofs.Gathering
import ChainScenario.Proofs.SetState

/-!
# Updates of accounts

An update lays the account that a setting stands for over the one of the ledger. Main statement:
`AccountSetting.update_merges`, which fields are taken over and when these are all that are written.
-/
namespace ChainScenario

/-- Every account is stored under its own address. -/
def World.InPlace (world : World) : Prop :=
  ∀ address account, world.account? address = some account → account.address = address

namespace World

variable {world : World}

theorem InPlace.setAccount (inPlace : world.InPlace) {address : Bytes} {account : Account}
    (same : account.address = address) : (world.setAccount address account).InPlace := by
  intro other found there
  rw [account?_setAccount] at there
  split at there
  · rename_i here
    cases there
    exact same.trans here.symm
  · exact inPlace other found there

theorem InPlace.putAccount (inPlace : world.InPlace) (account : Account) :
    (world.putAccount account).InPlace :=
  inPlace.setAccount rfl

theorem inPlace_alone (account : Account) : (alone account).InPlace := by
  have empty : (new []).InPlace := fun _ _ found => nomatch found
  exact fun address found there => empty.putAccount account address found there

end World

open Token in
/-- Tokens are saved under keys of the protocol. -/
theorem TokenSetting.marked_entries {setting : TokenSetting} {entry : Bytes × Bytes}
    (saved : entry ∈ setting.entries) :
    ∃ mark, Address.protectedKey <+: mark ∧ mark <+: entry.1 := by
  simp only [entries, List.mem_append, List.mem_map, Option.mem_toList, Option.map_eq_some_iff,
    List.mem_singleton] at saved
  rcases saved with (⟨one, -, rfl⟩ | ⟨nonce, -, rfl⟩) | rfl
  · exact ⟨holdingMark, by decide, marked_holdingKey _ _⟩
  · exact ⟨nonceMark, by decide, List.prefix_append _ _⟩
  · exact ⟨rolesMark, by decide, List.prefix_append _ _⟩

namespace AccountSetting

variable {setting : AccountSetting}

theorem ne_of_unprotected {key : Bytes} (free : Address.isProtected key = false) :
    ∀ entry ∈ setting.entries, key ≠ entry.1 := by
  rintro entry saved rfl
  obtain ⟨token, -, part⟩ := List.mem_flatMap.1 saved
  obtain ⟨mark, inside, marked⟩ := TokenSetting.marked_entries part
  exact Token.unmarked_of_unprotected free inside marked

/-! ## The merged account -/

theorem address_merge (old new : Account) : (setting.merge old new).address = old.address := by
  unfold merge
  split <;> rfl

/-- An entry of storage is that of the new account if it has one, else that of the old. -/
theorem get?_merge (old new : Account) (key : Bytes) :
    (setting.merge old new).storage.get? key = (new.storage.get? key).or (old.storage.get? key) := by
  have laid : (setting.merge old new).storage = old.storage.insertAll new.storage.toList := rfl
  rw [laid, OrdMap.get?_insertAll, OrdMap.ofList_toList]

theorem stored_merge_of_get? {old new : Account} {key value : Bytes}
    (written : new.storage.get? key = some value) : (setting.merge old new).stored key = value := by
  apply Account.stored_of_get?
  rw [get?_merge, written, Option.some_or]

theorem stored_merge_of_missing {old new : Account} {key : Bytes}
    (missing : new.storage.get? key = none) :
    (setting.merge old new).stored key = old.stored key := by
  have kept : (setting.merge old new).storage.get? key = _ := get?_merge old new key
  rw [missing, Option.none_or] at kept
  exact congrArg (·.getD []) kept

/-- An accepted update puts the merged account into the place of the old one. -/
theorem ok_update (updates : setting.update = true) {world after : World} (inPlace : world.InPlace)
    (ran : setting.apply world = .ok () after) :
    ∃ old, world.account? setting.address.value = some old ∧
      (valueOr 0 setting.shard).toNat < UInt32.size ∧
      after = world.setAccount setting.address.value (setting.merge old setting.meant) := by
  unfold apply at ran
  cases converts : setting.toAccount with
  | error fault => simp [converts] at ran
  | ok account =>
    obtain ⟨rfl, small, -⟩ := ok_toAccount converts
    simp only [converts, updates, if_true] at ran
    rw [get_bind] at ran
    cases found : world.account? setting.address.value with
    | none => simp [found] at ran
    | some old =>
      rw [found] at ran
      refine ⟨old, rfl, small, ?_⟩
      rw [(ok_accept.1 ran).2, World.putAccount, address_merge, inPlace _ old found]

/-! ## What an update takes over -/

/-- Each of these fields has the value that is written for it and is as before if none is, and of
several entries for one key of storage the last one counts. Keys of the protocol are left out. -/
structure Taken (setting : AccountSetting) (old new : Account) : Prop where
  nonce : new.nonce = valueOr old.nonce setting.nonce
  balance : new.balance = valueOr old.balance setting.balance
  username : new.username = valueOr old.username setting.username
  owner : new.owner = valueOr old.owner setting.owner
  code : new.code = valueOr old.code setting.code
  shard : new.shard.toUInt64 = valueOr old.shard.toUInt64 setting.shard
  listed : ∀ entry ∈ decisive (·.1.value) setting.storage,
    Address.isProtected entry.1.value = false → new.stored entry.1.value = entry.2.value
  unlisted : ∀ key, Address.isProtected key = false →
    (∀ entry ∈ setting.storage, entry.1.value ≠ key) → new.stored key = old.stored key

/-- All fields that are written are taken over, and exactly these. -/
structure Merged (setting : AccountSetting) (old new : Account) : Prop extends Taken setting old new where
  codeMetadata : new.codeMetadata = valueOr old.codeMetadata setting.codeMetadata
  developerReward : new.developerReward = valueOr old.developerReward setting.developerReward

theorem ite_isSome {α : Type} (written : Option (Written α)) (fallback old : α) :
    (if written.isSome then valueOr fallback written else old) = valueOr old written := by
  cases written <;> rfl

theorem shard_merge (old : Account) (small : (valueOr 0 setting.shard).toNat < UInt32.size) :
    (setting.merge old setting.meant).shard.toUInt64 = valueOr old.shard.toUInt64 setting.shard := by
  change (if setting.shard.isSome then (valueOr 0 setting.shard).toUInt32 else old.shard).toUInt64 = _
  cases given : setting.shard with
  | none => rfl
  | some written =>
    rw [given] at small
    apply UInt64.toNat_inj.1
    exact (UInt64.toNat_toUInt32 written.value).trans (Nat.mod_eq_of_lt small)

theorem code_merge (old new : Account) :
    (setting.merge old new).code = if setting.code.isSome then new.code else old.code := by
  unfold merge
  split <;> rfl

theorem codeMetadata_merge (old new : Account) :
    (setting.merge old new).codeMetadata =
      if setting.code.isSome then new.codeMetadata else old.codeMetadata := by
  unfold merge
  split <;> rfl

theorem developerReward_merge (old new : Account) :
    (setting.merge old new).developerReward = old.developerReward := by
  unfold merge
  split <;> rfl

theorem taken_merge (old : Account) (small : (valueOr 0 setting.shard).toNat < UInt32.size) :
    setting.Taken old (setting.merge old setting.meant) := by
  -- apart from the tokens a new account stores what is listed
  have plain : ∀ key, Address.isProtected key = false →
      setting.meant.storage.get? key = setting.plain.storage.get? key :=
    fun key free => get?_meant_of_unsaved (ne_of_unprotected free)
  constructor
  case nonce => exact ite_isSome setting.nonce 0 old.nonce
  case balance => exact ite_isSome setting.balance 0 old.balance
  case username => exact ite_isSome setting.username [] old.username
  case owner => exact ite_isSome setting.owner [] old.owner
  case code => exact (code_merge old _).trans (ite_isSome setting.code [] old.code)
  case shard => exact shard_merge old small
  case listed =>
    intro entry counts free
    apply stored_merge_of_get?
    rw [plain _ free]
    exact get?_plain.2 ⟨entry, counts, rfl, rfl⟩
  case unlisted =>
    intro key free unlisted
    apply stored_merge_of_missing
    rw [plain key free]
    refine Option.eq_none_iff_forall_ne_some.2 fun value found => ?_
    obtain ⟨entry, counts, same, -⟩ := get?_plain.1 found
    exact unlisted entry (mem_of_mem_decisive counts) same

/-- Nothing is written that an update passes over: no developer reward but the one there is, no metadata
apart from code, and no code that gets other metadata than before because none is written. -/
structure Heeded (setting : AccountSetting) (old : Account) : Prop where
  developerReward : ∀ written, setting.developerReward = some written →
    written.value = old.developerReward
  apart : setting.code = none → ∀ written, setting.codeMetadata = some written →
    written.value = old.codeMetadata
  implied : setting.code.isSome → setting.codeMetadata = none → setting.metadata = old.codeMetadata

theorem merged_iff (old : Account) (small : (valueOr 0 setting.shard).toNat < UInt32.size) :
    setting.Merged old (setting.merge old setting.meant) ↔ setting.Heeded old := by
  constructor
  · intro merged
    have reward := merged.developerReward
    have metadata := merged.codeMetadata
    rw [developerReward_merge] at reward
    rw [codeMetadata_merge] at metadata
    constructor
    case developerReward =>
      intro written given
      rw [given] at reward
      exact reward.symm
    case apart =>
      intro uncoded written given
      rw [uncoded, given] at metadata
      exact metadata.symm
    case implied =>
      intro coded ungiven
      rw [if_pos coded, ungiven] at metadata
      exact metadata
  · intro heeded
    refine ⟨taken_merge old small, ?_, ?_⟩
    · rw [codeMetadata_merge]
      cases given : setting.codeMetadata with
      | none =>
        split
        · rename_i coded
          exact heeded.implied coded given
        · rfl
      | some written =>
        split
        · change setting.metadata = written.value
          rw [metadata, given]
        · rename_i uncoded
          exact (heeded.apart (Option.not_isSome_iff_eq_none.1 uncoded) written given).symm
    · rw [developerReward_merge]
      cases given : setting.developerReward with
      | none => rfl
      | some written => exact (heeded.developerReward written given).symm

/-- An update takes over all that is written but the developer reward and the metadata of the code. The
reward stays as it is, and metadata comes with code only, the usual one if none is written. -/
theorem update_merges (updates : setting.update = true) {world after : World} (inPlace : world.InPlace)
    (ran : setting.apply world = .ok () after) :
    ∃ old new, world.account? setting.address.value = some old ∧
      after.account? setting.address.value = some new ∧
      (∀ other, other ≠ setting.address.value → after.account? other = world.account? other) ∧
      setting.Taken old new ∧
      new.developerReward = old.developerReward ∧
      new.codeMetadata = (if setting.code.isSome then setting.metadata else old.codeMetadata) ∧
      (setting.Merged old new ↔ setting.Heeded old) := by
  obtain ⟨old, found, small, rfl⟩ := ok_update updates inPlace ran
  refine ⟨old, setting.merge old setting.meant, found, ?_, ?_, taken_merge old small,
    developerReward_merge old _, codeMetadata_merge old _, merged_iff old small⟩
  · rw [World.account?_setAccount, if_pos rfl]
  · intro other elsewhere
    rw [World.account?_setAccount, if_neg elsewhere]

/-- An account with a developer reward. -/
def beneficiary : Account :=
  { Account.blank (List.replicate Address.length 1) with developerReward := 7 }

/-- An update that writes a nonce and another reward. -/
def payout : AccountSetting where
  address := .implied beneficiary.address
  update := true
  nonce := some (.implied 4)
  developerReward := some (.implied 5)

theorem apply_payout : ∃ after, payout.apply (.alone beneficiary) = .ok () after ∧
    ∀ new, after.account? beneficiary.address = some new → new.developerReward = 7 := by
  have ended : endedWith (fun _ after => (after.account? beneficiary.address).all
      fun new => decide (new.developerReward = 7)) (payout.apply (.alone beneficiary)) = true := by
    decide +kernel
  obtain ⟨⟨⟩, after, ran, all⟩ := ok_of_endedWith ended
  refine ⟨after, ran, fun new found => ?_⟩
  rw [found] at all
  exact of_decide_eq_true all

/-- The nonce is taken over, the reward is not. -/
theorem update_merges_payout : ∃ after new, payout.apply (.alone beneficiary) = .ok () after ∧
    after.account? beneficiary.address = some new ∧ new.nonce = 4 ∧ new.developerReward = 7 := by
  obtain ⟨after, ran, kept⟩ := apply_payout
  obtain ⟨_, new, -, found, -, taken, -⟩ :=
    update_merges rfl (World.inPlace_alone beneficiary) ran
  exact ⟨after, new, ran, found, taken.nonce, kept new found⟩

/-- Not all that is written is taken over. -/
theorem update_not_merged :
    ¬∀ (setting : AccountSetting) (world after : World), setting.update = true → world.InPlace →
      setting.apply world = .ok () after →
        ∃ old new, world.account? setting.address.value = some old ∧
          after.account? setting.address.value = some new ∧
          (∀ other, other ≠ setting.address.value → after.account? other = world.account? other) ∧
          setting.Merged old new := by
  intro merges
  obtain ⟨after, ran, kept⟩ := apply_payout
  obtain ⟨_, new, -, found, -, merged⟩ :=
    merges payout (.alone beneficiary) after rfl (World.inPlace_alone beneficiary) ran
  have paid : new.developerReward = 5 := merged.developerReward
  rw [kept new found] at paid
  cases paid

end AccountSetting
end ChainScenario
