import ChainScenario.Proofs.Integrity
import ChainScenario.Proofs.Merging
import Mathlib.Data.List.Nodup

/-!
# Updates of tokens

The tokens of an update are saved to a new account, and its storage is laid over that of the old one.
Nothing is saved for an amount of zero or a last nonce of zero, so that what the old account holds
stays. Main statement: `AccountSetting.update_tokens`.
-/
namespace ChainScenario

open Token

/-! ## Listed instances and last nonces -/

/-- The entry that is saved for an instance of a token. -/
def TokenSetting.holdingEntry (token : TokenSetting) (one : InstanceSetting) : Bytes × Bytes :=
  (holdingKey token.identifier.value one.nonce.value,
    if one.balance.value = 0 then []
    else (one.meant token.identifier.value (valueOr 0 token.frozen != 0)).write)

/-- The last nonce that is written for a token, if there is one. -/
def TokenSetting.counter (token : TokenSetting) : Option (Bytes × UInt64) :=
  token.lastNonce.map fun given => (token.identifier.value, given.value)

/-- The entry that is saved for a last nonce. -/
def counterEntry (counter : Bytes × UInt64) : Bytes × Bytes :=
  (lastNonceKey counter.1, nonceBytes counter.2)

def TokenSetting.rolesEntry (token : TokenSetting) : Bytes × Bytes :=
  let roles := token.roles.map Utf8.ofString
  (rolesKey token.identifier.value, if roles.isEmpty then [] else writeRoles roles)

section Marks

variable {entries : List (Bytes × Bytes)} {mark : Bytes}

theorem filter_of_marked (marked : ∀ entry ∈ entries, mark <+: entry.1) :
    entries.filter (mark.isPrefixOf ·.1) = entries :=
  List.filter_eq_self.2 fun entry member => List.isPrefixOf_iff_prefix.2 (marked entry member)

/-- No entry has two marks. -/
theorem filter_of_not_marked {other : Bytes} (marked : ∀ entry ∈ entries, other <+: entry.1)
    (longer : ¬other <+: mark) (shorter : ¬mark <+: other) :
    entries.filter (mark.isPrefixOf ·.1) = [] := by
  refine List.filter_eq_nil_iff.2 fun entry member too => ?_
  exact not_marked (marked entry member) longer shorter (List.isPrefixOf_iff_prefix.1 too)

end Marks

namespace TokenSetting

variable (token : TokenSetting)

theorem entries_eq : token.entries = token.instances.map token.holdingEntry ++
    token.counter.toList.map counterEntry ++ [token.rolesEntry] := by
  unfold entries counter
  cases token.lastNonce <;> rfl

theorem marked_slots : ∀ entry ∈ token.instances.map token.holdingEntry, holdingMark <+: entry.1 :=
  List.forall_mem_map.2 fun _ _ => marked_holdingKey _ _

theorem marked_counters : ∀ entry ∈ token.counter.toList.map counterEntry, nonceMark <+: entry.1 :=
  List.forall_mem_map.2 fun _ _ => List.prefix_append _ _

theorem marked_roles : ∀ entry ∈ [token.rolesEntry], rolesMark <+: entry.1 :=
  List.forall_mem_singleton.2 (List.prefix_append _ _)

theorem filter_slots :
    token.entries.filter (holdingMark.isPrefixOf ·.1) = token.instances.map token.holdingEntry := by
  rw [entries_eq, List.filter_append, List.filter_append, filter_of_marked token.marked_slots,
    filter_of_not_marked token.marked_counters (by decide) (by decide),
    filter_of_not_marked token.marked_roles (by decide) (by decide), List.append_nil, List.append_nil]

theorem filter_counters :
    token.entries.filter (nonceMark.isPrefixOf ·.1) = token.counter.toList.map counterEntry := by
  rw [entries_eq, List.filter_append, List.filter_append, filter_of_marked token.marked_counters,
    filter_of_not_marked token.marked_slots (by decide) (by decide),
    filter_of_not_marked token.marked_roles (by decide) (by decide), List.nil_append, List.append_nil]

end TokenSetting

namespace AccountSetting

variable {setting : AccountSetting}

/-- The instances that are listed, each with its token. -/
def instances (setting : AccountSetting) : List (TokenSetting × InstanceSetting) :=
  setting.tokens.flatMap fun token => token.instances.map (token, ·)

/-- The last nonces that are written, each with the identifier of its token. -/
def counters (setting : AccountSetting) : List (Bytes × UInt64) :=
  setting.tokens.flatMap (·.counter.toList)

/-- The slot of a listed instance. -/
def slotOf (listed : TokenSetting × InstanceSetting) : Bytes :=
  holdingKey listed.1.identifier.value listed.2.nonce.value

theorem filter_slots (setting : AccountSetting) :
    setting.entries.filter (holdingMark.isPrefixOf ·.1) =
      setting.instances.map fun listed => listed.1.holdingEntry listed.2 := by
  simp only [entries, instances, List.filter_flatMap, List.map_flatMap, List.map_map,
    TokenSetting.filter_slots, Function.comp_def]

theorem filter_counters (setting : AccountSetting) :
    setting.entries.filter (nonceMark.isPrefixOf ·.1) = setting.counters.map counterEntry := by
  simp only [entries, counters, List.filter_flatMap, List.map_flatMap, TokenSetting.filter_counters]

/-- An instance that counts has the entry that counts. -/
theorem slot_counts {listed : TokenSetting × InstanceSetting}
    (counts : listed ∈ decisive slotOf setting.instances) :
    listed.1.holdingEntry listed.2 ∈ decisive Prod.fst setting.entries := by
  apply mem_decisive_of_filter (p := (holdingMark.isPrefixOf ·.1))
  · intro other _ same
    rw [← same]
    exact List.isPrefixOf_iff_prefix.2 (marked_holdingKey _ _)
  · rw [filter_slots, decisive_map]
    exact List.mem_map_of_mem counts

theorem counter_counts {counter : Bytes × UInt64}
    (counts : counter ∈ decisive Prod.fst setting.counters) :
    counterEntry counter ∈ decisive Prod.fst setting.entries := by
  apply mem_decisive_of_filter (p := (nonceMark.isPrefixOf ·.1))
  · intro other _ same
    rw [← same]
    exact List.isPrefixOf_iff_prefix.2 (List.prefix_append _ _)
  · rw [filter_counters, decisive_map]
    rw [← decisive_comp (f := lastNonceKey) fun _ _ => List.append_cancel_left] at counts
    exact List.mem_map_of_mem counts

/-- Only listed instances have entries in slots. -/
theorem slot_unsaved {slot : Bytes} (marked : holdingMark <+: slot)
    (unlisted : ∀ listed ∈ setting.instances, slotOf listed ≠ slot) :
    ∀ entry ∈ setting.entries, slot ≠ entry.1 := by
  rintro entry saved rfl
  have among : entry ∈ setting.entries.filter (holdingMark.isPrefixOf ·.1) :=
    List.mem_filter.2 ⟨saved, List.isPrefixOf_iff_prefix.2 marked⟩
  rw [filter_slots] at among
  obtain ⟨listed, member, rfl⟩ := List.mem_map.1 among
  exact unlisted listed member rfl

theorem counter_unsaved {token : Bytes}
    (unlisted : ∀ counter ∈ setting.counters, counter.1 ≠ token) :
    ∀ entry ∈ setting.entries, lastNonceKey token ≠ entry.1 := by
  intro entry saved same
  have marked : nonceMark <+: entry.1 := same ▸ List.prefix_append _ _
  have among : entry ∈ setting.entries.filter (nonceMark.isPrefixOf ·.1) :=
    List.mem_filter.2 ⟨saved, List.isPrefixOf_iff_prefix.2 marked⟩
  rw [filter_counters] at among
  obtain ⟨counter, member, rfl⟩ := List.mem_map.1 among
  exact unlisted counter member (List.append_cancel_left same).symm

/-! ## What the merged account holds -/

section Held

variable (old : Account)

theorem get?_meant_of_decisive {entry : Bytes × Bytes}
    (counts : entry ∈ decisive Prod.fst setting.entries) :
    setting.meant.storage.get? entry.1 = if entry.2.isEmpty then none else some entry.2 := by
  obtain ⟨front, back, parted, later⟩ := mem_decisive_iff.1 counts
  rw [storage_meant, parted, List.foldl_append, List.foldl_cons, Account.get?_saveAll later,
    Account.get?_save, if_pos rfl]

/-- An entry that counts is laid over what was there. -/
theorem stored_merge_of_filled {entry : Bytes × Bytes}
    (counts : entry ∈ decisive Prod.fst setting.entries) (filled : entry.2 ≠ []) :
    (setting.merge old setting.meant).stored entry.1 = entry.2 := by
  apply stored_merge_of_get?
  rw [get?_meant_of_decisive counts, if_neg (mt List.isEmpty_iff.1 filled)]

/-- An empty entry takes nothing away. -/
theorem stored_merge_of_empty {entry : Bytes × Bytes}
    (counts : entry ∈ decisive Prod.fst setting.entries) (empty : entry.2 = []) :
    (setting.merge old setting.meant).stored entry.1 = old.stored entry.1 := by
  apply stored_merge_of_missing
  rw [get?_meant_of_decisive counts, if_pos (List.isEmpty_iff.2 empty)]

/-- What is saved for no token is as before under the keys of the protocol. -/
theorem stored_merge_of_unsaved (unprotected : setting.Unprotected) {key : Bytes}
    (protects : Address.isProtected key = true) (unsaved : ∀ entry ∈ setting.entries, key ≠ entry.1) :
    (setting.merge old setting.meant).stored key = old.stored key := by
  apply stored_merge_of_missing
  rw [get?_meant_of_unsaved unsaved]
  refine Option.eq_none_iff_forall_ne_some.2 fun value found => ?_
  obtain ⟨entry, counts, rfl, -⟩ := get?_plain.1 found
  rw [unprotected entry (mem_of_mem_decisive counts)] at protects
  cases protects

end Held

end AccountSetting

namespace Account

variable {account other : Account} {token : Bytes} {nonce : UInt64}

theorem tokenBalance_of_stored
    (same : account.stored (holdingKey token nonce) = other.stored (holdingKey token nonce)) :
    account.tokenBalance token nonce = other.tokenBalance token nonce := by
  simp only [tokenBalance, holding?, decoded, same]

theorem tokenBalance_of_write {holding : Holding} (fits : holding.Fits)
    (written : account.stored (holdingKey token nonce) = holding.write) :
    account.tokenBalance token nonce = .ok holding.value := by
  have filled : holding.write.isEmpty = false :=
    Bool.eq_false_iff.2 fun empty => holding.write_ne_nil (List.isEmpty_iff.1 empty)
  simp only [tokenBalance, holding?, decoded, written, filled, Bool.false_eq_true, if_false]
  rw [readAll_map (readAll_write fits) some]
  rfl

theorem lastNonce_of_stored
    (same : account.stored (lastNonceKey token) = other.stored (lastNonceKey token)) :
    account.lastNonce token = other.lastNonce token :=
  congrArg nonceOfBytes same

end Account

namespace AccountSetting

variable {setting : AccountSetting} {old : Account}

/-- An amount that is listed is there afterwards, but zero takes nothing away. -/
theorem tokenBalance_merge (short : (setting.merge old setting.meant).Short)
    {listed : TokenSetting × InstanceSetting} (counts : listed ∈ decisive slotOf setting.instances) :
    (setting.merge old setting.meant).tokenBalance listed.1.identifier.value listed.2.nonce.value =
      if listed.2.balance.value = 0 then
        old.tokenBalance listed.1.identifier.value listed.2.nonce.value
      else .ok listed.2.balance.value := by
  split
  · rename_i nothing
    exact Account.tokenBalance_of_stored
      (stored_merge_of_empty old (slot_counts counts) (if_pos nothing))
  · rename_i something
    have written : (listed.1.holdingEntry listed.2).2 = Holding.write _ := if_neg something
    have laid := stored_merge_of_filled old (slot_counts counts)
      (written ▸ Holding.write_ne_nil _)
    rw [written] at laid
    have brief := short (holdingKey listed.1.identifier.value listed.2.nonce.value)
    exact Account.tokenBalance_of_write (Holding.fits_of_short (laid ▸ brief)) laid

/-- A last nonce that is written is there afterwards, but zero takes nothing away. -/
theorem lastNonce_merge {counter : Bytes × UInt64}
    (counts : counter ∈ decisive Prod.fst setting.counters) :
    (setting.merge old setting.meant).lastNonce counter.1 =
      if counter.2 = 0 then old.lastNonce counter.1 else counter.2 := by
  split
  · rename_i nothing
    exact Account.lastNonce_of_stored
      (stored_merge_of_empty old (counter_counts counts) (nonceBytes_eq_nil.2 nothing))
  · rename_i something
    have laid := stored_merge_of_filled old (counter_counts counts) (mt nonceBytes_eq_nil.1 something)
    exact (congrArg nonceOfBytes laid).trans (nonceOfBytes_nonceBytes _)

/-! ## Taking effect -/

/-- How the tokens of an update are laid over those of the old account: of several instances in one
slot, and of several last nonces of one token, the last one is laid there unless it is zero, and where
none is listed everything is as before. -/
structure Laid (setting : AccountSetting) (old new : Account) : Prop where
  balance : ∀ listed ∈ decisive slotOf setting.instances,
    new.tokenBalance listed.1.identifier.value listed.2.nonce.value =
      if listed.2.balance.value = 0 then
        old.tokenBalance listed.1.identifier.value listed.2.nonce.value
      else .ok listed.2.balance.value
  otherBalance : ∀ token nonce, (∀ listed ∈ setting.instances, slotOf listed ≠ holdingKey token nonce) →
    new.tokenBalance token nonce = old.tokenBalance token nonce
  lastNonce : ∀ counter ∈ decisive Prod.fst setting.counters,
    new.lastNonce counter.1 = if counter.2 = 0 then old.lastNonce counter.1 else counter.2
  otherNonce : ∀ token, (∀ counter ∈ setting.counters, counter.1 ≠ token) →
    new.lastNonce token = old.lastNonce token

theorem laid_merge (unprotected : setting.Unprotected)
    (short : (setting.merge old setting.meant).Short) :
    setting.Laid old (setting.merge old setting.meant) := by
  constructor
  case balance => exact fun listed counts => tokenBalance_merge short counts
  case otherBalance =>
    intro token nonce unlisted
    have marked := marked_holdingKey token nonce
    have protects : Address.isProtected (holdingKey token nonce) = true :=
      List.isPrefixOf_iff_prefix.2 (List.IsPrefix.trans (by decide) marked)
    exact Account.tokenBalance_of_stored
      (stored_merge_of_unsaved old unprotected protects (slot_unsaved marked unlisted))
  case lastNonce => exact fun counter counts => lastNonce_merge counts
  case otherNonce =>
    intro token unlisted
    have marked : nonceMark <+: lastNonceKey token := List.prefix_append _ _
    have protects : Address.isProtected (lastNonceKey token) = true :=
      List.isPrefixOf_iff_prefix.2 (List.IsPrefix.trans (by decide) marked)
    exact Account.lastNonce_of_stored
      (stored_merge_of_unsaved old unprotected protects (counter_unsaved unlisted))

/-- Identifiers have the usual form, no token is listed twice, and no instance of a token. -/
structure Distinct (setting : AccountSetting) : Prop where
  usual : ∀ token ∈ setting.tokens, IsIdentifier token.identifier.value
  tokens : (setting.tokens.map (·.identifier.value)).Nodup
  instances : ∀ token ∈ setting.tokens, (token.instances.map (·.nonce.value)).Nodup

/-- All that is listed of tokens is so afterwards, and what is not listed is as before. -/
structure TokensTaken (setting : AccountSetting) (old new : Account) : Prop where
  balance : ∀ token ∈ setting.tokens, ∀ one ∈ token.instances,
    new.tokenBalance token.identifier.value one.nonce.value = .ok one.balance.value
  otherBalance : ∀ name nonce, IsIdentifier name →
    (∀ token ∈ setting.tokens, token.identifier.value = name →
      ∀ one ∈ token.instances, one.nonce.value ≠ nonce) →
    new.tokenBalance name nonce = old.tokenBalance name nonce
  lastNonce : ∀ token ∈ setting.tokens, ∀ given, token.lastNonce = some given →
    new.lastNonce token.identifier.value = given.value
  otherNonce : ∀ name, (∀ token ∈ setting.tokens, token.identifier.value = name →
    token.lastNonce = none) → new.lastNonce name = old.lastNonce name

/-- Zero is listed only where there is nothing anyway. -/
structure Additive (setting : AccountSetting) (old : Account) : Prop where
  balance : ∀ token ∈ setting.tokens, ∀ one ∈ token.instances, one.balance.value = 0 →
    old.tokenBalance token.identifier.value one.nonce.value = .ok 0
  lastNonce : ∀ token ∈ setting.tokens, ∀ given, token.lastNonce = some given → given.value = 0 →
    old.lastNonce token.identifier.value = 0

theorem mem_instances {listed : TokenSetting × InstanceSetting} :
    listed ∈ setting.instances ↔ listed.1 ∈ setting.tokens ∧ listed.2 ∈ listed.1.instances := by
  simp only [instances, List.mem_flatMap, List.mem_map]
  constructor
  · rintro ⟨token, member, one, among, rfl⟩
    exact ⟨member, among⟩
  · exact fun ⟨member, among⟩ => ⟨_, member, _, among, rfl⟩

theorem mem_counters {counter : Bytes × UInt64} :
    counter ∈ setting.counters ↔ ∃ token ∈ setting.tokens, ∃ given, token.lastNonce = some given ∧
      (token.identifier.value, given.value) = counter := by
  simp only [counters, List.mem_flatMap, TokenSetting.counter, Option.mem_toList,
    Option.map_eq_some_iff]

namespace Distinct

/-- Then no instances share a slot. -/
theorem nodup_slots (distinct : setting.Distinct) : (setting.instances.map slotOf).Nodup := by
  have slots : setting.instances.map slotOf = setting.tokens.flatMap fun token =>
      token.instances.map fun one => holdingKey token.identifier.value one.nonce.value := by
    rw [AccountSetting.instances, List.map_flatMap]
    simp only [List.map_map]
    rfl
  rw [slots, List.nodup_flatMap]
  constructor
  · intro token listed
    refine List.pairwise_map.2 ((List.pairwise_map.1 (distinct.instances token listed)).imp ?_)
    intro one other apart same
    exact apart (holdingKey_inj (distinct.usual token listed) (distinct.usual token listed) same).2
  · have apart := List.pairwise_map.1 distinct.tokens
    refine apart.imp_of_mem ?_
    intro token other listed too different slot one two
    obtain ⟨_, -, rfl⟩ := List.mem_map.1 one
    obtain ⟨_, -, same⟩ := List.mem_map.1 two
    exact different (holdingKey_inj (distinct.usual other too) (distinct.usual token listed) same).1.symm

theorem nodup_counters (distinct : setting.Distinct) : (setting.counters.map Prod.fst).Nodup := by
  rw [counters, List.map_flatMap, List.nodup_flatMap]
  constructor
  · intro token _
    unfold TokenSetting.counter
    cases token.lastNonce <;> simp
  · refine (List.pairwise_map.1 distinct.tokens).imp ?_
    intro token other different name one two
    simp only [TokenSetting.counter, List.mem_map, Option.mem_toList, Option.map_eq_some_iff] at one two
    obtain ⟨_, ⟨_, -, rfl⟩, rfl⟩ := one
    obtain ⟨_, ⟨_, -, rfl⟩, same⟩ := two
    exact different same.symm

end Distinct

/-- The tokens of an update take effect exactly if no zero is listed that would take something away. -/
theorem Laid.taken_iff {new : Account} (laid : setting.Laid old new) (distinct : setting.Distinct) :
    setting.TokensTaken old new ↔ setting.Additive old := by
  have balance : ∀ token ∈ setting.tokens, ∀ one ∈ token.instances,
      new.tokenBalance token.identifier.value one.nonce.value = if one.balance.value = 0 then
        old.tokenBalance token.identifier.value one.nonce.value else .ok one.balance.value := by
    intro token member one among
    refine laid.balance (token, one) ?_
    rw [decisive_of_nodup distinct.nodup_slots]
    exact mem_instances.2 ⟨member, among⟩
  have lastNonce : ∀ token ∈ setting.tokens, ∀ given, token.lastNonce = some given →
      new.lastNonce token.identifier.value =
        if given.value = 0 then old.lastNonce token.identifier.value else given.value := by
    intro token member given written
    refine laid.lastNonce (token.identifier.value, given.value) ?_
    rw [decisive_of_nodup distinct.nodup_counters]
    exact mem_counters.2 ⟨token, member, given, written, rfl⟩
  constructor
  · intro taken
    constructor
    · intro token member one among zero
      have there := balance token member one among
      rw [if_pos zero, taken.balance token member one among, zero] at there
      exact there.symm
    · intro token member given written zero
      have there := lastNonce token member given written
      rw [if_pos zero, taken.lastNonce token member given written, zero] at there
      exact there.symm
  · intro additive
    constructor
    case balance =>
      intro token member one among
      rw [balance token member one among]
      split
      · rename_i zero
        rw [additive.balance token member one among zero, zero]
      · rfl
    case otherBalance =>
      intro name nonce usual unlisted
      refine laid.otherBalance name nonce fun listed among same => ?_
      obtain ⟨member, inside⟩ := mem_instances.1 among
      obtain ⟨named, numbered⟩ := holdingKey_inj (distinct.usual _ member) usual same
      exact unlisted _ member named _ inside numbered
    case lastNonce =>
      intro token member given written
      rw [lastNonce token member given written]
      split
      · rename_i zero
        rw [additive.lastNonce token member given written zero, zero]
      · rfl
    case otherNonce =>
      intro name unlisted
      refine laid.otherNonce name fun counter among same => ?_
      obtain ⟨token, member, given, written, rfl⟩ := mem_counters.1 among
      rw [unlisted token member same] at written
      cases written

/-- The tokens of an update are laid over those of the old account. They take effect exactly if no zero
is listed where the old account has something. -/
theorem update_tokens (updates : setting.update = true) (unprotected : setting.Unprotected)
    {world after : World} (inPlace : world.InPlace) (ran : setting.apply world = .ok () after)
    (bounded : after.Bounded) :
    ∃ old new, world.account? setting.address.value = some old ∧
      after.account? setting.address.value = some new ∧ setting.Laid old new ∧
      (setting.Distinct → (setting.TokensTaken old new ↔ setting.Additive old)) := by
  obtain ⟨old, found, -, rfl⟩ := ok_update updates inPlace ran
  have there : (world.setAccount setting.address.value (setting.merge old setting.meant)).account?
      setting.address.value = some (setting.merge old setting.meant) := by
    rw [World.account?_setAccount, if_pos rfl]
  have laid := laid_merge unprotected (bounded.short there)
  exact ⟨old, _, found, there, laid, laid.taken_iff⟩

/-- A token that an update lists, but none of it. -/
def soldOut : TokenSetting where
  identifier := .implied (Utf8.ofString "TOKEN-123456")
  instances := [InstanceSetting.blank]
  lastNonce := none
  roles := []
  frozen := none

/-- An account that holds five of it. -/
def keeper : Account :=
  (Account.blank (List.replicate Address.length 1)).setHolding soldOut.identifier.value 0 (.fungible 5)

def clearance : AccountSetting where
  address := .implied keeper.address
  update := true
  tokens := [soldOut]

theorem apply_clearance : ∃ after, clearance.apply (.alone keeper) = .ok () after ∧ after.Bounded ∧
    ∀ new, after.account? clearance.address.value = some new →
      new.tokenBalance soldOut.identifier.value InstanceSetting.blank.nonce.value ≠ .ok 0 := by
  have ended : endedWith (fun _ after => decide after.Bounded &&
      (after.account? clearance.address.value).all fun new => decide ((new.tokenBalance
        soldOut.identifier.value InstanceSetting.blank.nonce.value).toOption ≠ some 0))
      (clearance.apply (.alone keeper)) = true := by decide +kernel
  obtain ⟨⟨⟩, after, ran, facts⟩ := ok_of_endedWith ended
  obtain ⟨bounded, all⟩ := Bool.and_eq_true_iff.1 facts
  refine ⟨after, ran, of_decide_eq_true bounded, fun new found none => ?_⟩
  rw [found, Option.all_some, none] at all
  exact of_decide_eq_true all rfl

theorem distinct_clearance : clearance.Distinct :=
  ⟨by decide +kernel, by decide +kernel, by decide +kernel⟩

/-- What is listed as zero cannot have been taken over where five are left. -/
theorem not_taken_clearance {old new : Account}
    (left : new.tokenBalance soldOut.identifier.value InstanceSetting.blank.nonce.value ≠ .ok 0) :
    ¬clearance.TokensTaken old new := by
  intro taken
  have listed : soldOut ∈ clearance.tokens := List.mem_singleton_self _
  have among : InstanceSetting.blank ∈ soldOut.instances := List.mem_singleton_self _
  exact left (taken.balance soldOut listed InstanceSetting.blank among)

/-- Zero is listed where there are five. -/
theorem update_tokens_clearance :
    ∃ after old new, clearance.apply (.alone keeper) = .ok () after ∧
      clearance.Laid old new ∧ ¬clearance.Additive old := by
  obtain ⟨after, ran, bounded, left⟩ := apply_clearance
  have updates : clearance.update = true := rfl
  have unprotected : clearance.Unprotected := List.forall_mem_nil _
  obtain ⟨old, new, -, found, laid, effective⟩ :=
    update_tokens updates unprotected (World.inPlace_alone keeper) ran bounded
  refine ⟨after, old, new, ran, laid, fun additive => ?_⟩
  exact not_taken_clearance (left new found) ((effective distinct_clearance).2 additive)

/-- The five stay although the update lists none. -/
theorem update_tokens_not_taken :
    ¬∀ (setting : AccountSetting) (world after : World), setting.update = true →
      setting.Unprotected → setting.Distinct → world.InPlace →
        setting.apply world = .ok () after → after.Bounded →
          ∃ old new, world.account? setting.address.value = some old ∧
            after.account? setting.address.value = some new ∧ setting.TokensTaken old new := by
  intro takes
  obtain ⟨after, ran, bounded, left⟩ := apply_clearance
  have updates : clearance.update = true := rfl
  have unprotected : clearance.Unprotected := List.forall_mem_nil _
  obtain ⟨_, new, -, found, taken⟩ := takes clearance (.alone keeper) after updates unprotected
    distinct_clearance (World.inPlace_alone keeper) ran bounded
  exact not_taken_clearance (left new found) taken

end AccountSetting
end ChainScenario
