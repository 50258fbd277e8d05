import ChainScenario.Proofs.Accounts
import ChainScenario.Proofs.Slots

/-!
# Entries of storage

A storage key with a mark of the protocol promises what its value is. `Intact` states the promises and
`Every` that a predicate holds of all entries of an account or of a ledger. Main statements:
`readable_write`, what is written is intact if memory can hold it, and `Account.Every.holding?`, an
account with intact entries can be read.
-/
namespace ChainScenario

theorem Bytes.head?_ofNat (value : Nat) : (ofNat value).head? ≠ some 0 := by
  induction value using Nat.strongRecOn with
  | ind value ih =>
    rw [ofNat]
    split
    · simp
    · rename_i positive
      cases front : ofNat (value / 256) with
      | nil =>
        -- nothing stands before the last byte, so the number is less than a byte's worth
        have small := toNat_ofNat (value / 256)
        rw [front, toNat_nil] at small
        intro zero
        have byte := congrArg (Option.map UInt8.toNat) zero
        simp only [List.nil_append, List.head?_cons, Option.map_some, Option.some.injEq,
          UInt8.toNat_ofNat', UInt8.toNat_zero] at byte
        omega
      | cons first rest =>
        have high := ih (value / 256) (by omega)
        rwa [front] at high

namespace Token

open Codec

/-! ## What keys promise -/

/-- A value is what the mark of its key says: an amount of an instance, roles, or a nonce. -/
structure Intact (key value : Bytes) : Prop where
  holding : holdingMark <+: key →
    ∃ holding, readAll Holding.reader value = .ok holding ∧ 0 < holding.value
  roles : rolesMark <+: key → ∃ roles, readAll rolesReader value = .ok roles ∧ roles ≠ []
  nonce : nonceMark <+: key → 0 < value.length ∧ value.length ≤ 8 ∧ value.head? ≠ some 0

/-- A value is intact if memory can hold it. -/
def Readable (key value : Bytes) : Prop := value.length < UInt64.size → Intact key value

theorem Intact.readable {key value : Bytes} (intact : Intact key value) : Readable key value :=
  fun _ => intact

section Intact

variable {key value : Bytes}

theorem intact_of_holding {holding : Holding} (marked : holdingMark <+: key)
    (read : readAll Holding.reader value = .ok holding) (positive : 0 < holding.value) :
    Intact key value where
  holding _ := ⟨holding, read, positive⟩
  roles too := absurd too (not_marked marked (by decide) (by decide))
  nonce too := absurd too (not_marked marked (by decide) (by decide))

theorem intact_of_roles {roles : List Bytes} (marked : rolesMark <+: key)
    (read : readAll rolesReader value = .ok roles) (some : roles ≠ []) : Intact key value where
  holding too := absurd too (not_marked marked (by decide) (by decide))
  roles _ := ⟨roles, read, some⟩
  nonce too := absurd too (not_marked marked (by decide) (by decide))

/-- Keys that are not the protocol's promise nothing. -/
theorem intact_of_unprotected (free : Address.isProtected key = false) : Intact key value where
  holding marked := absurd marked (unmarked_of_unprotected free (by decide))
  roles marked := absurd marked (unmarked_of_unprotected free (by decide))
  nonce marked := absurd marked (unmarked_of_unprotected free (by decide))

/-- Where rewards accumulate nothing is promised, although the key is the protocol's. -/
theorem intact_rewardKey : Intact Address.rewardKey value where
  holding marked := absurd marked (by decide)
  roles marked := absurd marked (by decide)
  nonce marked := absurd marked (by decide)

end Intact

/-! ## What is written is readable -/

theorem length_le_of_mem_flatMap {items : List Bytes} {item : Bytes} (member : item ∈ items) :
    item.length ≤ (items.flatMap writeBytes).length := by
  induction items with
  | nil => cases member
  | cons first rest ih =>
    simp only [List.flatMap_cons, List.length_append, writeBytes]
    rcases List.mem_cons.1 member with rfl | behind
    · omega
    · have others := ih behind
      omega

theorem fits_of_short_list {items : List Bytes} {size : Nat} (short : (writeList items).length < size) :
    items.length < size ∧ ∀ item ∈ items, item.length < size := by
  have few := length_le_flatMap items
  rw [writeList, List.length_append] at short
  constructor
  · omega
  · intro item member
    have part := length_le_of_mem_flatMap member
    omega

/-- No part of metadata is longer than all of it. -/
theorem Metadata.fits_of_short {metadata : Metadata} (short : metadata.write.length < UInt64.size) :
    metadata.Fits := by
  simp only [Metadata.write, List.length_append, writeBytes] at short
  have uris : (writeList metadata.uris).length < UInt64.size := by omega
  constructor
  case uris => exact (fits_of_short_list uris).1
  case uri => exact (fits_of_short_list uris).2
  all_goals omega

theorem Holding.fits_of_short {holding : Holding} (short : holding.write.length < UInt64.size) :
    holding.Fits := by
  simp only [Holding.write, List.length_append, writeBytes] at short
  constructor
  · omega
  · omega
  · intro metadata described
    simp only [described, List.length_append] at short
    exact Metadata.fits_of_short (by omega)

theorem intact_write {holding : Holding} (fits : holding.Fits) (positive : 0 < holding.value)
    (token : Bytes) (nonce : UInt64) : Intact (holdingKey token nonce) holding.write :=
  intact_of_holding (marked_holdingKey token nonce) (readAll_write fits) positive

theorem readable_write {holding : Holding} (positive : 0 < holding.value) (token : Bytes)
    (nonce : UInt64) : Readable (holdingKey token nonce) holding.write :=
  fun short => intact_write (Holding.fits_of_short short) positive token nonce

theorem readable_writeRoles {roles : List Bytes} (some : roles ≠ []) (token : Bytes) :
    Readable (rolesKey token) (writeRoles roles) := by
  intro short
  obtain ⟨few, each⟩ := fits_of_short_list short
  exact intact_of_roles (List.prefix_append _ _) (readAll_of_reads (reads_roles few each)) some

theorem intact_nonceBytes {nonce : UInt64} (positive : nonceBytes nonce ≠ []) (token : Bytes) :
    Intact (lastNonceKey token) (nonceBytes nonce) := by
  have marked : nonceMark <+: lastNonceKey token := List.prefix_append _ _
  constructor
  case holding => exact fun too => absurd too (not_marked marked (by decide) (by decide))
  case roles => exact fun too => absurd too (not_marked marked (by decide) (by decide))
  case nonce =>
    intro _
    have bound : nonce.toNat < Bytes.capacity 8 := nonce.toNat_lt
    exact ⟨List.length_pos_iff.2 positive, Bytes.length_ofNat_le bound, Bytes.head?_ofNat _⟩

end Token

/-! ## All entries -/

section Every

variable {holds : Bytes → Bytes → Prop}

/-- A predicate holds of every entry in the storage of an account. -/
def Account.Every (holds : Bytes → Bytes → Prop) (account : Account) : Prop :=
  ∀ key value, account.storage.get? key = some value → holds key value

/-- A predicate holds of every entry in the storage of every account. -/
def World.Every (holds : Bytes → Bytes → Prop) (world : World) : Prop :=
  ∀ address account, world.account? address = some account → account.Every holds

namespace Account

open Token

variable {account : Account}

theorem Every.of_storage {other : Account} (every : account.Every holds)
    (same : other.storage = account.storage) : other.Every holds := by
  intro key value found
  rw [same] at found
  exact every key value found

theorem every_blank (address : Bytes) : (blank address).Every holds := by
  intro key value found
  cases found

theorem Every.mono {weaker : Bytes → Bytes → Prop} (every : account.Every holds)
    (weakens : ∀ key value, holds key value → weaker key value) : account.Every weaker :=
  fun key value found => weakens key value (every key value found)

theorem Every.put {key value : Bytes} (every : account.Every holds) (new : holds key value) :
    (account.put key value).Every holds := by
  intro other stored found
  change (account.storage.insert key value).get? other = _ at found
  rw [OrdMap.get?_insert] at found
  split at found
  · rename_i here
    cases found
    exact here ▸ new
  · exact every other stored found

theorem Every.remove (every : account.Every holds) (key : Bytes) :
    (account.remove key).Every holds := by
  intro other stored found
  change (account.storage.erase key).get? other = _ at found
  rw [OrdMap.get?_erase] at found
  split at found
  · cases found
  · exact every other stored found

theorem Every.save {key value : Bytes} (every : account.Every holds)
    (new : value ≠ [] → holds key value) : (account.save key value).Every holds := by
  unfold Account.save
  split
  · exact every.remove key
  · rename_i filled
    exact every.put (new fun empty => filled (List.isEmpty_iff.2 empty))

theorem Every.saveAll {entries : List (Bytes × Bytes)} (every : account.Every holds)
    (new : ∀ entry ∈ entries, holds entry.1 entry.2) :
    (entries.foldl (fun account entry => account.save entry.1 entry.2) account).Every holds := by
  induction entries generalizing account with
  | nil => exact every
  | cons entry rest ih =>
    rw [List.foldl_cons]
    apply ih
    · exact every.save fun _ => new entry List.mem_cons_self
    · exact fun other member => new other (List.mem_cons_of_mem _ member)

theorem Every.saveHolding {token : Bytes} {nonce : UInt64} {holding : Holding}
    (every : account.Every holds)
    (new : 0 < holding.value → holds (holdingKey token nonce) holding.write) :
    (account.saveHolding token nonce holding).Every holds := by
  unfold Account.saveHolding
  split
  · exact every.remove _
  · rename_i something
    exact every.put (new (Nat.pos_of_ne_zero something))

theorem Every.setRoles {token : Bytes} {roles : List Bytes} (every : account.Every holds)
    (new : roles ≠ [] → holds (rolesKey token) (writeRoles roles)) :
    (account.setRoles token roles).Every holds := by
  unfold Account.setRoles
  split
  · exact every.remove _
  · rename_i filled
    exact every.put (new fun empty => filled (List.isEmpty_iff.2 empty))

/-- Nothing that an account stores is too long to be read. -/
def Short (account : Account) : Prop := ∀ key, (account.stored key).length < UInt64.size

/-- What is readable is intact where it is short. -/
theorem Every.intact (readable : account.Every Readable) (short : account.Short) :
    account.Every Intact := by
  intro key value found
  apply readable key value found
  rw [← stored_of_get? found]
  exact short key

/-! ## Intact accounts can be read -/

section Intact

variable {token : Bytes} {nonce : UInt64}

theorem get?_of_stored_ne_nil {key : Bytes} (filled : account.stored key ≠ []) :
    account.storage.get? key = some (account.stored key) := by
  cases found : account.storage.get? key with
  | none => exact absurd (stored_of_missing found) filled
  | some value => rw [stored_of_get? found]

theorem readAll_map {α β : Type} {reader : Codec.Reader α} {stored : Bytes} {value : α}
    (read : readAll reader stored = .ok value) (f : α → β) :
    readAll (f <$> reader) stored = .ok (f value) := by
  have found : reader stored = some (value, []) := by
    unfold readAll at read
    split at read
    · cases read
    · rename_i found
      cases read
      exact found
    · cases read
  have mapped : (f <$> reader) stored = some (f value, []) := by
    change ((reader stored).bind fun read => some (f read.1, read.2)) = _
    rw [found]
    rfl
  rw [readAll, mapped]

theorem Every.holding? (intact : account.Every Intact) (token : Bytes) (nonce : UInt64) :
    ∃ held, account.holding? token nonce = .ok held := by
  simp only [Account.holding?, decoded]
  split
  · exact ⟨none, rfl⟩
  · rename_i filled
    have found := get?_of_stored_ne_nil fun empty => filled (List.isEmpty_iff.2 empty)
    obtain ⟨holding, read, -⟩ := (intact _ _ found).holding (marked_holdingKey token nonce)
    exact ⟨some holding, readAll_map read some⟩

/-- What can be read from an intact account is an amount of something. -/
theorem Every.positive (intact : account.Every Intact) {held : Holding}
    (reads : account.holding? token nonce = .ok (some held)) : 0 < held.value := by
  have read := read_of_holding?_some reads
  have filled : account.stored (holdingKey token nonce) ≠ [] := by
    intro empty
    rw [empty] at read
    cases read
  obtain ⟨holding, same, positive⟩ :=
    (intact _ _ (get?_of_stored_ne_nil filled)).holding (marked_holdingKey token nonce)
  rw [readAll, read] at same
  cases same
  exact positive

theorem Every.roles (intact : account.Every Intact) (token : Bytes) :
    ∃ held, account.roles token = .ok held := by
  simp only [Account.roles, decoded]
  split
  · exact ⟨[], rfl⟩
  · rename_i filled
    have found := get?_of_stored_ne_nil fun empty => filled (List.isEmpty_iff.2 empty)
    obtain ⟨roles, read, -⟩ := (intact _ _ found).roles (List.prefix_append _ _)
    exact ⟨roles, read⟩

end Intact
end Account

namespace World

variable {world : World} {address : Bytes} {account : Account}

theorem Every.mono {weaker : Bytes → Bytes → Prop} (every : world.Every holds)
    (weakens : ∀ key value, holds key value → weaker key value) : world.Every weaker :=
  fun address account found => (every address account found).mono weakens

theorem Every.accountOrBlank (every : world.Every holds) (address : Bytes) :
    (world.accountOrBlank address).Every holds := by
  cases found : world.account? address with
  | none =>
    rw [accountOrBlank_of_missing found]
    exact Account.every_blank address
  | some account =>
    rw [accountOrBlank_of_account? found]
    exact every address account found

theorem Every.setAccount (every : world.Every holds) (new : account.Every holds) :
    (world.setAccount address account).Every holds := by
  intro other written found
  rw [account?_setAccount] at found
  split at found
  · cases found
    exact new
  · exact every other written found

theorem Every.of_accounts {other : World} (every : world.Every holds)
    (same : other.accounts = world.accounts) : other.Every holds := by
  intro address account found
  change other.accounts.get? address = _ at found
  rw [same] at found
  exact every address account found

theorem Every.deleteAll {addresses : List Bytes} (every : world.Every holds) :
    (addresses.foldl deleteAccount world).Every holds := by
  induction addresses generalizing world with
  | nil => exact every
  | cons address rest ih =>
    apply ih
    intro other account found
    change (world.accounts.erase address).get? other = _ at found
    rw [OrdMap.get?_erase] at found
    split at found
    · cases found
    · exact every other account found

theorem Every.commit (every : world.Every holds) : world.commit.Every holds := by
  intro address account found
  change (world.accounts.mapValues _).get? address = _ at found
  rw [OrdMap.get?_mapValues, Option.map_eq_some_iff] at found
  obtain ⟨before, there, rfl⟩ := found
  exact every address before there

end World
end Every

end ChainScenario
