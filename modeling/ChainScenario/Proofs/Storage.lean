import ChainScenario.Token.Store

/-!
# Writes to the storage of an account

A write to storage changes what is stored under its key, and nothing else of the account: the bare
account, all of it but its storage, stays.
-/
namespace ChainScenario.Account

open Token

/-- The account without its storage. -/
def bare (account : Account) : Account := { account with storage := .empty }

/-! ## What is stored under a key -/

theorem stored_of_get? {account : Account} {key value : Bytes}
    (found : account.storage.get? key = some value) : account.stored key = value := by
  rw [stored, OrdMap.getD, found, Option.getD_some]

theorem stored_of_missing {account : Account} {key : Bytes}
    (missing : account.storage.get? key = none) : account.stored key = [] := by
  rw [stored, OrdMap.getD, missing, Option.getD_none]

theorem stored_put (account : Account) (key value other : Bytes) :
    (account.put key value).stored other = if other = key then value else account.stored other := by
  change ((account.storage.insert key value).get? other).getD [] = _
  rw [OrdMap.get?_insert]
  split <;> rfl

theorem stored_remove (account : Account) (key other : Bytes) :
    (account.remove key).stored other = if other = key then [] else account.stored other := by
  change ((account.storage.erase key).get? other).getD [] = _
  rw [OrdMap.get?_erase]
  split <;> rfl

theorem stored_save (account : Account) (key value other : Bytes) :
    (account.save key value).stored other = if other = key then value else account.stored other := by
  unfold save
  split
  · rename_i empty
    rw [stored_remove, List.isEmpty_iff.1 empty]
  · rw [stored_put]

/-- What is saved is kept unless it is empty. -/
theorem get?_save (account : Account) (key value other : Bytes) :
    (account.save key value).storage.get? other =
      if other = key then if value.isEmpty then none else some value
      else account.storage.get? other := by
  unfold save
  split
  · exact OrdMap.get?_erase account.storage key other
  · exact OrdMap.get?_insert account.storage key other value

/-- Entries under other keys leave an entry alone. -/
theorem get?_saveAll {account : Account} {entries : List (Bytes × Bytes)} {key : Bytes}
    (other : ∀ entry ∈ entries, key ≠ entry.1) :
    (entries.foldl (fun account entry => account.save entry.1 entry.2) account).storage.get? key =
      account.storage.get? key := by
  induction entries generalizing account with
  | nil => rfl
  | cons entry rest ih =>
    rw [List.foldl_cons, ih fun entry member => other entry (List.mem_cons_of_mem _ member),
      get?_save, if_neg (other entry List.mem_cons_self)]

/-- Entries under other keys leave a value alone. -/
theorem stored_saveAll {account : Account} {entries : List (Bytes × Bytes)} {key : Bytes}
    (other : ∀ entry ∈ entries, key ≠ entry.1) :
    (entries.foldl (fun account entry => account.save entry.1 entry.2) account).stored key =
      account.stored key :=
  congrArg (·.getD []) (get?_saveAll other)

theorem stored_setLastNonce (account : Account) (token : Bytes) (nonce : UInt64) {key : Bytes}
    (other : key ≠ lastNonceKey token) :
    (account.setLastNonce token nonce).stored key = account.stored key := by
  rw [setLastNonce, stored_save, if_neg other]

theorem stored_setRoles (account : Account) (token : Bytes) (roles : List Bytes) {key : Bytes}
    (other : key ≠ rolesKey token) : (account.setRoles token roles).stored key = account.stored key := by
  unfold setRoles
  split
  · rw [stored_remove, if_neg other]
  · rw [stored_put, if_neg other]

/-- Roles leave the entries under other keys alone. -/
theorem get?_setRoles (account : Account) (token : Bytes) (roles : List Bytes) {key : Bytes}
    (other : key ≠ rolesKey token) :
    (account.setRoles token roles).storage.get? key = account.storage.get? key := by
  unfold setRoles
  split
  · exact (OrdMap.get?_erase account.storage _ key).trans (if_neg other)
  · exact (OrdMap.get?_insert account.storage _ key _).trans (if_neg other)

/-! ## The bare account stays -/

@[simp] theorem bare_save (account : Account) (key value : Bytes) :
    (account.save key value).bare = account.bare := by
  unfold save
  split <;> rfl

theorem bare_saveAll (account : Account) (entries : List (Bytes × Bytes)) :
    (entries.foldl (fun account entry => account.save entry.1 entry.2) account).bare =
      account.bare := by
  induction entries generalizing account with
  | nil => rfl
  | cons entry rest ih => rw [List.foldl_cons, ih, bare_save]

@[simp] theorem bare_setHolding (account : Account) (token : Bytes) (nonce : UInt64)
    (holding : Holding) : (account.setHolding token nonce holding).bare = account.bare := rfl

@[simp] theorem bare_saveHolding (account : Account) (token : Bytes) (nonce : UInt64)
    (holding : Holding) : (account.saveHolding token nonce holding).bare = account.bare := by
  unfold saveHolding
  split <;> rfl

@[simp] theorem bare_setLastNonce (account : Account) (token : Bytes) (nonce : UInt64) :
    (account.setLastNonce token nonce).bare = account.bare :=
  bare_save _ _ _

@[simp] theorem bare_setRoles (account : Account) (token : Bytes) (roles : List Bytes) :
    (account.setRoles token roles).bare = account.bare := by
  unfold setRoles
  split <;> rfl

/-! ## The storage stays -/

theorem storage_takeFromBalance {account payer : Account} {value : Nat}
    (pays : account.takeFromBalance value = .ok payer) : payer.storage = account.storage := by
  unfold takeFromBalance at pays
  split at pays
  · cases pays
  · cases pays
    rfl

theorem storage_addToBalance {account changed : Account} {delta : Int}
    (adds : account.addToBalance delta = .ok changed) : changed.storage = account.storage := by
  unfold addToBalance at adds
  dsimp only at adds
  split at adds
  · cases adds
  · cases adds
    rfl

end ChainScenario.Account
