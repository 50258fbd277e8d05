import ChainScenario.Proofs.Identity

/-!
# Nonces

A transaction spends one nonce of its sender before anything else, and whatever becomes of the rest leaves
all nonces alone: built-in functions do not write them, and no result of the dummy machine raises one.

Main statements:
- `Effect.core_stays`: built-in functions write nothing of an account but its storage, its currency, its
  owner and its name.
- `nonces_transact`: what a transaction does to all nonces, however it ends.
-/
namespace ChainScenario

open World

/-! ## What stays of an account -/

/-- The account without what built-in functions may write: its storage, its currency, its owner and its
name. -/
def Account.core (account : Account) : Account :=
  { account.bare with balance := 0, balanceDelta := 0, owner := [], developerReward := 0, username := [] }

namespace Account

variable {account changed : Account}

/-- Only the bare account counts. -/
theorem core_of_bare (same : changed.bare = account.bare) : changed.core = account.core := by
  change changed.bare.core = account.bare.core
  rw [same]

theorem core_takeFromBalance {value : Nat} (takes : account.takeFromBalance value = .ok changed) :
    changed.core = account.core := by
  unfold takeFromBalance at takes
  split at takes
  · cases takes
  · cases takes
    rfl

theorem core_addToBalance {delta : Int} (adds : account.addToBalance delta = .ok changed) :
    changed.core = account.core := by
  unfold addToBalance at adds
  dsimp only at adds
  split at adds
  · cases adds
  · cases adds
    rfl

/-- A change that asks for no nonce leaves the nonce alone. -/
theorem nonce_rewrite {change : AccountChange} (none : change.nonce = 0) (account : Account) :
    (change.rewrite account).nonce = account.nonce := by
  have low : ¬account.nonce < 0 := UInt64.not_lt_zero
  simp only [AccountChange.rewrite, none, if_neg low]
  refine (congrArg Account.nonce (bare_saveAll _ _) :).trans ?_
  split
  · rfl
  · simp only [withCode]
    split <;> rfl

end Account

namespace World

/-- A view of every account is the same as before, and every account is there if it was. -/
def Stays {τ : Type} (view : Account → τ) (world after : World) : Prop :=
  ∀ address, Stands (fun old new => view new = view old) address world after

namespace Stays

variable {τ : Type} {view : Account → τ} {world middle after : World}

theorem refl (world : World) : Stays view world world := by
  intro address
  apply Stands.refl
  exact fun _ => rfl

theorem trans (before : Stays view world middle) (behind : Stays view middle after) :
    Stays view world after := by
  intro address
  refine Stands.trans ?_ (before address) (behind address)
  exact fun first second => second.trans first

theorem comp {υ : Type} (stays : Stays view world after) (further : τ → υ) :
    Stays (fun account => further (view account)) world after := by
  intro address
  refine (stays address).mono ?_
  exact fun same => congrArg further same

/-- An account that was there is there. -/
theorem found (stays : Stays view world after) {address : Bytes} {account : Account}
    (before : world.account? address = some account) :
    ∃ left, after.account? address = some left ∧ view left = view account := by
  obtain ⟨left, found⟩ := Option.isSome_iff_exists.1 ((stays address).known (by rw [before]; rfl))
  have same := (stays address).related
  rw [accountOrBlank_of_account? found, accountOrBlank_of_account? before] at same
  exact ⟨left, found, same⟩

/-- An account that is new looks like a blank one. -/
theorem appeared (stays : Stays view world after) {address : Bytes} {account : Account}
    (before : world.account? address = none) (found : after.account? address = some account) :
    view account = view (.blank address) := by
  have same := (stays address).related
  rwa [accountOrBlank_of_account? found, accountOrBlank_of_missing before] at same

/-- Only the accounts count. -/
theorem of_accounts (stays : Stays view world middle) (accounts : after.accounts = middle.accounts) :
    Stays view world after :=
  fun address => (stays address).of_accounts accounts

theorem write {address : Bytes} {account : Account}
    (same : view account = view (world.accountOrBlank address)) :
    Stays view world (world.setAccount address account) := by
  intro other
  apply Stands.write
  · exact fun _ => rfl
  · exact fun _ => same

theorem write_found {address : Bytes} {old account : Account}
    (found : world.account? address = some old) (same : view account = view old) :
    Stays view world (world.setAccount address account) := by
  apply write
  rw [accountOrBlank_of_account? found, same]

end Stays
end World

/-! ## Built-in functions -/

namespace Builtin

section Movements

variable {source destination token : Bytes} {nonce : UInt64} {value : Nat} {world after : World}

theorem TokensMoved.core_stays (moved : TokensMoved source destination token nonce value world after) :
    world.Stays Account.core after := by
  obtain ⟨-, found, -, -, -, taken, -⟩ := moved
  rename_i middle _
  have first : world.Stays Account.core middle := by
    rw [taken]
    exact .write_found found (Account.core_of_bare (Account.bare_saveHolding _ _ _ _))
  exact first.trans (.write (Account.core_of_bare (Account.bare_setHolding _ _ _ _)))

theorem CurrencyMoved.core_stays (moved : CurrencyMoved source destination value world after) :
    world.Stays Account.core after := by
  obtain ⟨-, found, pays, taken⟩ := moved
  rename_i payer middle
  have first : world.Stays Account.core middle := by
    rw [taken]
    exact .write_found found (Account.core_takeFromBalance pays)
  exact first.trans (.write rfl)

theorem AnyMoved.core_stays (moved : AnyMoved source destination token nonce value world after) :
    world.Stays Account.core after := by
  cases moved with
  | currency _ moved => exact moved.core_stays
  | tokens _ moved => exact moved.core_stays

theorem AllMoved.core_stays {listed : List (Bytes × Bytes × Bytes)}
    (moved : AllMoved source destination listed world after) : world.Stays Account.core after := by
  induction moved with
  | none => exact .refl _
  | more _ first _ ih => exact first.core_stays.trans ih

theorem Burned.core_stays (burned : Burned source token nonce value world after) :
    world.Stays Account.core after := by
  obtain ⟨found, -, -⟩ := burned
  exact .write_found found (Account.core_of_bare (Account.bare_saveHolding _ _ _ _))

end Movements

variable {call : Call} {world after : World}

theorem RolesChanged.core_stays {change : List Bytes → Bytes → List Bytes}
    (changed : RolesChanged change call world after) : world.Stays Account.core after := by
  obtain ⟨-, -, -⟩ := changed
  exact .write (Account.core_of_bare (Account.bare_setRoles _ _ _))

/-- Built-in functions write nothing of an account but its storage, its currency, its owner and its name,
and take no account out of the ledger. -/
theorem Effect.core_stays {function : Function} (effect : Effect call world function after) :
    world.Stays Account.core after := by
  cases effect with
  | tokenTransfer _ _ moved => exact moved.core_stays
  | instanceTransfer _ _ _ _ moved => exact moved.core_stays
  | multiTransfer _ _ _ moved => exact moved.core_stays
  | localMint _ _ _ _ found =>
    exact .write (Account.core_of_bare (by rw [Account.bare_setHolding, found]))
  | localBurn _ _ _ _ burned => exact burned.core_stays
  | create _ _ _ _ _ found =>
    exact .write (Account.core_of_bare (by
      rw [Account.bare_setLastNonce, Account.bare_setHolding, found]))
  | addQuantity own | addUris own | updateAttributes own =>
    exact .write_found own.found (Account.core_of_bare (Account.bare_setHolding _ _ _ _))
  | burn _ _ _ _ burned => exact burned.core_stays
  | setRoles changed => exact changed.core_stays
  | unsetRoles changed => exact changed.core_stays
  | changeOwner _ _ own => exact .write_found own.found rfl
  | @claimRewards contract middle _ own taken =>
    have first : world.Stays Account.core middle := by
      rw [taken]
      exact .write_found own.found rfl
    exact first.trans (.write rfl)
  | setUsername _ _ found =>
    apply Stays.write
    rw [found]
    rfl
  | saveKeyValue _ _ _ found =>
    exact .write (Account.core_of_bare (by rw [Account.bare_saveAll, found]))

end Builtin

/-! ## Transactions -/

namespace World

variable {world after : World}

theorem account?_charged_sender {transaction : Transaction} {account : Account}
    (sends : transaction.kind.hasSender)
    (found : world.account? transaction.sender.value = some account) :
    ∃ sender, (world.charged transaction).account? transaction.sender.value = some sender ∧
      sender.nonce = account.nonce + 1 := by
  simp only [charged, sends, found, account?_setAccount]
  exact ⟨_, rfl, rfl⟩

/-- Only a sender is charged. -/
theorem account?_charged_of_other {transaction : Transaction} {address : Bytes}
    (other : ¬(transaction.kind.hasSender ∧ address = transaction.sender.value)) :
    (world.charged transaction).account? address = world.account? address := by
  unfold charged
  dsimp only
  split
  · rename_i sends _
    rw [account?_setAccount, if_neg fun here => other ⟨sends, here⟩]
  · rfl

/-- Who is not there is not charged. -/
theorem account?_charged_of_missing {transaction : Transaction} {address : Bytes}
    (missing : world.account? address = none) :
    (world.charged transaction).account? address = none := by
  unfold charged
  dsimp only
  split
  · rename_i found
    rw [account?_setAccount, if_neg, missing]
    rintro rfl
    rw [missing] at found
    cases found
  · exact missing

/-- No nonce is part of what a commit settles. -/
theorem nonces_commit (world : World) : world.Stays Account.nonce world.commit := by
  intro address
  apply Stands.commit
  · exact fun _ => rfl
  · exact fun _ => rfl

/-- A change that asks for no nonce leaves all nonces alone. -/
theorem nonces_applied {address : Bytes} {change : AccountChange} (none : change.nonce = 0)
    (applies : applyChanges (OrdMap.empty.insert address change) [] world = .ok () after) :
    world.Stays Account.nonce after := by
  obtain ⟨account, adds, rfl⟩ := ok_applyChanges_single applies
  have same := congrArg Account.nonce (Account.core_addToBalance adds)
  exact .write ((Account.nonce_rewrite none account).trans same)

end World

namespace Run

section Performed

variable {tx : String} {transaction : Transaction} {world middle paid after : World}
  {output : CallOutput}

theorem Paid.core_stays (pays : Paid transaction world paid) : world.Stays Account.core paid := by
  cases pays with
  | sender _ pays =>
    obtain ⟨account, changed, found, adds, rfl⟩ := ok_updateBalance pays
    exact .write_found found (Account.core_addToBalance adds)
  | nobody => exact .refl world

theorem Delivered.core_stays {call : Call} (delivered : Delivered call world after) :
    world.Stays Account.core after := by
  cases delivered with
  | none => exact .refl world
  | moved _ _ effect => exact effect.core_stays

/-- What a contract was asked for changes no nonce, whatever is paid in between. -/
theorem Answered.nonces {call : Call} (answered : Answered call world middle output)
    (pays : Paid transaction middle paid)
    (applies : applyChanges output.changes output.deleted paid = .ok () after) :
    world.Stays Account.nonce after := by
  obtain ⟨-, -, delivered, called⟩ := answered
  have before := delivered.core_stays
  cases called with
  | builtin _ effect plain =>
    obtain rfl := applied_plain plain pays.grows applies
    exact ((before.trans effect.core_stays).trans pays.core_stays).comp Account.nonce
  | upgraded =>
    have between := (before.trans pays.core_stays).comp Account.nonce
    exact between.trans (nonces_applied rfl applies)

/-- What is done and then applied changes no nonce, whatever is paid in between. -/
theorem Enacted.nonces (enacted : Enacted tx transaction world middle output)
    (pays : Paid transaction middle paid)
    (applies : applyChanges output.changes output.deleted paid = .ok () after) :
    world.Stays Account.nonce after := by
  have between := pays.core_stays.comp Account.nonce
  cases enacted with
  | @deployed address =>
    -- That the ledger remembers the new address is nothing to its accounts.
    have named : world.Stays Account.nonce { world with lastCreated := address } :=
      (Stays.refl world).of_accounts rfl
    exact (named.trans between).trans (nonces_applied rfl applies)
  | answered _ answered => exact answered.nonces pays applies
  | credited => exact between.trans (nonces_applied rfl applies)
  | moved _ _ _ effect plain =>
    obtain rfl := applied_plain plain pays.grows applies
    exact (effect.core_stays.comp Account.nonce).trans between
  | rewarded => exact between.trans (nonces_applied rfl applies)

/-- What a transaction that ends well does behind the charge of its sender changes no nonce. -/
theorem Completed.nonces (completed : Completed tx transaction world output after) :
    (world.charged transaction).Stays Account.nonce after := by
  obtain ⟨⟨-, enacted, pays, applies, -⟩⟩ := completed
  have copied : (world.charged transaction).Stays Account.nonce (world.charged transaction).backup :=
    (Stays.refl _).of_accounts rfl
  exact (copied.trans (enacted.nonces pays applies)).trans (nonces_commit _)

end Performed

/-- Behind the charge of its sender a transaction changes no nonce, however it ends. -/
theorem nonces_behind_charge (executor : Executor Dummy) (tx : String) (transaction : Transaction) :
    (executor.world.charged transaction).Stays Account.nonce
      (stateAfter (transact Dummy.machine tx transaction executor)).world := by
  rcases transact_ends executor tx transaction with ⟨output, after, ran, -, completed⟩ | ⟨-, undone⟩
  · rw [ran]
    exact completed.nonces
  · -- What is undone goes back to the accounts that were copied, which is behind the charge.
    exact (Stays.refl _).of_accounts undone.accounts

/-- A transaction spends exactly one nonce, whether it is kept, undone or ends with a fault: the nonce of
its sender, if its kind has one, is one higher afterwards; every other account that was there is there with
the nonce that it had; and every account that was not there has spent none. -/
theorem nonces_transact (executor : Executor Dummy) (tx : String) (transaction : Transaction) :
    (∀ account, transaction.kind.hasSender →
      executor.world.account? transaction.sender.value = some account →
        account.nonce.toNat + 1 < UInt64.size →
          ∃ sender, (stateAfter (transact Dummy.machine tx transaction executor)).world.account?
              transaction.sender.value = some sender ∧
            sender.nonce.toNat = account.nonce.toNat + 1) ∧
    (∀ address account, ¬(transaction.kind.hasSender ∧ address = transaction.sender.value) →
      executor.world.account? address = some account →
        ∃ left, (stateAfter (transact Dummy.machine tx transaction executor)).world.account?
            address = some left ∧ left.nonce = account.nonce) ∧
    ∀ address account, executor.world.account? address = none →
      (stateAfter (transact Dummy.machine tx transaction executor)).world.account? address =
          some account → account.nonce = 0 := by
  -- Only the charge matters, so that each part is about the ledger before and behind it.
  have stays := nonces_behind_charge executor tx transaction
  refine ⟨?sender, ?others, ?newcomers⟩
  case sender =>
    intro account sends found room
    obtain ⟨charged, there, raised⟩ := account?_charged_sender sends found
    obtain ⟨sender, left, same⟩ := stays.found there
    refine ⟨sender, left, ?_⟩
    rw [same, raised, UInt64.toNat_add]
    exact Nat.mod_eq_of_lt room
  case others =>
    intro address account other found
    rw [← account?_charged_of_other other] at found
    exact stays.found found
  case newcomers =>
    intro address account missing found
    exact stays.appeared (account?_charged_of_missing missing) found

/-- An account that has sent transactions before. -/
def pioneer : Account := { Account.blank (List.replicate Address.length 1) with nonce := 255 }

/-- An account that has nothing to do with them. -/
def hermit : Account := { Account.blank (List.replicate Address.length 2) with nonce := 4 }

/-- A state with both. -/
def frontier : Executor Dummy :=
  (Executor.alone pioneer).withWorld ((World.alone pioneer).putAccount hermit)

/-- The transaction by which the first deploys a contract. -/
def outpost : Transaction :=
  { Transaction.blank .deploy with sender := .implied pioneer.address, code := .implied [1] }

/-- The pioneer has spent a nonce more, the hermit none, and the contract, which is new, none at all. -/
theorem nonces_transact_outpost :
    (∃ sender, (stateAfter (transact Dummy.machine "found" outpost frontier)).world.account?
      pioneer.address = some sender ∧ sender.nonce.toNat = 256) ∧
    (∃ left, (stateAfter (transact Dummy.machine "found" outpost frontier)).world.account?
      hermit.address = some left ∧ left.nonce = 4) ∧
    ∃ contract, (stateAfter (transact Dummy.machine "found" outpost frontier)).world.account?
      (Address.mock pioneer.address 255 []) = some contract ∧ contract.nonce = 0 := by
  obtain ⟨sender, others, newcomers⟩ := nonces_transact frontier "found" outpost
  have sends : outpost.kind.hasSender := by decide
  have first : frontier.world.account? pioneer.address = some pioneer := rfl
  have second : frontier.world.account? hermit.address = some hermit := rfl
  have free : frontier.world.account? (Address.mock pioneer.address 255 []) = none := by
    decide +kernel
  have deployed : ((stateAfter (transact Dummy.machine "found" outpost frontier)).world.account?
      (Address.mock pioneer.address 255 [])).isSome := by decide +kernel
  refine ⟨sender pioneer sends first (by decide), others _ hermit (by decide) second, ?_⟩
  obtain ⟨contract, found⟩ := Option.isSome_iff_exists.1 deployed
  exact ⟨contract, found, newcomers _ contract free found⟩

end Run
end ChainScenario
