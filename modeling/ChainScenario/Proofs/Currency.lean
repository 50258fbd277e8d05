import ChainScenario.Proofs.BuiltinEffects
import ChainScenario.Proofs.Storage
import ChainScenario.Run.Transaction

/-!
# Currency is neither made nor lost

The wealth of a ledger is the sum of all balances and of all developer rewards that wait to be claimed.
Main statements: `Effect.wealth_eq`, no built-in function changes it, and `wealth_applyChanges`, a
result changes it by what its changes of balances add up to.
-/
namespace ChainScenario

/-- The currency of an account: its balance and the rewards that wait for its owner. -/
def Account.wealth (account : Account) : Nat := account.balance + account.developerReward

/-- All currency of a ledger. -/
def World.wealth (world : World) : Nat := world.sum Account.wealth

/-- Only the bare account counts. -/
theorem Account.wealth_of_bare {account other : Account} (same : account.bare = other.bare) :
    account.wealth = other.wealth := by
  change account.bare.wealth = other.bare.wealth
  rw [same]

namespace World

theorem wealth_setAccount (world : World) (address : Bytes) (account : Account) :
    (world.setAccount address account).wealth + (world.accountOrBlank address).wealth =
      world.wealth + account.wealth :=
  sum_setAccount world address account rfl

theorem wealth_setAccount_of_bare (world : World) (address : Bytes) {account : Account}
    (same : account.bare = (world.accountOrBlank address).bare) :
    (world.setAccount address account).wealth = world.wealth :=
  sum_setAccount_same world address account rfl (Account.wealth_of_bare same)

theorem wealth_commit (world : World) : world.commit.wealth = world.wealth :=
  OrdMap.total_mapValues _ _ _ _ fun _ _ => rfl

end World

/-! ## Built-in functions -/

namespace Builtin

open World

section Movements

variable {source destination token : Bytes} {nonce : UInt64} {value : Nat} {world after : World}

theorem TokensMoved.wealth_eq
    (moved : TokensMoved source destination token nonce value world after) :
    after.wealth = world.wealth := by
  -- Both writes change only what is stored, and currency is part of the bare account.
  obtain ⟨-, found, -, -, -, rfl, -⟩ := moved
  rw [wealth_setAccount_of_bare _ _ (Account.bare_setHolding _ _ _ _)]
  apply wealth_setAccount_of_bare
  rw [Account.bare_saveHolding, accountOrBlank_of_account? found]

theorem CurrencyMoved.wealth_eq (moved : CurrencyMoved source destination value world after) :
    after.wealth = world.wealth := by
  obtain ⟨-, found, pays, taken⟩ := moved
  rename_i sender payer middle
  have paid : payer.wealth + value = sender.wealth := by
    unfold Account.takeFromBalance at pays
    split at pays
    · cases pays
    · cases pays
      simp only [Account.wealth]
      omega
  have first := world.wealth_setAccount source payer
  rw [accountOrBlank_of_account? found, ← taken] at first
  -- The receiver is looked up after the sender was written, so both may be the same account.
  have second := middle.wealth_setAccount destination { middle.accountOrBlank destination with
    balance := (middle.accountOrBlank destination).balance + value }
  simp only [Account.wealth] at first second paid ⊢
  omega

theorem AllMoved.wealth_eq {listed : List (Bytes × Bytes × Bytes)}
    (moved : AllMoved source destination listed world after) : after.wealth = world.wealth := by
  induction moved with
  | none => rfl
  | more _ first _ ih =>
    rw [ih]
    cases first with
    | currency _ moved => exact moved.wealth_eq
    | tokens _ moved => exact moved.wealth_eq

theorem Burned.wealth_eq {holder : Bytes} (burned : Burned holder token nonce value world after) :
    after.wealth = world.wealth := by
  obtain ⟨found, -, -⟩ := burned
  apply wealth_setAccount_of_bare
  rw [Account.bare_saveHolding, accountOrBlank_of_account? found]

end Movements

theorem RolesChanged.wealth_eq {change : List Bytes → Bytes → List Bytes} {call : Call}
    {world after : World} (changed : RolesChanged change call world after) :
    after.wealth = world.wealth := by
  obtain ⟨-, -, -⟩ := changed
  exact wealth_setAccount_of_bare _ _ (Account.bare_setRoles _ _ _)

/-- No built-in function makes or loses currency. -/
theorem Effect.wealth_eq {call : Call} {world after : World} {function : Function}
    (effect : Effect call world function after) : after.wealth = world.wealth := by
  cases effect with
  | tokenTransfer _ _ moved => exact moved.wealth_eq
  | instanceTransfer _ _ _ _ moved => exact moved.wealth_eq
  | multiTransfer _ _ _ moved => exact moved.wealth_eq
  | localMint _ _ _ _ found _ =>
    exact wealth_setAccount_of_bare _ _ (by rw [Account.bare_setHolding, found])
  | localBurn _ _ _ _ burned => exact burned.wealth_eq
  | create _ _ _ _ _ found _ _ =>
    exact wealth_setAccount_of_bare _ _ (by
      rw [Account.bare_setLastNonce, Account.bare_setHolding, found])
  | addQuantity own _ =>
    exact wealth_setAccount_of_bare _ _ (by
      rw [Account.bare_setHolding, accountOrBlank_of_account? own.found])
  | burn _ _ _ _ burned => exact burned.wealth_eq
  | addUris own _ =>
    exact wealth_setAccount_of_bare _ _ (by
      rw [Account.bare_setHolding, accountOrBlank_of_account? own.found])
  | updateAttributes own _ =>
    exact wealth_setAccount_of_bare _ _ (by
      rw [Account.bare_setHolding, accountOrBlank_of_account? own.found])
  | setRoles changed => exact changed.wealth_eq
  | unsetRoles changed => exact changed.wealth_eq
  | @changeOwner owner contract _ _ own =>
    have write := world.wealth_setAccount call.recipient { contract with owner := owner }
    rw [accountOrBlank_of_account? own.found] at write
    simp only [Account.wealth] at write
    omega
  | @claimRewards contract middle _ own taken =>
    have first := world.wealth_setAccount call.recipient { contract with developerReward := 0 }
    rw [accountOrBlank_of_account? own.found, ← taken] at first
    -- the caller may be the contract itself, so it is looked up in between
    have second := middle.wealth_setAccount call.input.caller
      { middle.accountOrBlank call.input.caller with
        balance := (middle.accountOrBlank call.input.caller).balance + contract.developerReward }
    simp only [Account.wealth] at first second ⊢
    omega
  | @setUsername username account _ _ found _ =>
    have write := world.wealth_setAccount call.recipient { account with username := username }
    rw [found] at write
    simp only [Account.wealth] at write
    omega
  | saveKeyValue _ _ _ found =>
    exact wealth_setAccount_of_bare _ _ (by rw [Account.bare_saveAll, found])

end Builtin

/-! ## Results -/

namespace Run

theorem sumOfDeltas_of_idle {changes : OrdMap Bytes AccountChange}
    (idle : ∀ entry ∈ changes.toList, entry.2 = .none) : sumOfDeltas changes = 0 := by
  -- The induction needs the bare list; the keys play no part in the sum.
  have zero : ∀ deltas : List AccountChange, (∀ change ∈ deltas, change = .none) →
      deltas.foldr (fun change sum => change.balanceDelta + sum) 0 = 0 := by
    intro deltas none
    induction deltas with
    | nil => rfl
    | cons change rest ih =>
      rw [List.foldr_cons, ih fun other member => none other (by simp [member]),
        none change (by simp)]
      rfl
  refine zero _ fun change member => ?_
  obtain ⟨entry, listed, rfl⟩ := List.mem_map.1 member
  exact idle entry listed

theorem sumOfDeltas_single (address : Bytes) (change : AccountChange) :
    sumOfDeltas (OrdMap.empty.insert address change) = change.balanceDelta :=
  Int.add_zero _

end Run

namespace World

theorem wealth_addToBalance {account changed : Account} {delta : Int}
    (adds : account.addToBalance delta = .ok changed) :
    (changed.wealth : Int) = account.wealth + delta := by
  unfold Account.addToBalance at adds
  dsimp only at adds
  split at adds
  · cases adds
  · cases adds
    simp only [Account.wealth]
    omega

theorem wealth_updateBalance {address : Bytes} {delta : Int} {world after : World}
    (ran : updateBalance address delta world = .ok () after) :
    (after.wealth : Int) = world.wealth + delta := by
  obtain ⟨account, changed, found, adds, rfl⟩ := ok_updateBalance ran
  have write := world.wealth_setAccount address changed
  rw [accountOrBlank_of_account? found] at write
  have more := wealth_addToBalance adds
  omega

theorem wealth_rewrite (change : AccountChange) (account : Account) :
    (change.rewrite account).wealth = account.wealth := by
  unfold AccountChange.rewrite
  rw [Account.wealth_of_bare (Account.bare_saveAll _ _)]
  split <;> split <;> rfl

theorem wealth_applyChange {address : Bytes} {change : AccountChange} {world after : World}
    (ran : applyChange address change world = .ok () after) :
    (after.wealth : Int) = world.wealth + change.balanceDelta := by
  obtain ⟨account, adds, rfl⟩ := ok_applyChange.1 ran
  have more := wealth_addToBalance adds
  have same := wealth_rewrite change account
  have write := world.wealth_setAccount address (change.rewrite account)
  omega

private theorem wealth_applyEach {entries : List (Bytes × AccountChange)} {world after : World}
    (ran : (entries.forM fun entry => applyChange entry.1 entry.2 : Action Unit) world =
      .ok () after) :
    (after.wealth : Int) = world.wealth +
      (entries.map (·.2)).foldr (fun change sum => change.balanceDelta + sum) 0 := by
  induction entries generalizing world with
  | nil =>
    obtain ⟨-, rfl⟩ := ok_pure.1 ran
    simp
  | cons entry rest ih =>
    obtain ⟨_, middle, first, others⟩ := ok_bind.1 ran
    -- one change, then the rest from the ledger it left
    have step := wealth_applyChange first
    have run := ih others
    rw [List.map_cons, List.foldr_cons]
    omega

/-- A result that deletes nothing puts as much into the ledger as its changes add up to. -/
theorem wealth_applyChanges {changes : OrdMap Bytes AccountChange} {world after : World}
    (ran : applyChanges changes [] world = .ok () after) :
    (after.wealth : Int) = world.wealth + Run.sumOfDeltas changes := by
  simp only [applyChanges, ok_bind, ok_modify, List.foldl_nil] at ran
  obtain ⟨_, _, applied, rfl⟩ := ran
  exact wealth_applyEach applied

end World
end ChainScenario
