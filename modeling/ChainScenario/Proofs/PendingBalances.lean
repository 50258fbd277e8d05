import ChainScenario.Proofs.BuiltinEffects
import ChainScenario.Proofs.Storage

/-!
# Pending changes of balances

The pending change of a balance is meant to tell by how much it differs from the last commit. Built-in
functions record what they take from an account, but neither the currency that a movement gives to its
receiver nor the rewards that a claim pays out; everything else they do leaves balances alone.

Main statements:
- `Effect.base_eq`: what one success leaves out of the record.
- `balance_pending`: after any calls that ended well, the pending change of an account falls short of the
  truth by what was given to it, and tells the truth exactly if nothing was.
-/
namespace ChainScenario

/-! ## The balance at the last commit -/

/-- What the balance of an account was at the last commit, if its pending change tells the truth. -/
def Account.base (account : Account) : Int := account.balance - account.balanceDelta

namespace Account

variable {account other payer : Account} {value : Nat}

/-- Only the bare account counts. -/
theorem base_of_bare (same : account.bare = other.bare) : account.base = other.base := by
  change account.bare.base = other.bare.base
  rw [same]

/-- What is taken from a balance is recorded. -/
theorem base_takeFromBalance (pays : account.takeFromBalance value = .ok payer) :
    payer.base = account.base := by
  unfold takeFromBalance at pays
  split at pays
  · cases pays
  · cases pays
    simp only [base]
    omega

end Account

namespace World

/-- What the balance at an address was at the last commit, if the pending change tells the truth. -/
def base (world : World) (address : Bytes) : Int := (world.accountOrBlank address).base

variable {world : World} {address : Bytes} {account : Account}

theorem base_of_found (found : world.account? address = some account) :
    world.base address = account.base := by
  rw [base, accountOrBlank_of_account? found]

theorem base_setAccount (same : account.base = world.base address) (other : Bytes) :
    (world.setAccount address account).base other = world.base other :=
  view_setAccount Account.base same other

theorem base_setAccount_of_bare (same : account.bare = (world.accountOrBlank address).bare)
    (other : Bytes) : (world.setAccount address account).base other = world.base other :=
  base_setAccount (Account.base_of_bare same) other

/-- What an account is given without a record adds to its base. -/
theorem base_give (world : World) (written : Bytes) (value : Nat) (address : Bytes) :
    (world.setAccount written { world.accountOrBlank written with
      balance := (world.accountOrBlank written).balance + value }).base address =
      world.base address + if address = written then value else 0 := by
  rw [base, accountOrBlank_setAccount]
  split
  · rename_i here
    rw [base, here]
    simp only [Account.base]
    omega
  · simp [base]

end World

namespace Builtin

open Token World

/-! ## One call -/

/-- The currency that listed movements send. -/
def currencyListed : List (Bytes × Bytes × Bytes) → Nat
  | [] => 0
  | (token, _, amount) :: rest =>
    (if token = currency then Bytes.toNat amount else 0) + currencyListed rest

/-- What a success of a function gives to an account without a record. -/
def Function.unrecorded (function : Function) (call : Call) (world : World) (address : Bytes) : Nat :=
  match function with
  | multiTransfer =>
    match call.input.arguments with
    | destination :: count :: rest =>
      if address = destination then currencyListed ((listedMovements? count rest).getD []) else 0
    | _ => 0
  | claimRewards =>
    if address = call.input.caller then (world.accountOrBlank call.recipient).developerReward else 0
  | _ => 0

section Movements

variable {source destination token : Bytes} {nonce : UInt64} {value : Nat} {world after : World}

theorem TokensMoved.base_eq (moved : TokensMoved source destination token nonce value world after)
    (address : Bytes) : after.base address = world.base address := by
  obtain ⟨-, found, -, -, -, taken, -⟩ := moved
  rename_i middle _
  have first : middle.base address = world.base address := by
    rw [taken]
    apply base_setAccount_of_bare
    rw [Account.bare_saveHolding, accountOrBlank_of_account? found]
  rw [← first]
  exact base_setAccount_of_bare (Account.bare_setHolding _ _ _ _) address

/-- Of a movement of currency only the payment is recorded. -/
theorem CurrencyMoved.base_eq (moved : CurrencyMoved source destination value world after)
    (address : Bytes) :
    after.base address = world.base address + if address = destination then value else 0 := by
  obtain ⟨-, found, pays, taken⟩ := moved
  rename_i payer middle
  have first : middle.base address = world.base address := by
    rw [taken]
    apply base_setAccount
    rw [Account.base_takeFromBalance pays, base_of_found found]
  rw [base_give, first]

theorem AllMoved.base_eq {listed : List (Bytes × Bytes × Bytes)}
    (moved : AllMoved source destination listed world after) (address : Bytes) :
    after.base address =
      world.base address + if address = destination then currencyListed listed else 0 := by
  induction moved with
  | none => simp [currencyListed]
  | more _ first _ ih =>
    rw [ih, currencyListed]
    cases first with
    | currency same moved =>
      rw [moved.base_eq, if_pos same]
      split <;> omega
    | tokens other moved =>
      rw [moved.base_eq, if_neg other, Nat.zero_add]

theorem Burned.base_eq (burned : Burned source token nonce value world after) (address : Bytes) :
    after.base address = world.base address := by
  obtain ⟨found, -, -⟩ := burned
  apply base_setAccount_of_bare
  rw [Account.bare_saveHolding, accountOrBlank_of_account? found]

end Movements

variable {call : Call} {world after : World}

theorem RolesChanged.base_eq {change : List Bytes → Bytes → List Bytes}
    (changed : RolesChanged change call world after) (address : Bytes) :
    after.base address = world.base address := by
  obtain ⟨-, -, -⟩ := changed
  exact base_setAccount_of_bare (Account.bare_setRoles _ _ _) address

/-- A success records every change of a balance but what `unrecorded` tells. -/
theorem Effect.base_eq {function : Function} (effect : Effect call world function after)
    (address : Bytes) :
    after.base address = world.base address + function.unrecorded call world address := by
  -- most functions leave nothing out, since they leave balances alone
  have unchanged : function.unrecorded call world address = 0 →
      after.base address = world.base address →
      after.base address = world.base address + function.unrecorded call world address := by
    intro nothing same
    rw [nothing, same, Int.natCast_zero, Int.add_zero]
  cases effect with
  | tokenTransfer _ _ moved => exact unchanged rfl (moved.base_eq address)
  | instanceTransfer _ _ _ _ moved => exact unchanged rfl (moved.base_eq address)
  | multiTransfer _ arguments lists moved =>
    simp only [moved.base_eq, Function.unrecorded, arguments, lists, Option.getD_some]
  | localMint _ _ _ _ found =>
    refine unchanged rfl (base_setAccount_of_bare ?_ address)
    rw [Account.bare_setHolding, found]
  | localBurn _ _ _ _ burned => exact unchanged rfl (burned.base_eq address)
  | create _ _ _ _ _ found =>
    refine unchanged rfl (base_setAccount_of_bare ?_ address)
    rw [Account.bare_setLastNonce, Account.bare_setHolding, found]
  | addQuantity own | addUris own | updateAttributes own =>
    refine unchanged rfl (base_setAccount_of_bare ?_ address)
    rw [Account.bare_setHolding, accountOrBlank_of_account? own.found]
  | burn _ _ _ _ burned => exact unchanged rfl (burned.base_eq address)
  | setRoles changed => exact unchanged rfl (changed.base_eq address)
  | unsetRoles changed => exact unchanged rfl (changed.base_eq address)
  | changeOwner _ _ own =>
    refine unchanged rfl (base_setAccount ?_ address)
    rw [base_of_found own.found]
    rfl
  | @claimRewards contract middle _ own taken =>
    have first : middle.base address = world.base address := by
      rw [taken]
      refine base_setAccount ?_ address
      rw [base_of_found own.found]
      rfl
    rw [base_give, first, Function.unrecorded, accountOrBlank_of_account? own.found]
  | setUsername _ _ found =>
    refine unchanged rfl (base_setAccount ?_ address)
    rw [World.base, found]
    rfl
  | saveKeyValue _ _ _ found =>
    refine unchanged rfl (base_setAccount_of_bare ?_ address)
    rw [Account.bare_saveAll, found]

/-! ## Calls one after another -/

/-- What a call gives to an account without a record. -/
def unrecorded (call : Call) (world : World) (address : Bytes) : Nat :=
  (Function.ofName? call.function).elim 0 (·.unrecorded call world address)

theorem base_run (good : succeeds call world) (address : Bytes) :
    (stateAfter (run call world)).base address =
      world.base address + unrecorded call world address := by
  obtain ⟨output, after, ran, succeeded⟩ := ok_of_endedWith good
  obtain ⟨function, named, effect, -⟩ := effect_of_run ran succeeded
  rw [ran, unrecorded, named]
  exact effect.base_eq address

/-- What some calls give to an account without a record. -/
def unrecordedBy (address : Bytes) : List Call → World → Nat
  | [], _ => 0
  | call :: rest, world =>
    unrecorded call world address + unrecordedBy address rest (stateAfter (run call world))

theorem base_afterCalls {calls : List Call} (good : allSucceed calls world) (address : Bytes) :
    (afterCalls calls world).base address = world.base address + unrecordedBy address calls world := by
  induction calls generalizing world with
  | nil => simp [afterCalls, unrecordedBy]
  | cons call rest ih =>
    obtain ⟨first, others⟩ := Bool.and_eq_true_iff.1 good
    rw [afterCalls, ih others, base_run first, unrecordedBy]
    omega

/-- Where no change is pending, calls that end well leave pending changes that fall short by what the calls
give without a record, and tell the truth of an account exactly if that is nothing. -/
theorem balance_pending (calls : List Call) (world : World)
    (settled : ∀ address account, world.account? address = some account → account.balanceDelta = 0)
    (good : allSucceed calls world) (address : Bytes) :
    (((afterCalls calls world).accountOrBlank address).balance : Int) -
        (world.accountOrBlank address).balance =
      ((afterCalls calls world).accountOrBlank address).balanceDelta +
        unrecordedBy address calls world ∧
    ((((afterCalls calls world).accountOrBlank address).balance : Int) -
        (world.accountOrBlank address).balance =
      ((afterCalls calls world).accountOrBlank address).balanceDelta ↔
        unrecordedBy address calls world = 0) := by
  have before : (world.accountOrBlank address).balanceDelta = 0 := by
    cases found : world.account? address with
    | none =>
      rw [accountOrBlank_of_missing found]
      rfl
    | some account =>
      rw [accountOrBlank_of_account? found]
      exact settled address account found
  have moved := base_afterCalls good address
  simp only [World.base, Account.base, before] at moved
  omega

/-- An account with a balance of five. -/
def donor : Account := { Account.blank (List.replicate Address.length 1) with balance := 5 }

/-- The address of an account that is not there. -/
def stranger : Bytes := List.replicate Address.length 2

/-- The call by which the account sends three of it to the stranger. -/
def donation : Call where
  input := ⟨donor.address, [stranger, [1], currency, [], [3]], 0, 0, 0, [], [], []⟩
  recipient := donor.address
  function := "MultiESDTNFTTransfer"

theorem settled_donor (address : Bytes) (account : Account)
    (found : (World.alone donor).account? address = some account) : account.balanceDelta = 0 := by
  change ((World.new []).setAccount donor.address donor).account? address = _ at found
  rw [account?_setAccount] at found
  split at found
  · cases found
    rfl
  · cases found

theorem allSucceed_donation : allSucceed [donation] (.alone donor) = true := by
  decide +kernel

/-- The donation is missing from the pending change of the stranger, while that of the donor is true. -/
theorem balance_pending_donation :
    (((afterCalls [donation] (.alone donor)).accountOrBlank stranger).balance : Int) -
        ((World.alone donor).accountOrBlank stranger).balance =
      ((afterCalls [donation] (.alone donor)).accountOrBlank stranger).balanceDelta + 3 ∧
    (((afterCalls [donation] (.alone donor)).accountOrBlank donor.address).balance : Int) -
        ((World.alone donor).accountOrBlank donor.address).balance =
      ((afterCalls [donation] (.alone donor)).accountOrBlank donor.address).balanceDelta := by
  obtain ⟨short, -⟩ :=
    balance_pending [donation] (.alone donor) settled_donor allSucceed_donation stranger
  obtain ⟨-, truth⟩ :=
    balance_pending [donation] (.alone donor) settled_donor allSucceed_donation donor.address
  have given : unrecordedBy stranger [donation] (.alone donor) = 3 := by decide +kernel
  have nothing : unrecordedBy donor.address [donation] (.alone donor) = 0 := by decide +kernel
  rw [given] at short
  exact ⟨short, truth.2 nothing⟩

/-- Of the stranger's balance the pending change does not tell the truth. -/
theorem balance_not_pending :
    ¬∀ (calls : List Call) (world : World),
      (∀ address account, world.account? address = some account → account.balanceDelta = 0) →
      allSucceed calls world → ∀ address,
        (((afterCalls calls world).accountOrBlank address).balance : Int) -
            (world.accountOrBlank address).balance =
          ((afterCalls calls world).accountOrBlank address).balanceDelta := by
  intro claim
  have told := claim [donation] (.alone donor) settled_donor allSucceed_donation stranger
  revert told
  decide +kernel

end Builtin
end ChainScenario
