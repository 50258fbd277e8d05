import ChainScenario.Proofs.Entries
import ChainScenario.Proofs.Outcome
import ChainScenario.Proofs.Supply

/-!
# Built-in functions leave tokens readable

A ledger is sound if its stored tokens are intact and its supplies can be written as amounts. Main
statements: `Effect.readable`, what a built-in function writes on a sound ledger is readable, and
`run_unbroken`, no built-in function finds a sound ledger broken.
-/
namespace ChainScenario

open Token

/-- Stored tokens are intact, and what all accounts hold of one together can be written as an amount. -/
structure World.Sound (world : World) : Prop where
  intact : world.Every Intact
  small : ∀ slot, (Bytes.ofNat (world.supply slot)).length < UInt64.size

theorem World.Bounded.short {world : World} (bounded : world.Bounded) {address : Bytes}
    {account : Account} (found : world.account? address = some account) : account.Short := by
  intro key
  have room : memory ≤ UInt64.size := by decide
  exact Nat.lt_of_lt_of_le (bounded.stored_lt (OrdMap.mem_values_of_get? found) key) room

/-- In memory what is readable is intact. -/
theorem World.Every.sound {world : World} (readable : world.Every Readable) (bounded : world.Bounded) :
    world.Sound := by
  constructor
  · intro address account found
    exact (readable address account found).intact (bounded.short found)
  · exact bounded.supply_small

theorem World.Sound.readable {world : World} (sound : world.Sound) : world.Every Readable :=
  sound.intact.mono fun _ _ => Intact.readable

namespace Builtin

open World

/-! ## Movements keep a ledger sound -/

section Movements

variable {source destination token : Bytes} {nonce : UInt64} {value : Nat} {world after : World}

/-- What the sender has left is intact. -/
private theorem intact_taken {sender : Account} {sent : Holding} (intact : world.Every Intact)
    (value : Nat) (found : world.account? source = some sender)
    (holds : sender.holding? token nonce = .ok (some sent)) :
    (world.setAccount source (sender.saveHolding token nonce
      { sent with value := sent.value - value })).Every Intact := by
  have kept := (Account.fits_of_holding? holds).less (Nat.sub_le sent.value value)
  apply intact.setAccount
  apply (intact source sender found).saveHolding
  exact fun left => intact_write kept left token nonce

theorem TokensMoved.sound (moved : TokensMoved source destination token nonce value world after)
    (positive : value ≠ 0) (sound : world.Sound) : after.Sound := by
  have same := moved.supply_eq (sound.small _)
  constructor
  · obtain ⟨-, found, holds, enough, -, taken, reads⟩ := moved
    have between := taken ▸ intact_taken sound.intact value found holds
    have fits := fits_moved found holds enough (taken ▸ reads) (sound.small _)
    apply between.setAccount
    apply (between.accountOrBlank destination).put
    apply intact_write fits
    rw [value_received]
    omega
  · intro slot
    rw [same slot]
    exact sound.small slot

theorem CurrencyMoved.sound (moved : CurrencyMoved source destination value world after)
    (sound : world.Sound) : after.Sound := by
  have same := moved.supply_eq
  constructor
  · obtain ⟨-, found, pays, rfl⟩ := moved
    have paid : (world.setAccount source _).Every Intact :=
      sound.intact.setAccount ((sound.intact source _ found).of_storage (Account.storage_takeFromBalance pays))
    exact paid.setAccount ((paid.accountOrBlank destination).of_storage rfl)
  · intro slot
    rw [same slot]
    exact sound.small slot

theorem AnyMoved.sound (moved : AnyMoved source destination token nonce value world after)
    (positive : value ≠ 0) (sound : world.Sound) : after.Sound := by
  cases moved with
  | currency _ moved => exact moved.sound sound
  | tokens _ moved => exact moved.sound positive sound

theorem AllMoved.sound {listed : List (Bytes × Bytes × Bytes)}
    (moved : AllMoved source destination listed world after) (sound : world.Sound) :
    after.Sound := by
  induction moved with
  | none => exact sound
  | more positive first _ ih => exact ih (first.sound positive sound)

end Movements

section Effects

variable {call : Call} {world after : World}

/-- A function that only moves what there is keeps a ledger sound. -/
theorem Effect.sound {function : Function} (effect : Effect call world function after)
    (moves : function.moves) (sound : world.Sound) : after.Sound := by
  cases effect with
  | tokenTransfer _ positive moved => exact moved.sound positive sound
  | instanceTransfer _ _ _ positive moved => exact moved.sound positive sound
  | multiTransfer _ _ _ moved => exact moved.sound sound
  | _ => cases moves

/-! ## Whatever is written is readable -/

theorem Burned.readable {holder token : Bytes} {nonce : UInt64} {value : Nat}
    (burned : Burned holder token nonce value world after) (readable : world.Every Readable) :
    after.Every Readable := by
  obtain ⟨found, -, -⟩ := burned
  apply readable.setAccount
  apply (readable _ _ found).saveHolding
  exact fun left => readable_write left token nonce

theorem RolesChanged.readable {change : List Bytes → Bytes → List Bytes}
    (changed : RolesChanged change call world after) (readable : world.Every Readable) :
    after.Every Readable := by
  obtain ⟨-, -, -⟩ := changed
  apply readable.setAccount
  apply (readable.accountOrBlank _).setRoles
  exact fun some => readable_writeRoles some _

/-- What a built-in function leaves on a sound ledger is readable. -/
theorem Effect.readable {function : Function} (effect : Effect call world function after)
    (sound : world.Sound) : after.Every Readable := by
  have readable := sound.readable
  -- a positive amount may be written anywhere
  have written : ∀ (address token : Bytes) (nonce : UInt64) (account : Account) (holding : Holding),
      account.Every Readable → 0 < holding.value →
        (world.setAccount address (account.setHolding token nonce holding)).Every Readable := by
    intro address token nonce account holding every positive
    exact readable.setAccount (every.put (readable_write positive token nonce))
  cases effect with
  | tokenTransfer _ positive moved => exact (moved.sound positive sound).readable
  | instanceTransfer _ _ _ positive moved => exact (moved.sound positive sound).readable
  | multiTransfer _ _ _ moved => exact (moved.sound sound).readable
  | localMint _ _ _ positive found _ =>
    subst found
    exact written _ _ _ _ _ (readable.accountOrBlank _) (by dsimp only; omega)
  | localBurn _ _ _ _ burned => exact burned.readable readable
  | create _ _ _ positive _ found _ _ =>
    subst found
    apply readable.setAccount
    apply Account.Every.save
    · exact (readable.accountOrBlank _).put (readable_write (Nat.pos_of_ne_zero positive) _ _)
    · exact fun some => (intact_nonceBytes some _).readable
  | addQuantity own positive =>
    exact written _ _ _ _ _ (readable _ _ own.found) (by dsimp only; omega)
  | burn _ _ _ _ burned => exact burned.readable readable
  | addUris own _ =>
    have some := (sound.intact _ _ own.found).positive own.holds
    exact written _ _ _ _ _ (readable _ _ own.found) some
  | updateAttributes own _ =>
    have some := (sound.intact _ _ own.found).positive own.holds
    exact written _ _ _ _ _ (readable _ _ own.found) some
  | setRoles changed => exact changed.readable readable
  | unsetRoles changed => exact changed.readable readable
  | changeOwner _ _ own => exact readable.setAccount ((readable _ _ own.found).of_storage rfl)
  | @claimRewards contract middle _ own taken =>
    have between : middle.Every Readable := by
      rw [taken]
      exact readable.setAccount ((readable _ _ own.found).of_storage rfl)
    exact between.setAccount ((between.accountOrBlank _).of_storage rfl)
  | setUsername _ _ found _ =>
    subst found
    exact readable.setAccount ((readable.accountOrBlank _).of_storage rfl)
  | saveKeyValue _ _ allowed found =>
    subst found
    apply readable.setAccount
    apply (readable.accountOrBlank _).saveAll
    exact fun entry member => (intact_of_unprotected (allowed entry member)).readable

end Effects

/-! ## No function finds a sound ledger broken -/

open Builtin.Action

section Guards

variable {α : Type} {world after : World} {fault : World.Fault}

@[simp] theorem broken_refuse {refusal : Refusal} :
    (refuse refusal : Action α) world = .error (.broken fault) after ↔ False := by
  simp [refuse]

@[simp] theorem broken_demand {condition : Bool} {refusal : Refusal} :
    demand condition refusal world = .error (.broken fault) after ↔ False := by
  unfold demand
  split <;> simp

@[simp] theorem broken_need {given : Option α} {refusal : Refusal} :
    need given refusal world = .error (.broken fault) after ↔ False := by
  cases given <;> simp [need]

@[simp] theorem broken_put {address : Bytes} {account : Account} :
    put address account world = .error (.broken fault) after ↔ False :=
  error_modify

@[simp] theorem broken_positive {bytes : Bytes} :
    positive bytes world = .error (.broken fault) after ↔ False := by
  simp only [positive, error_bind, broken_demand, error_pure, and_false, exists_false, or_false]

@[simp] theorem broken_demandSelfCall {call : Call} :
    demandSelfCall call world = .error (.broken fault) after ↔ False := by
  simp [demandSelfCall]

/-- Only what cannot be read from the ledger breaks a function. -/
theorem broken_stored {result : Except Token.Fault α} :
    Action.stored result world = .error (.broken fault) after ↔
      ∃ cause, result = .error cause ∧ fault = .tokenStorage cause ∧ after = world := by
  cases result with
  | ok value => simp [Action.stored]
  | error cause =>
    simp only [Action.stored, error_throw]
    simp

end Guards

section Unbroken

variable {world after : World} {fault : World.Fault} {account : Account}

private theorem unbroken_holding (intact : account.Every Intact) {token : Bytes} {nonce : UInt64} :
    Action.stored (account.holding? token nonce) world ≠ .error (.broken fault) after := by
  intro ran
  obtain ⟨cause, fails, -⟩ := broken_stored.1 ran
  obtain ⟨held, reads⟩ := intact.holding? token nonce
  rw [reads] at fails
  cases fails

private theorem unbroken_roles (intact : account.Every Intact) {token : Bytes} :
    Action.stored (account.roles token) world ≠ .error (.broken fault) after := by
  intro ran
  obtain ⟨cause, fails, -⟩ := broken_stored.1 ran
  obtain ⟨held, reads⟩ := intact.roles token
  rw [reads] at fails
  cases fails

private theorem unbroken_demandRole (intact : world.Every Intact) {holder token : Bytes} {role : Role} :
    demandRole holder token role world ≠ .error (.broken fault) after := by
  intro ran
  simp only [demandRole, get_bind] at ran
  cases found : world.account? holder with
  | none => simp [found] at ran
  | some account =>
    simp only [found, error_bind, broken_demand, and_false, exists_false, or_false] at ran
    obtain ⟨cause, fails, -⟩ := broken_stored.1 ran
    obtain ⟨held, reads⟩ := (intact holder account found).roles token
    rw [Account.hasRole, reads] at fails
    cases fails

private theorem unbroken_moveTokens {source destination token : Bytes} {nonce : UInt64} {value : Nat}
    (sound : world.Sound) :
    moveTokens source destination token nonce value world ≠ .error (.broken fault) after := by
  intro ran
  simp only [moveTokens, error_bind, get_bind, broken_demand, broken_need, broken_put, ok_demand,
    ok_need, ok_put, ok_stored, false_or, and_false, exists_false, or_false] at ran
  obtain ⟨_, _, ⟨-, rfl⟩, sender, _, ⟨found, rfl⟩, first | ⟨held, _, ⟨holds, rfl⟩, sent, _, ⟨rfl, rfl⟩,
    _, _, ⟨-, rfl⟩, _, _, ⟨-, rfl⟩, _, middle, taken, second⟩⟩ := ran
  · exact unbroken_holding (sound.intact source sender found) first
  · -- the sender was written in between, which leaves everything intact
    have between := taken ▸ intact_taken sound.intact value found holds
    exact unbroken_holding (between.accountOrBlank destination) second

private theorem unbroken_moveCurrency {source destination : Bytes} {value : Nat} :
    moveCurrency source destination value world ≠ .error (.broken fault) after := by
  intro ran
  simp only [moveCurrency, error_bind, get_bind, broken_demand, broken_need, ok_demand, ok_need,
    false_or] at ran
  obtain ⟨_, _, ⟨-, rfl⟩, sender, _, ⟨-, rfl⟩, ran⟩ := ran
  cases pays : sender.takeFromBalance value with
  | error cause => simp [pays] at ran
  | ok payer => simp [pays, error_bind, get_bind] at ran

private theorem unbroken_moveAny {source destination token : Bytes} {nonce : UInt64} {value : Nat}
    (sound : world.Sound) :
    moveAny source destination token nonce value world ≠ .error (.broken fault) after := by
  unfold moveAny
  split
  · exact unbroken_moveCurrency
  · exact unbroken_moveTokens sound

private theorem unbroken_movements {call : Call} {destination : Bytes}
    {listed : List (Bytes × Bytes × Bytes)} (sound : world.Sound) :
    movements call destination listed world ≠ .error (.broken fault) after := by
  -- Each movement leaves a sound ledger to the next one.
  induction listed generalizing world with
  | nil => simp [movements]
  | cons first rest ih =>
    obtain ⟨token, number, amount⟩ := first
    intro ran
    simp only [movements, error_bind, broken_positive, ok_positive, error_pure, and_false,
      exists_false, or_false, false_or] at ran
    obtain ⟨_, _, ⟨rfl, positive, rfl⟩, moving | ⟨_, middle, moved, others⟩⟩ := ran
    · exact unbroken_moveAny sound moving
    · exact ih ((ok_moveAny moved).sound positive sound) others

private theorem unbroken_burnFrom {holder token : Bytes} {nonce : UInt64} {value : Nat}
    (intact : world.Every Intact) :
    burnFrom holder token nonce value world ≠ .error (.broken fault) after := by
  intro ran
  simp only [burnFrom, error_bind, get_bind, broken_need, broken_demand, broken_put, ok_need,
    and_false, exists_false, or_false, false_or] at ran
  obtain ⟨account, _, ⟨found, rfl⟩, reading⟩ := ran
  exact unbroken_holding (intact holder account found) reading

private theorem unbroken_ownInstance {call : Call} {role : Role} (intact : world.Every Intact) :
    ownInstance call role world ≠ .error (.broken fault) after := by
  intro ran
  simp only [ownInstance, error_bind, broken_demandSelfCall, ok_demandSelfCall, false_or] at ran
  obtain ⟨_, _, ⟨-, rfl⟩, ran⟩ := ran
  rcases arguments : call.input.arguments with _ | ⟨_, _ | ⟨_, _ | ⟨_, _⟩⟩⟩ <;>
    simp only [arguments, broken_refuse] at ran
  simp only [error_bind, get_bind, ok_demandRole, broken_need, ok_need, error_pure, and_false,
    exists_false, or_false, false_or] at ran
  obtain checking | ⟨_, _, ⟨-, rfl⟩, account, _, ⟨found, rfl⟩, reading⟩ := ran
  · exact unbroken_demandRole intact checking
  · exact unbroken_holding (intact _ account found) reading

private theorem unbroken_changeRoles {change : List Bytes → Bytes → List Bytes} {call : Call}
    (intact : world.Every Intact) :
    changeRoles change call world ≠ .error (.broken fault) after := by
  intro ran
  simp only [changeRoles, error_bind, broken_demand, ok_demand, false_or] at ran
  obtain ⟨_, _, ⟨-, rfl⟩, ran⟩ := ran
  rcases arguments : call.input.arguments with _ | ⟨_, _ | ⟨_, _⟩⟩ <;>
    simp only [arguments, broken_refuse] at ran
  simp only [error_bind, get_bind, broken_put, error_pure, and_false, exists_false, or_false] at ran
  exact unbroken_roles (intact.accountOrBlank _) ran

private theorem unbroken_tokenTransfer {call : Call} (sound : world.Sound) :
    tokenTransfer call world ≠ .error (.broken fault) after := by
  intro ran
  unfold tokenTransfer at ran
  rcases arguments : call.input.arguments with _ | ⟨_, _ | ⟨_, _⟩⟩ <;>
    simp only [arguments, broken_refuse] at ran
  simp only [error_bind, broken_positive, ok_positive, error_pure, and_false, exists_false, or_false,
    false_or] at ran
  obtain ⟨_, _, ⟨-, -, rfl⟩, moving⟩ := ran
  exact unbroken_moveTokens sound moving

private theorem unbroken_instanceTransfer {call : Call} (sound : world.Sound) :
    instanceTransfer call world ≠ .error (.broken fault) after := by
  intro ran
  simp only [instanceTransfer, error_bind, broken_demandSelfCall, ok_demandSelfCall, false_or] at ran
  obtain ⟨_, _, ⟨-, rfl⟩, ran⟩ := ran
  rcases arguments : call.input.arguments with _ | ⟨_, _ | ⟨_, _ | ⟨_, _ | ⟨_, _⟩⟩⟩⟩ <;>
    simp only [arguments, broken_refuse] at ran
  simp only [error_bind, broken_demand, ok_demand, broken_positive, ok_positive, error_pure, and_false,
    exists_false, or_false, false_or] at ran
  obtain ⟨_, _, ⟨-, rfl⟩, _, _, ⟨-, -, rfl⟩, moving⟩ := ran
  exact unbroken_moveTokens sound moving

private theorem unbroken_multiTransfer {call : Call} (sound : world.Sound) :
    multiTransfer call world ≠ .error (.broken fault) after := by
  intro ran
  simp only [multiTransfer, error_bind, broken_demandSelfCall, ok_demandSelfCall, false_or] at ran
  obtain ⟨_, _, ⟨-, rfl⟩, ran⟩ := ran
  rcases arguments : call.input.arguments with _ | ⟨_, _ | ⟨_, _⟩⟩ <;>
    simp only [arguments, broken_refuse] at ran
  simp only [error_bind, broken_need, ok_need, error_pure, and_false, exists_false, or_false,
    false_or] at ran
  obtain ⟨_, _, ⟨-, rfl⟩, moving⟩ := ran
  exact unbroken_movements sound moving

private theorem unbroken_localMint {call : Call} (intact : world.Every Intact) :
    localMint call world ≠ .error (.broken fault) after := by
  intro ran
  simp only [localMint, error_bind, broken_demandSelfCall, ok_demandSelfCall, false_or] at ran
  obtain ⟨_, _, ⟨-, rfl⟩, ran⟩ := ran
  rcases arguments : call.input.arguments with _ | ⟨_, _ | ⟨_, _ | ⟨_, _⟩⟩⟩ <;>
    simp only [arguments, broken_refuse] at ran
  simp only [error_bind, get_bind, ok_demandRole, broken_positive, ok_positive, broken_put, error_pure,
    and_false, exists_false, or_false, false_or] at ran
  obtain checking | ⟨_, _, ⟨-, rfl⟩, _, _, ⟨-, -, rfl⟩, reading⟩ := ran
  · exact unbroken_demandRole intact checking
  · exact unbroken_holding (intact.accountOrBlank _) reading

private theorem unbroken_localBurn {call : Call} (intact : world.Every Intact) :
    localBurn call world ≠ .error (.broken fault) after := by
  intro ran
  simp only [localBurn, error_bind, broken_demandSelfCall, ok_demandSelfCall, false_or] at ran
  obtain ⟨_, _, ⟨-, rfl⟩, ran⟩ := ran
  rcases arguments : call.input.arguments with _ | ⟨_, _ | ⟨_, _ | ⟨_, _⟩⟩⟩ <;>
    simp only [arguments, broken_refuse] at ran
  simp only [error_bind, ok_demandRole, broken_positive, ok_positive, error_pure, and_false,
    exists_false, or_false, false_or] at ran
  obtain checking | ⟨_, _, ⟨-, rfl⟩, _, _, ⟨-, -, rfl⟩, burning⟩ := ran
  · exact unbroken_demandRole intact checking
  · exact unbroken_burnFrom intact burning

private theorem unbroken_create {call : Call} (intact : world.Every Intact) :
    create call world ≠ .error (.broken fault) after := by
  intro ran
  simp only [create, error_bind, broken_demandSelfCall, ok_demandSelfCall, false_or] at ran
  obtain ⟨_, _, ⟨-, rfl⟩, ran⟩ := ran
  rcases arguments : call.input.arguments with
    _ | ⟨_, _ | ⟨_, _ | ⟨_, _ | ⟨_, _ | ⟨_, _ | ⟨_, _ | ⟨_, _⟩⟩⟩⟩⟩⟩⟩ <;>
    simp only [arguments, broken_refuse] at ran
  -- the last nonce is read without a chance to fail
  simp only [error_bind, get_bind, ok_demandRole, broken_positive, broken_demand, broken_put, error_pure,
    and_false, exists_false, or_false] at ran
  exact unbroken_demandRole intact ran

private theorem unbroken_addQuantity {call : Call} (intact : world.Every Intact) :
    addQuantity call world ≠ .error (.broken fault) after := by
  intro ran
  simp only [addQuantity, setOwn, error_bind, get_bind, broken_positive, broken_put, error_pure,
    and_false, exists_false, or_false] at ran
  exact unbroken_ownInstance intact ran

private theorem unbroken_burn {call : Call} (intact : world.Every Intact) :
    burn call world ≠ .error (.broken fault) after := by
  intro ran
  simp only [burn, error_bind, broken_demandSelfCall, ok_demandSelfCall, false_or] at ran
  obtain ⟨_, _, ⟨-, rfl⟩, ran⟩ := ran
  rcases arguments : call.input.arguments with _ | ⟨_, _ | ⟨_, _ | ⟨_, _ | ⟨_, _⟩⟩⟩⟩ <;>
    simp only [arguments, broken_refuse] at ran
  simp only [error_bind, ok_demandRole, broken_positive, ok_positive, error_pure, and_false,
    exists_false, or_false, false_or] at ran
  obtain checking | ⟨_, _, ⟨-, rfl⟩, _, _, ⟨-, -, rfl⟩, burning⟩ := ran
  · exact unbroken_demandRole intact checking
  · exact unbroken_burnFrom intact burning

private theorem unbroken_addUris {call : Call} (intact : world.Every Intact) :
    addUris call world ≠ .error (.broken fault) after := by
  intro ran
  simp only [addUris, setOwn, error_bind, get_bind, broken_need, broken_put, error_pure, and_false,
    exists_false, or_false] at ran
  exact unbroken_ownInstance intact ran

private theorem unbroken_updateAttributes {call : Call} (intact : world.Every Intact) :
    updateAttributes call world ≠ .error (.broken fault) after := by
  intro ran
  simp only [updateAttributes, setOwn, error_bind, get_bind, broken_need, broken_put, error_pure,
    and_false, exists_false, or_false] at ran
  exact unbroken_ownInstance intact ran

/-- Functions on accounts read nothing that could be broken. -/
private theorem unbroken_ownContract {call : Call} :
    ownContract call world ≠ .error (.broken fault) after := by
  simp only [ownContract, ne_eq, error_bind, get_bind, broken_demand, broken_need, error_pure, and_false,
    exists_false, or_false, not_false_eq_true]

private theorem unbroken_changeOwner {call : Call} :
    changeOwner call world ≠ .error (.broken fault) after := by
  intro ran
  unfold changeOwner at ran
  rcases arguments : call.input.arguments with _ | ⟨_, _ | ⟨_, _⟩⟩ <;>
    simp only [arguments, broken_refuse] at ran
  simp only [error_bind, broken_demand, broken_put, error_pure, and_false, exists_false, or_false,
    false_or] at ran
  obtain ⟨_, _, -, owning⟩ := ran
  exact unbroken_ownContract owning

private theorem unbroken_claimRewards {call : Call} :
    claimRewards call world ≠ .error (.broken fault) after := by
  intro ran
  unfold claimRewards at ran
  rcases arguments : call.input.arguments with _ | ⟨_, _⟩ <;>
    simp only [arguments, broken_refuse] at ran
  simp only [error_bind, get_bind, broken_put, error_pure, and_false, exists_false, or_false] at ran
  exact unbroken_ownContract ran

private theorem unbroken_setUsername {call : Call} :
    setUsername call world ≠ .error (.broken fault) after := by
  intro ran
  unfold setUsername at ran
  rcases arguments : call.input.arguments with _ | ⟨_, _ | ⟨_, _⟩⟩ <;>
    simp only [arguments, broken_refuse] at ran
  simp only [error_bind, get_bind, broken_demand, broken_put, error_pure, and_false, exists_false,
    or_false] at ran

private theorem unbroken_saveKeyValue {call : Call} :
    saveKeyValue call world ≠ .error (.broken fault) after := by
  simp only [saveKeyValue, ne_eq, error_bind, get_bind, broken_demand, broken_need, broken_put,
    error_pure, and_false, exists_false, or_false, not_false_eq_true]

/-- No built-in function finds a sound ledger broken. -/
theorem unbroken_action (sound : world.Sound) (function : Function) (call : Call) :
    function.action call world ≠ .error (.broken fault) after := by
  cases function with
  | tokenTransfer => exact unbroken_tokenTransfer sound
  | instanceTransfer => exact unbroken_instanceTransfer sound
  | multiTransfer => exact unbroken_multiTransfer sound
  | localMint => exact unbroken_localMint sound.intact
  | localBurn => exact unbroken_localBurn sound.intact
  | create => exact unbroken_create sound.intact
  | addQuantity => exact unbroken_addQuantity sound.intact
  | burn => exact unbroken_burn sound.intact
  | addUris => exact unbroken_addUris sound.intact
  | updateAttributes => exact unbroken_updateAttributes sound.intact
  | setRoles => exact unbroken_changeRoles sound.intact
  | unsetRoles => exact unbroken_changeRoles sound.intact
  | changeOwner => exact unbroken_changeOwner
  | claimRewards => exact unbroken_claimRewards
  | setUsername => exact unbroken_setUsername
  | saveKeyValue => exact unbroken_saveKeyValue

/-- A call by name on a sound ledger ends without a fault of the token storage. -/
theorem run_unbroken (sound : world.Sound) (call : Call) (cause : Token.Fault) :
    run call world ≠ .error (.tokenStorage cause) after := by
  intro ran
  rcases run_cases call world with ⟨fault, other, ends⟩ | ends | ⟨function, gasLeft, -, ends⟩
  · rw [ran] at ends
    cases ends
    exact other cause rfl
  · rw [ran] at ends
    cases ends
  · rw [ran, settle] at ends
    split at ends
    · cases ends
    · cases ends
    · rename_i broken
      cases ends
      exact unbroken_action sound function call broken

end Unbroken
end Builtin
end ChainScenario
