import ChainScenario.Proofs.BuiltinEffects
import ChainScenario.Proofs.BuiltinRefusals
import ChainScenario.Proofs.Slots

/-!
# Supplies of tokens

The supply of a slot is the sum of the amounts that all accounts have in it. Main statement:
`run_supply`, a call of a built-in function other than the creation of an instance changes the supply
of the slot that it names by the amount that it gives or takes, and no other supply.
-/
namespace ChainScenario

open Token

/-- A holding with another amount fits if the amount does. -/
theorem Token.Holding.Fits.withValue {holding : Holding} (fits : holding.Fits) {value : Nat}
    (small : (Bytes.ofNat value).length < UInt64.size) : { holding with value := value }.Fits :=
  ⟨small, fits.properties, fits.metadata⟩

/-- Less of a holding takes no more bytes. -/
theorem Token.Holding.Fits.less {holding : Holding} (fits : holding.Fits) {value : Nat}
    (fewer : value ≤ holding.value) : { holding with value := value }.Fits :=
  fits.withValue (Nat.lt_of_le_of_lt (Bytes.length_ofNat_mono fewer) fits.value)

/-! ## The supply of a slot -/

namespace World

/-- The sum of the amounts in a slot over all accounts. -/
def supply (world : World) (slot : Bytes) : Nat := world.sum (·.amountIn slot)

theorem supply_setAccount (world : World) (address : Bytes) (account : Account) (slot : Bytes) :
    (world.setAccount address account).supply slot + (world.accountOrBlank address).amountIn slot =
      world.supply slot + account.amountIn slot :=
  world.sum_setAccount address account rfl

/-- A write that leaves what is stored in a slot leaves its supply. -/
theorem supply_setAccount_of_stored {world : World} {address : Bytes} {account : Account}
    {slot : Bytes} (same : account.stored slot = (world.accountOrBlank address).stored slot) :
    (world.setAccount address account).supply slot = world.supply slot :=
  world.sum_setAccount_same address account rfl (Account.amountIn_of_stored same)

theorem amountIn_le_supply (world : World) (address slot : Bytes) :
    (world.accountOrBlank address).amountIn slot ≤ world.supply slot := by
  cases found : world.account? address with
  | none =>
    rw [accountOrBlank_of_missing found, Account.amountIn_blank]
    exact Nat.zero_le _
  | some account =>
    rw [accountOrBlank_of_account? found]
    exact le_sum (·.amountIn slot) found

section Holdings

variable {world : World} {address token : Bytes} {nonce : UInt64} {held : Option Holding}
  {holding : Holding}

private theorem supply_write {account : Account} {key : Bytes} {amount : Nat}
    (writes : ∀ slot, account.amountIn slot =
      if slot = key then amount else (world.accountOrBlank address).amountIn slot) (slot : Bytes) :
    (world.setAccount address account).supply slot +
        (if slot = key then (world.accountOrBlank address).amountIn key else 0) =
      world.supply slot + if slot = key then amount else 0 := by
  have write := world.supply_setAccount address account slot
  rw [writes slot] at write
  split at write
  · rename_i here
    rw [if_pos here, if_pos here]
    rw [here] at write ⊢
    exact write
  · rename_i elsewhere
    rw [if_neg elsewhere, if_neg elsewhere]
    omega

/-- A holding that is set counts in its slot instead of the one before. -/
theorem supply_setHolding
    (holds : (world.accountOrBlank address).holding? token nonce = .ok held) (fits : holding.Fits)
    (slot : Bytes) :
    (world.setAccount address
        ((world.accountOrBlank address).setHolding token nonce holding)).supply slot +
        (if slot = holdingKey token nonce then held.elim 0 (·.value) else 0) =
      world.supply slot + if slot = holdingKey token nonce then holding.value else 0 := by
  rw [← Account.amountIn_of_holding? holds]
  exact supply_write (Account.amountIn_setHolding _ token nonce fits) slot

/-- An amount that is taken from a holding is missing in its slot. -/
theorem supply_taken {account : Account} {value : Nat} (found : world.account? address = some account)
    (holds : account.holding? token nonce = .ok (some holding)) (enough : value ≤ holding.value)
    (slot : Bytes) :
    (world.setAccount address (account.saveHolding token nonce
        { holding with value := holding.value - value })).supply slot +
        (if slot = holdingKey token nonce then value else 0) = world.supply slot := by
  -- What was read can be written, and so can less of it.
  have kept := (Account.fits_of_holding? holds).less (Nat.sub_le holding.value value)
  have amount := Account.amountIn_of_holding? holds
  rw [← accountOrBlank_of_account? found] at amount ⊢
  have write := supply_write
    (Account.amountIn_saveHolding (world.accountOrBlank address) token nonce kept) slot
  rw [amount, Option.elim_some] at write
  split at write
  · rename_i here
    rw [if_pos here]
    dsimp only at write
    omega
  · rename_i elsewhere
    rw [if_neg elsewhere]
    exact write

end Holdings
end World

/-! ## Sizes in memory -/

/-- Byte strings and lists in memory are shorter than this. -/
def memory : Nat := UInt64.size / 2

/-- A ledger and the arguments of a call are kept in memory. -/
structure InMemory (call : Call) (world : World) : Prop where
  accounts : world.accounts.size < memory
  stored : ∀ account ∈ world.accounts.values, ∀ value ∈ account.storage.values,
    value.length < memory
  arguments : call.input.arguments.length < memory
  argument : ∀ argument ∈ call.input.arguments, argument.length < memory

/-- A ledger is kept in memory. -/
structure World.Bounded (world : World) : Prop where
  accounts : world.accounts.size < memory
  stored : ∀ account ∈ world.accounts.values, ∀ value ∈ account.storage.values,
    value.length < memory

instance (world : World) : Decidable world.Bounded :=
  decidable_of_iff (world.accounts.size < memory ∧ ∀ account ∈ world.accounts.values,
      ∀ value ∈ account.storage.values, value.length < memory)
    ⟨fun both => ⟨both.1, both.2⟩, fun bounded => ⟨bounded.accounts, bounded.stored⟩⟩

namespace World.Bounded

variable {world : World}

theorem stored_lt (bounded : world.Bounded) {account : Account}
    (member : account ∈ world.accounts.values) (key : Bytes) :
    (account.stored key).length < memory := by
  cases kept : account.storage.get? key with
  | none =>
    rw [Account.stored_of_missing kept]
    exact (by decide : 0 < memory)
  | some value =>
    rw [Account.stored_of_get? kept]
    exact bounded.stored account member value (OrdMap.mem_values_of_get? kept)

private theorem amountOf_lt {stored : Bytes} (short : stored.length < memory) :
    amountOf stored < Bytes.capacity memory := by
  unfold amountOf readAll
  split
  · rename_i holding same
    split at same
    · cases same
    · rename_i read
      cases same
      exact Nat.lt_of_lt_of_le (fits_of_holding read).2.1 (Bytes.capacity_mono (Nat.le_of_lt short))
    · cases same
  · exact Bytes.capacity_pos memory

private theorem total_lt_capacity {total count width : Nat} (few : count < Bytes.capacity 8)
    (small : total ≤ count * Bytes.capacity width) : total < Bytes.capacity (width + 8) := by
  rw [Bytes.capacity_add, Nat.mul_comm]
  exact Nat.lt_of_le_of_lt small (Nat.mul_lt_mul_of_pos_right few (Bytes.capacity_pos width))

/-- No supply is greater than the accounts can hold together. -/
theorem supply_lt (bounded : world.Bounded) (slot : Bytes) :
    world.supply slot < Bytes.capacity (memory + 8) := by
  -- Each account holds less than its bytes allow, and there are not too many accounts.
  have each : ∀ account ∈ world.accounts.values,
      account.amountIn slot ≤ Bytes.capacity memory := by
    intro account member
    exact Nat.le_of_lt (amountOf_lt (bounded.stored_lt member slot))
  have few : memory ≤ Bytes.capacity 8 := by decide
  exact total_lt_capacity (Nat.lt_of_lt_of_le bounded.accounts few) (OrdMap.total_le each)

/-- A supply can be written as an amount. -/
theorem supply_small (bounded : world.Bounded) (slot : Bytes) :
    (Bytes.ofNat (world.supply slot)).length < UInt64.size :=
  Nat.lt_of_le_of_lt (Bytes.length_ofNat_le (bounded.supply_lt slot)) (by decide)

end World.Bounded

namespace InMemory

variable {call : Call} {world : World}

theorem bounded (inMemory : InMemory call world) : world.Bounded :=
  ⟨inMemory.accounts, inMemory.stored⟩

theorem supply_small (inMemory : InMemory call world) (slot : Bytes) :
    (Bytes.ofNat (world.supply slot)).length < UInt64.size :=
  inMemory.bounded.supply_small slot

/-- A supply can be written as an amount even when an argument is added to it. -/
theorem added_small (inMemory : InMemory call world) (slot : Bytes) {amount : Bytes}
    (given : amount ∈ call.input.arguments) :
    (Bytes.ofNat (world.supply slot + Bytes.toNat amount)).length < UInt64.size := by
  have short := Nat.le_of_lt (Nat.lt_add_right 8 (inMemory.argument amount given))
  have added := Nat.lt_of_lt_of_le (Bytes.toNat_lt amount) (Bytes.capacity_mono short)
  have below := Bytes.add_lt_capacity (inMemory.bounded.supply_lt slot) added
  exact Nat.lt_of_le_of_lt (Bytes.length_ofNat_le below) (by decide)

end InMemory

/-! ## Movements -/

namespace Builtin

open World

section Movements

variable {source destination token : Bytes} {nonce : UInt64} {value : Nat} {world after : World}

theorem fits_received {sent : Holding} {held : Option Holding} (sends : sent.Fits)
    (holds : ∀ holding, held = some holding → holding.Fits)
    (small : (Bytes.ofNat (held.elim 0 (·.value) + value)).length < UInt64.size) :
    (received sent value held).Fits := by
  cases held with
  | none =>
    rw [Option.elim_none, Nat.zero_add] at small
    exact ⟨small, Nat.zero_lt_succ _, sends.metadata⟩
  | some holding => exact (holds holding rfl).withValue small

theorem value_received (sent : Holding) (value : Nat) (held : Option Holding) :
    (received sent value held).value = held.elim 0 (·.value) + value := by
  cases held with
  | none => exact (Nat.zero_add value).symm
  | some holding => rfl

/-- What the receiver holds in between and what it gets are both part of the supply from before, so that
they can be written together. -/
theorem fits_moved {sender : Account} {sent : Holding} {held : Option Holding}
    (found : world.account? source = some sender)
    (holds : sender.holding? token nonce = .ok (some sent)) (enough : value ≤ sent.value)
    (reads : ((world.setAccount source (sender.saveHolding token nonce
      { sent with value := sent.value - value })).accountOrBlank destination).holding? token nonce =
        .ok held)
    (small : (Bytes.ofNat (world.supply (holdingKey token nonce))).length < UInt64.size) :
    (received sent value held).Fits := by
  have between := supply_taken found holds enough (holdingKey token nonce)
  rw [if_pos rfl] at between
  have amount := Account.amountIn_of_holding? reads
  have bound := amountIn_le_supply (world.setAccount source (sender.saveHolding token nonce
    { sent with value := sent.value - value })) destination (holdingKey token nonce)
  have part : held.elim 0 (·.value) + value ≤ world.supply (holdingKey token nonce) := by
    omega
  apply fits_received (Account.fits_of_holding? holds)
  · intro holding same
    exact Account.fits_of_holding? (same ▸ reads)
  · exact Nat.lt_of_le_of_lt (Bytes.length_ofNat_mono part) small

/-- A movement of tokens leaves every supply, also between an account and itself. -/
theorem TokensMoved.supply_eq (moved : TokensMoved source destination token nonce value world after)
    (small : (Bytes.ofNat (world.supply (holdingKey token nonce))).length < UInt64.size)
    (slot : Bytes) : after.supply slot = world.supply slot := by
  obtain ⟨-, found, holds, enough, -, rfl, reads⟩ := moved
  -- First the amount is missing in its slot, then the receiver gets it.
  have between := supply_taken found holds enough slot
  have second := supply_setHolding reads (fits_moved found holds enough reads small) slot
  rw [value_received] at second
  split at second
  · rename_i here
    rw [if_pos here] at between
    omega
  · rename_i elsewhere
    rw [if_neg elsewhere] at between
    omega

/-- A movement of currency leaves every supply of tokens. -/
theorem CurrencyMoved.supply_eq (moved : CurrencyMoved source destination value world after)
    (slot : Bytes) : after.supply slot = world.supply slot := by
  obtain ⟨-, found, pays, taken⟩ := moved
  rename_i sender payer middle
  have kept := Account.storage_takeFromBalance pays
  have first : middle.supply slot = world.supply slot := by
    rw [taken]
    apply supply_setAccount_of_stored
    rw [accountOrBlank_of_account? found, Account.stored, Account.stored, kept]
  rw [← first]
  exact supply_setAccount_of_stored rfl

theorem AnyMoved.supply_eq (moved : AnyMoved source destination token nonce value world after)
    (small : ∀ slot, (Bytes.ofNat (world.supply slot)).length < UInt64.size) (slot : Bytes) :
    after.supply slot = world.supply slot := by
  cases moved with
  | currency _ moved => exact moved.supply_eq slot
  | tokens _ moved => exact moved.supply_eq (small _) slot

/-- Movements one after another leave every supply. -/
theorem AllMoved.supply_eq {listed : List (Bytes × Bytes × Bytes)}
    (moved : AllMoved source destination listed world after)
    (small : ∀ slot, (Bytes.ofNat (world.supply slot)).length < UInt64.size) (slot : Bytes) :
    after.supply slot = world.supply slot := by
  induction moved with
  | none => rfl
  | more _ first _ ih =>
    have step := first.supply_eq small
    -- the bound on the supplies is carried along, since no movement changes them
    rw [ih fun slot => by rw [step slot]; exact small slot, step slot]

/-- What is burned is missing in its slot. -/
theorem Burned.supply_eq {holder : Bytes} (burned : Burned holder token nonce value world after)
    (slot : Bytes) :
    after.supply slot + (if slot = holdingKey token nonce then value else 0) =
      world.supply slot := by
  obtain ⟨found, holds, enough⟩ := burned
  exact supply_taken found holds enough slot

end Movements

/-! ## Built-in functions -/

/-- What a successful call adds to the supply of a slot. -/
def Function.supplyChange : Function → List Bytes → Bytes → Int
  | localMint, [token, amount], slot =>
    if slot = holdingKey token 0 then Bytes.toNat amount else 0
  | localBurn, [token, amount], slot =>
    if slot = holdingKey token 0 then -(Bytes.toNat amount) else 0
  | addQuantity, token :: number :: amount :: _, slot =>
    if slot = holdingKey token (nonceOfBytes number) then Bytes.toNat amount else 0
  | burn, [token, number, amount], slot =>
    if slot = holdingKey token (nonceOfBytes number) then -(Bytes.toNat amount) else 0
  | _, _, _ => 0

theorem slot_ne_rolesKey {slot : Bytes} (marked : holdingMark <+: slot) (token : Bytes) :
    slot ≠ rolesKey token :=
  fun same => unheld_rolesKey token (same ▸ marked)

theorem slot_ne_lastNonceKey {slot : Bytes} (marked : holdingMark <+: slot) (token : Bytes) :
    slot ≠ lastNonceKey token :=
  fun same => unheld_lastNonceKey token (same ▸ marked)

theorem slot_ne_of_unprotected {slot key : Bytes} (marked : holdingMark <+: slot)
    (free : Address.isProtected key = false) : slot ≠ key :=
  fun same => unmarked_of_unprotected free (by decide) (same ▸ marked)

section Effects

variable {call : Call} {world after : World} {slot : Bytes}

theorem RolesChanged.supply_eq {change : List Bytes → Bytes → List Bytes}
    (changed : RolesChanged change call world after) (marked : holdingMark <+: slot) :
    after.supply slot = world.supply slot := by
  obtain ⟨-, -, -⟩ := changed
  exact supply_setAccount_of_stored (Account.stored_setRoles _ _ _ (slot_ne_rolesKey marked _))

/-- A holding whose amount stays leaves every supply. -/
theorem supply_described {address token : Bytes} {nonce : UInt64} {account : Account}
    {held holding : Holding} (found : world.account? address = some account)
    (holds : account.holding? token nonce = .ok (some held)) (fits : holding.Fits)
    (same : holding.value = held.value) :
    (world.setAccount address (account.setHolding token nonce holding)).supply slot =
      world.supply slot := by
  rw [← accountOrBlank_of_account? found] at holds ⊢
  have write := supply_setHolding holds fits slot
  rw [Option.elim_some, same] at write
  omega

/-- A holding whose amount grows by an argument adds it to the supply of its slot. -/
theorem supply_added {token amount : Bytes} {nonce : UInt64} {held : Option Holding}
    {holding : Holding} (inMemory : InMemory call world) (given : amount ∈ call.input.arguments)
    {address : Bytes}
    (holds : (world.accountOrBlank address).holding? token nonce = .ok held)
    (fits : holding.Fits) (same : holding.value = held.elim 0 (·.value)) :
    ((world.setAccount address ((world.accountOrBlank address).setHolding token nonce
        { holding with value := holding.value + Bytes.toNat amount })).supply slot : Int) =
      world.supply slot +
        if slot = holdingKey token nonce then (Bytes.toNat amount : Int) else 0 := by
  have part : holding.value ≤ world.supply (holdingKey token nonce) := by
    rw [same, ← Account.amountIn_of_holding? holds]
    exact world.amountIn_le_supply address _
  have small := Nat.lt_of_le_of_lt
    (Bytes.length_ofNat_mono (Nat.add_le_add_right part (Bytes.toNat amount)))
    (inMemory.added_small (holdingKey token nonce) given)
  have write := supply_setHolding holds (fits.withValue small) slot
  rw [← same] at write
  dsimp only at write
  split at write
  · rename_i here
    rw [if_pos here]
    omega
  · rename_i elsewhere
    rw [if_neg elsewhere]
    omega

theorem fits_minted {account : Account} {token : Bytes} {held : Option Holding}
    (holds : account.holding? token 0 = .ok held) : (held.getD (.fungible 0)).Fits := by
  cases held with
  | none =>
    constructor
    · simp [Holding.fungible, Bytes.ofNat]
    · simp [Holding.fungible]
    · simp [Holding.fungible]
  | some held => exact Account.fits_of_holding? holds

theorem fits_addUris {token number uri : Bytes} {uris : List Bytes} {account : Account}
    {held : Holding} {metadata : Metadata} (inMemory : InMemory call world)
    (own : OwnInstance call .addUri world token number uri uris account held)
    (described : held.metadata = some metadata) :
    ({ held with metadata := some { metadata with uris := metadata.uris ++ uri :: uris } } :
      Holding).Fits := by
  have fits := Account.fits_of_holding? own.holds
  have before := fits.metadata metadata described
  have room : memory + memory = UInt64.size := rfl
  -- The addresses read and those that are added are each fewer than memory can hold.
  refine ⟨fits.value, fits.properties, ?_⟩
  rintro _ ⟨⟩
  refine ⟨before.name, before.creator, before.hash, ?_, ?_, before.attributes⟩
  · have few := (fits_of_holding (Account.read_of_holding?_some own.holds)).2.2 metadata described
    have short := inMemory.bounded.stored_lt (OrdMap.mem_values_of_get? own.found)
      (holdingKey token (nonceOfBytes number))
    have arguments := inMemory.arguments
    rw [own.arguments] at arguments
    simp only [List.length_cons, List.length_append] at arguments ⊢
    omega
  · intro other member
    rcases List.mem_append.1 member with old | new
    · exact before.uri other old
    · have given := inMemory.argument other (by
        rw [own.arguments]
        exact List.mem_cons_of_mem _ (List.mem_cons_of_mem _ new))
      omega

theorem fits_updateAttributes {token number attributes : Bytes} {rest : List Bytes}
    {account : Account} {held : Holding} {metadata : Metadata} (inMemory : InMemory call world)
    (own : OwnInstance call .updateAttributes world token number attributes rest account held)
    (described : held.metadata = some metadata) :
    ({ held with metadata := some { metadata with attributes := attributes } } : Holding).Fits := by
  have fits := Account.fits_of_holding? own.holds
  have before := fits.metadata metadata described
  have room : memory + memory = UInt64.size := rfl
  have given := inMemory.argument attributes (by simp [own.arguments])
  refine ⟨fits.value, fits.properties, ?_⟩
  rintro _ ⟨⟩
  exact ⟨before.name, before.creator, before.hash, before.uris, before.uri, by dsimp only; omega⟩

/-- What is burned is taken from the supply of its slot. -/
theorem Burned.supplyChange_eq {holder token : Bytes} {nonce : UInt64} {value : Nat}
    (burned : Burned holder token nonce value world after) :
    (after.supply slot : Int) =
      world.supply slot + if slot = holdingKey token nonce then -(value : Int) else 0 := by
  have missing := burned.supply_eq slot
  split at missing
  · rename_i here
    rw [if_pos here]
    omega
  · rename_i elsewhere
    rw [if_neg elsewhere]
    omega

/-- What a successful call does to the supply of a slot, whatever function but the creation it calls. -/
theorem Effect.supply_eq {function : Function} (effect : Effect call world function after)
    (inMemory : InMemory call world) (other : function ≠ .create) (marked : holdingMark <+: slot) :
    (after.supply slot : Int) =
      world.supply slot + function.supplyChange call.input.arguments slot := by
  cases effect with
  | tokenTransfer _ _ moved =>
    rw [moved.supply_eq (inMemory.supply_small _)]
    exact (Int.add_zero _).symm
  | instanceTransfer _ _ _ _ moved =>
    rw [moved.supply_eq (inMemory.supply_small _)]
    exact (Int.add_zero _).symm
  | multiTransfer _ _ _ moved =>
    rw [moved.supply_eq inMemory.supply_small]
    exact (Int.add_zero _).symm
  | @localMint token amount held account _ arguments _ _ found holds =>
    subst found
    have same : (held.getD (.fungible 0)).value = held.elim 0 (·.value) := by cases held <;> rfl
    rw [supply_added inMemory (by simp [arguments]) holds (fits_minted holds) same, arguments]
    rfl
  | localBurn _ arguments _ _ burned =>
    rw [burned.supplyChange_eq, arguments]
    rfl
  | create => contradiction
  | @addQuantity token number amount rest account held own _ =>
    have holds := own.holds
    rw [← accountOrBlank_of_account? own.found] at holds ⊢
    rw [supply_added inMemory (by simp [own.arguments]) holds (Account.fits_of_holding? holds) rfl,
      own.arguments]
    rfl
  | burn _ arguments _ _ burned =>
    rw [burned.supplyChange_eq, arguments]
    rfl
  | addUris own described =>
    rw [supply_described own.found own.holds (fits_addUris inMemory own described) rfl]
    exact (Int.add_zero _).symm
  | updateAttributes own described =>
    rw [supply_described own.found own.holds (fits_updateAttributes inMemory own described) rfl]
    exact (Int.add_zero _).symm
  | setRoles changed =>
    rw [changed.supply_eq marked]
    exact (Int.add_zero _).symm
  | unsetRoles changed =>
    rw [changed.supply_eq marked]
    exact (Int.add_zero _).symm
  | changeOwner _ _ own =>
    rw [supply_setAccount_of_stored (by rw [accountOrBlank_of_account? own.found]; rfl)]
    exact (Int.add_zero _).symm
  | claimRewards _ own taken =>
    rw [supply_setAccount_of_stored (by rfl), taken,
      supply_setAccount_of_stored (by rw [accountOrBlank_of_account? own.found]; rfl)]
    exact (Int.add_zero _).symm
  | setUsername _ _ found _ =>
    rw [supply_setAccount_of_stored (by rw [found]; rfl)]
    exact (Int.add_zero _).symm
  | @saveKeyValue entries _ _ _ allowed found =>
    have other : ∀ entry ∈ entries, slot ≠ entry.1 := fun entry member =>
      slot_ne_of_unprotected marked (allowed entry member)
    rw [supply_setAccount_of_stored (by rw [Account.stored_saveAll other, found])]
    exact (Int.add_zero _).symm

end Effects

/-- Every call of a built-in function but the creation of an instance changes the supply of each slot
by what its function says if it ends well, and not at all otherwise. -/
theorem run_supply {call : Call} {world after : World} {output : CallOutput} {function : Function}
    (inMemory : InMemory call world) (named : Function.ofName? call.function = some function)
    (other : function ≠ .create) (ran : run call world = .ok output after) {slot : Bytes}
    (marked : holdingMark <+: slot) :
    (after.supply slot : Int) = world.supply slot +
      if output.succeeded then function.supplyChange call.input.arguments slot else 0 := by
  cases ran_of_ok ran with
  | outOfGas => exact (Int.add_zero _).symm
  | @refused called refusal _ calls refuses =>
    obtain rfl : called = function := Option.some.inj (calls.symm.trans named)
    -- only a transfer of several amounts can be refused after it wrote something
    have kept : after.supply slot = world.supply slot := by
      by_cases multi : called = .multiTransfer
      · subst multi
        obtain ⟨_, _, moved⟩ := refused_multiTransfer refuses
        exact moved.supply_eq inMemory.supply_small slot
      · rw [refusesCleanly_action multi call world refusal after refuses]
    rw [kept]
    exact (Int.add_zero _).symm
  | @ok called result _ _ calls effect plain =>
    obtain rfl : called = function := Option.some.inj (calls.symm.trans named)
    change _ = _ + if result.succeeded then _ else _
    rw [if_pos plain.output_succeeded]
    exact effect.supply_eq inMemory other marked

/-- An account with three of a token that it may make more of. -/
def minter : Account :=
  { Account.blank (List.replicate Address.length 1) with
    storage := .ofList [(holdingKey (Utf8.ofString "TOKEN-123456") 0, [0, 1, 3, 0, 0]),
      (rolesKey (Utf8.ofString "TOKEN-123456"), [1, 17] ++ Utf8.ofString "ESDTRoleLocalMint")] }

/-- The call by which it makes five more. -/
def mintCall : Call where
  input := ⟨minter.address, [Utf8.ofString "TOKEN-123456", [5]], 0, 0, 0, [], [], []⟩
  recipient := minter.address
  function := "ESDTLocalMint"

/-- Three and five are eight. -/
theorem run_supply_mint :
    match run mintCall (.alone minter) with
    | .ok output after =>
      output.succeeded ∧ after.supply (holdingKey (Utf8.ofString "TOKEN-123456") 0) = 8
    | .error _ _ => False := by
  have inMemory : InMemory mintCall (.alone minter) :=
    ⟨by decide +kernel, by decide +kernel, by decide +kernel, by decide +kernel⟩
  have before : (World.alone minter).supply (holdingKey (Utf8.ofString "TOKEN-123456") 0) = 3 := by
    decide +kernel
  have change : Function.localMint.supplyChange mintCall.input.arguments
      (holdingKey (Utf8.ofString "TOKEN-123456") 0) = 5 := by decide +kernel
  have ends : (match run mintCall (.alone minter) with
      | .ok output _ => output.succeeded
      | .error _ _ => false) = true := by decide +kernel
  cases ran : run mintCall (.alone minter) with
  | error fault after => simp [ran] at ends
  | ok output after =>
    simp only [ran] at ends
    have named : Function.ofName? mintCall.function = some .localMint := by decide +kernel
    have law := run_supply inMemory named (by decide) ran
      (marked_holdingKey (Utf8.ofString "TOKEN-123456") 0)
    rw [before, if_pos ends, change] at law
    exact ⟨ends, by omega⟩

end Builtin
end ChainScenario
