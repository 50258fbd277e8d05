import ChainScenario.Proofs.Reachable
import ChainScenario.Proofs.Supply

/-!
# Creating instances

An instance is created under the next number of its creator, and replaces whatever the creator held
under that number, which may have come from another creator. Main statement: `run_create`, the supply
of the created slot rises by the quantity less what was held there, and no other supply changes.
-/
namespace ChainScenario

open Token

namespace Builtin

open World

/-! ## The creation of an instance -/

section Created

variable {world : World} {address token slot : Bytes} {nonce : UInt64} {holding : Holding}

/-- The holding under the new number and the number itself are all that is written. -/
theorem supply_created_elsewhere (marked : holdingMark <+: slot)
    (other : slot ≠ holdingKey token nonce) :
    (world.setAccount address (((world.accountOrBlank address).setHolding token nonce
        holding).setLastNonce token nonce)).supply slot = world.supply slot := by
  apply supply_setAccount_of_stored
  rw [Account.stored_setLastNonce _ _ _ (slot_ne_lastNonceKey marked token), Account.setHolding,
    Account.stored_put, if_neg other]

/-- What is created counts in its slot instead of what was held there. -/
theorem supply_created (fits : holding.Fits) (marked : holdingMark <+: slot) :
    (world.setAccount address (((world.accountOrBlank address).setHolding token nonce
        holding).setLastNonce token nonce)).supply slot +
        (if slot = holdingKey token nonce then (world.accountOrBlank address).amountIn slot else 0) =
      world.supply slot + if slot = holdingKey token nonce then holding.value else 0 := by
  by_cases here : slot = holdingKey token nonce
  · have write := world.supply_setAccount address (((world.accountOrBlank address).setHolding token
      nonce holding).setLastNonce token nonce) slot
    rw [Account.amountIn_of_stored (Account.stored_setLastNonce _ _ _
      (slot_ne_lastNonceKey marked token)), Account.amountIn_setHolding _ _ _ fits,
      if_pos here] at write
    rwa [if_pos here, if_pos here]
  · rw [if_neg here, if_neg here, supply_created_elsewhere marked here]

end Created

section Run

variable {call : Call} {world after : World} {output : CallOutput}

/-- The slot of the instance that a call created: its token is named first, its number is returned. -/
def createdSlot (call : Call) (output : CallOutput) : Bytes :=
  holdingKey (call.input.arguments.headD []) (nonceOfBytes (output.returnData.headD []))

/-- How much of an instance a call creates. -/
def createdQuantity (call : Call) : Nat := Bytes.toNat (call.input.arguments.getD 1 [])

/-- The number of a created instance is returned. -/
theorem returned_create (ran : create call world = .ok output after) :
    output.returnData = [nonceBytes ((world.accountOrBlank call.input.caller).lastNonce
      (call.input.arguments.headD []) + 1)] := by
  simp only [create, ok_bind, ok_demandSelfCall] at ran
  obtain ⟨_, _, ⟨-, rfl⟩, ran⟩ := ran
  rcases arguments : call.input.arguments with
    _ | ⟨_, _ | ⟨_, _ | ⟨_, _ | ⟨_, _ | ⟨_, _ | ⟨_, _ | ⟨_, _⟩⟩⟩⟩⟩⟩⟩ <;>
    simp only [arguments, ok_refuse] at ran
  simp only [ok_bind, ok_demandRole, ok_positive, ok_demand, get_bind, ok_put, ok_pure] at ran
  obtain ⟨_, _, ⟨-, rfl⟩, _, _, ⟨-, -, rfl⟩, _, _, ⟨-, rfl⟩, _, _, ⟨-, rfl⟩, _, _, -, rfl, -⟩ := ran
  rfl

/-- What a call in memory describes can be written. -/
theorem fits_created {token amount name share hash attributes : Bytes} {uris : List Bytes}
    {nonce : UInt64} {royalties : UInt32} (inMemory : InMemory call world)
    (addressed : call.input.caller.length < memory)
    (arguments : call.input.arguments =
      token :: amount :: name :: share :: hash :: attributes :: uris) :
    (⟨.nonFungible, Bytes.toNat amount, [],
      some ⟨nonce, name, call.input.caller, royalties, hash, uris, attributes⟩⟩ : Holding).Fits := by
  have room : memory ≤ UInt64.size := by decide
  have short : ∀ argument ∈ call.input.arguments, argument.length < UInt64.size :=
    fun argument given => Nat.lt_of_lt_of_le (inMemory.argument argument given) room
  have few := inMemory.arguments
  rw [arguments] at short few
  simp only [List.forall_mem_cons] at short
  obtain ⟨-, amount, name, -, hash, attributes, uri⟩ := short
  refine ⟨Nat.lt_of_le_of_lt (Bytes.length_ofNat_toNat _) amount, Nat.zero_lt_succ _, ?_⟩
  rintro _ ⟨⟩
  refine ⟨name, Nat.lt_of_lt_of_le addressed room, hash, ?_, uri, attributes⟩
  simp only [List.length_cons] at few ⊢
  omega

/-- A call that creates an instance raises the supply of its slot by the quantity, less what the caller
held there before, and changes no other supply. -/
theorem run_create (inMemory : InMemory call world)
    (addressed : call.input.caller.length < memory)
    (named : Function.ofName? call.function = some .create)
    (ran : run call world = .ok output after) (succeeded : output.succeeded) {slot : Bytes}
    (marked : holdingMark <+: slot) :
    after.supply slot + (if slot = createdSlot call output then
        (world.accountOrBlank call.input.caller).amountIn slot else 0) =
      world.supply slot + if slot = createdSlot call output then createdQuantity call else 0 := by
  obtain ⟨function, result, gasLeft, called, acted, rfl⟩ := acted_of_run ran succeeded
  obtain rfl : function = .create := Option.some.inj (called.symm.trans named)
  have returned := returned_create acted
  obtain ⟨effect, -⟩ := effect_of_ok acted
  cases effect with
  | @create token amount name share hash attributes uri uris account nonce self arguments role
      positive royalties found room next =>
    subst found
    have created : createdSlot call { result with gasRemaining := gasLeft } =
        holdingKey token nonce := by
      rw [arguments] at returned
      rw [createdSlot, arguments, returned, next]
      exact congrArg (holdingKey token) (nonceOfBytes_nonceBytes _)
    have quantity : createdQuantity call = Bytes.toNat amount := by
      rw [createdQuantity, arguments]
      rfl
    rw [created, quantity]
    exact supply_created (fits_created inMemory addressed arguments) marked

end Run

/-! ## An instance that is replaced -/

open Run

/-- A token that two contracts create instances of. -/
def picture : Bytes := Utf8.ofString "PICTURE-123456"

def painter : Bytes := List.replicate 10 0 ++ Utf8.ofString "painter_______________"

def dealer : Bytes := List.replicate 10 0 ++ Utf8.ofString "dealer________________"

/-- The contract that may create instances of the token. -/
def creator (address : Bytes) : AccountSetting where
  address := .implied address
  tokens := [⟨.implied picture, [], none, ["ESDTRoleNFTCreate"], none⟩]
  code := some (.implied (Utf8.ofString "code"))
  owner := some (.implied address)

/-- The arguments by which a quantity is created. -/
def creation (quantity : UInt8) : List Bytes := [picture, [quantity], [], [], [], [], []]

/-- The state after the painter has created five and sent them to the dealer. -/
def delivered : Executor Dummy :=
  let started := stateAfter (startMachine Dummy.machine .standard (.new Dummy.machine))
  let opened := stateAfter (onWorld
    (SetState.apply { comment := "", accounts := [creator painter, creator dealer] }) id started)
  let painted := stateAfter (transact Dummy.machine "paint"
    { Transaction.blank .call with
      sender := .implied painter
      receiver := .implied painter
      function := "ESDTNFTCreate"
      arguments := (creation 5).map .implied
      gasLimit := .implied 1 } opened)
  stateAfter (transact Dummy.machine "deliver"
    { Transaction.blank .transfer with
      sender := .implied painter
      receiver := .implied dealer
      payments := [⟨.implied picture, .implied 1, .implied 5⟩]
      gasLimit := .implied 1 } painted)

theorem reachable_delivered : Reachable (fun _ => True) (fun _ => True) delivered :=
  .transact (.transact (.set (.start .new .standard) trivial) "paint" trivial) "deliver" trivial

/-- The call by which the dealer creates one. -/
def forgery : Call where
  input := ⟨dealer, creation 1, 0, 0, 1, [], [], []⟩
  recipient := dealer
  function := "ESDTNFTCreate"

/-- The dealer never created one before, so that his first gets the number of the five that he has. -/
theorem run_forgery : ∃ output after, run forgery delivered.world = .ok output after ∧
    output.succeeded ∧ createdSlot forgery output = holdingKey picture 1 ∧
    after.supply (holdingKey picture 1) = 1 := by
  have ended : endedWith (fun output after => decide (output.succeeded ∧
      createdSlot forgery output = holdingKey picture 1 ∧ after.supply (holdingKey picture 1) = 1))
      (run forgery delivered.world) = true := by decide +kernel
  obtain ⟨output, after, ran, facts⟩ := ok_of_endedWith ended
  exact ⟨output, after, ran, of_decide_eq_true facts⟩

/-- All five are with the dealer. -/
theorem supply_delivered : delivered.world.supply (holdingKey picture 1) = 5 ∧
    (delivered.world.accountOrBlank dealer).amountIn (holdingKey picture 1) = 5 := by
  decide +kernel

/-- One is there afterwards: the five from before and the new one, less the five that were held. -/
theorem run_create_forgery : ∃ output after, run forgery delivered.world = .ok output after ∧
    after.supply (holdingKey picture 1) + 5 = 5 + 1 := by
  have small : delivered.world.accounts.size < memory ∧
      (∀ account ∈ delivered.world.accounts.values, ∀ value ∈ account.storage.values,
        value.length < memory) ∧
      forgery.input.arguments.length < memory ∧
      ∀ argument ∈ forgery.input.arguments, argument.length < memory := by decide +kernel
  have inMemory : InMemory forgery delivered.world := ⟨small.1, small.2.1, small.2.2.1, small.2.2.2⟩
  obtain ⟨output, after, ran, succeeded, slot, -⟩ := run_forgery
  obtain ⟨five, held⟩ := supply_delivered
  have law := run_create inMemory (by decide +kernel) (by decide +kernel) ran succeeded
    (marked_holdingKey picture 1)
  rw [if_pos slot.symm, if_pos slot.symm, five] at law
  change _ + (delivered.world.accountOrBlank dealer).amountIn _ = 5 + 1 at law
  rw [held] at law
  exact ⟨output, after, ran, law⟩

/-- The five from before are lost, though a run came to them step by step. -/
theorem create_not_added :
    ¬∀ (executor : Executor Dummy) (call : Call) (output : CallOutput) (after : World),
      Reachable (fun _ => True) (fun _ => True) executor →
        Function.ofName? call.function = some .create →
          run call executor.world = .ok output after → output.succeeded →
            ∀ slot, holdingMark <+: slot → after.supply slot = executor.world.supply slot +
              if slot = createdSlot call output then createdQuantity call else 0 := by
  intro added
  obtain ⟨output, after, ran, succeeded, slot, lost⟩ := run_forgery
  have law := added delivered forgery output after reachable_delivered (by decide +kernel) ran
    succeeded _ (marked_holdingKey picture 1)
  rw [if_pos slot.symm, supply_delivered.1, lost] at law
  revert law
  decide +kernel

end Builtin
end ChainScenario
