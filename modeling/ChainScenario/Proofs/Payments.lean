import ChainScenario.Proofs.Conversion
import ChainScenario.Proofs.Rewards
import ChainScenario.Proofs.TokenUpdate
import Mathlib.Algebra.GroupWithZero.Nat

/-!
# Tokens that a transaction pays

The tokens that are listed in a transaction go from its sender to its receiver one after another, if the
kind of the transaction has them moved. Main statement: `payments_settled`, in a transfer or an upgrade
that ends well both balances of every instance change by what is listed of it, and in a deployment none
does.
-/
namespace ChainScenario

open Token World

/-! ## Amounts that were moved -/

theorem Account.tokenBalance_of_every {account : Account} (intact : account.Every Intact)
    (token : Bytes) (nonce : UInt64) :
    account.tokenBalance token nonce = .ok (account.amountIn (holdingKey token nonce)) := by
  obtain ⟨held, holds⟩ := intact.holding? token nonce
  rw [tokenBalance, holds, amountIn_of_holding? holds]
  rfl

/-- The sum of the amounts that are listed for a slot. -/
def Token.listedIn (transfers : List TokenTransfer) (slot : Bytes) : Nat :=
  ((transfers.filter fun transfer => holdingKey transfer.token transfer.nonce = slot).map
    (·.value)).sum

theorem Token.listedIn_cons (transfer : TokenTransfer) (rest : List TokenTransfer) (slot : Bytes) :
    listedIn (transfer :: rest) slot =
      (if slot = holdingKey transfer.token transfer.nonce then transfer.value else 0) +
        listedIn rest slot := by
  unfold listedIn
  by_cases here : holdingKey transfer.token transfer.nonce = slot
  · simp [here]
  · simp [here, Ne.symm here]

/-- What is listed for the slot of an instance is listed for the instance, if all identifiers have the
usual form. -/
theorem Token.listedIn_holdingKey {transfers : List TokenTransfer} {token : Bytes} {nonce : UInt64}
    (usual : IsIdentifier token) (all : ∀ transfer ∈ transfers, IsIdentifier transfer.token) :
    listedIn transfers (holdingKey token nonce) =
      ((transfers.filter fun transfer => transfer.token = token ∧ transfer.nonce = nonce).map
        (·.value)).sum := by
  have same : ∀ transfer ∈ transfers,
      decide (holdingKey transfer.token transfer.nonce = holdingKey token nonce) =
        decide (transfer.token = token ∧ transfer.nonce = nonce) := by
    intro transfer listed
    refine decide_eq_decide.2 ⟨holdingKey_inj (all transfer listed) usual, ?_⟩
    rintro ⟨rfl, rfl⟩
    rfl
  rw [listedIn, List.filter_congr same]

/-- An amount in a slot is missing at one account, and there is as much more of it at another. -/
structure World.Shifted (source destination slot : Bytes) (amount : Nat) (world after : World) :
    Prop where
  given : (after.accountOrBlank source).amountIn slot + amount =
    (world.accountOrBlank source).amountIn slot
  received : (after.accountOrBlank destination).amountIn slot =
    (world.accountOrBlank destination).amountIn slot + amount

namespace Builtin

section Movements

variable {source destination token : Bytes} {nonce : UInt64} {value : Nat} {world after : World}

/-- A movement of tokens between two accounts shifts its amount in the slot of the tokens. -/
theorem TokensMoved.shifted (moved : TokensMoved source destination token nonce value world after)
    (apart : source ≠ destination) (sound : world.Sound) (slot : Bytes) :
    Shifted source destination slot (if slot = holdingKey token nonce then value else 0) world
      after := by
  obtain ⟨-, found, holds, enough, -, taken, reads⟩ := moved
  rename_i sender sent middle held
  have less := (Account.fits_of_holding? holds).less (Nat.sub_le sent.value value)
  have fits := fits_moved found holds enough (taken ▸ reads) (sound.small _)
  have there : middle.accountOrBlank destination = world.accountOrBlank destination := by
    rw [taken, accountOrBlank_setAccount, if_neg apart.symm]
  constructor
  · rw [accountOrBlank_setAccount, if_neg apart, taken, accountOrBlank_setAccount_self,
      accountOrBlank_of_account? found, Account.amountIn_saveHolding _ _ _ less]
    split
    · rename_i here
      rw [here, Account.amountIn_of_holding? holds]
      exact Nat.sub_add_cancel enough
    · rfl
  · rw [accountOrBlank_setAccount_self, Account.amountIn_setHolding _ _ _ fits, value_received,
      ← Account.amountIn_of_holding? reads, there]
    split
    · rename_i here
      rw [here]
    · rfl

/-- Transfers of tokens one after another shift all that they list. -/
theorem TransfersMoved.shifted {transfers : List TokenTransfer}
    (moved : TransfersMoved source destination transfers world after) (apart : source ≠ destination)
    (tokens : ∀ transfer ∈ transfers, transfer.token ≠ currency) (sound : world.Sound)
    (slot : Bytes) :
    Shifted source destination slot (listedIn transfers slot) world after ∧ after.Sound := by
  -- the ledger stays sound between two transfers, so each amount is written as it is
  induction moved with
  | none => exact ⟨⟨rfl, rfl⟩, sound⟩
  | @more transfer rest world middle after positive first others ih =>
    have between := first.sound positive sound
    obtain ⟨others, behind⟩ := ih (fun other listed => tokens other (.tail _ listed)) between
    cases first with
    | currency same => exact absurd same (tokens transfer List.mem_cons_self)
    | tokens _ first =>
      have step := first.shifted apart sound slot
      have given := step.given
      have received := step.received
      have givenLater := others.given
      have receivedLater := others.received
      rw [listedIn_cons]
      exact ⟨⟨by omega, by omega⟩, behind⟩

end Movements

/-- The converted call ends well only if the tokens of the call were moved. -/
theorem moved_of_run {call : Call} {world after : World} {output : CallOutput}
    (carries : call.input.transfers ≠ []) (few : call.input.transfers.length < UInt64.size)
    (ran : run (convert call) world = .ok output after) (succeeded : output.succeeded) :
    TransfersMoved call.input.caller call.recipient call.input.transfers world after := by
  obtain ⟨function, result, gasLeft, named, acted, -⟩ := acted_of_run ran succeeded
  have form := sent_convert carries
  obtain rfl : function = (conversionTarget call).1 := by
    rw [function_sent form, Function.ofName?_name] at named
    exact (Option.some.inj named).symm
  rw [action_sent form few] at acted
  exact (ok_delivery _).1 ⟨result, acted⟩

end Builtin

/-! ## Where a transaction moves its tokens -/

namespace Run

section Outcomes

variable {tx : String} {transaction : Transaction} {executor after : Executor Dummy}
  {output : CallOutput}

theorem ok_perform {gas : UInt64}
    (ran : perform Dummy.machine tx transaction gas executor = .ok output after)
    (succeeded : output.succeeded) :
    ∃ middle, outcome Dummy.machine tx transaction gas executor = .ok output middle ∧
      applyOutcome transaction output middle = .ok () after := by
  obtain ⟨_, start, reads, ran⟩ := ok_bind.1 ran
  obtain ⟨rfl, rfl⟩ : executor.world = _ ∧ start = executor := by
    simpa [Run.world, get_bind] using reads
  split at ran
  · obtain ⟨result, middle, outcomes, ran⟩ := ok_bind.1 ran
    split at ran
    · obtain ⟨_, applied, applies, ended⟩ := ok_bind.1 ran
      obtain ⟨rfl, rfl⟩ := ok_pure.1 ended
      exact ⟨middle, outcomes, applies⟩
    · obtain ⟨rfl, rfl⟩ := ok_pure.1 ran
      contradiction
  · obtain ⟨rfl, rfl⟩ := ok_pure.1 ran
    simp [CallOutput.succeeded, CallOutput.failure] at succeeded

/-- A transaction that is kept had an outcome, which was applied. -/
theorem applied_of_transact
    (ran : transact Dummy.machine tx transaction executor = .ok output after)
    (succeeded : output.succeeded) :
    ∃ start middle applied : Executor Dummy,
      start.world = (executor.world.charged transaction).backup ∧
      outcome Dummy.machine tx transaction (availableGas transaction) start = .ok output middle ∧
      applyOutcome transaction output middle = .ok () applied ∧
      after.world = applied.world.commit := by
  rw [transact_eq (not_lacksSender_of_ok ran), bracket_eq (keeps_perform _ _ _)] at ran
  split at ran
  · rename_i result applied performed
    cases ran
    rw [if_pos succeeded]
    obtain ⟨middle, outcomes, applies⟩ := ok_perform performed succeeded
    exact ⟨_, middle, applied, rfl, outcomes, applies, rfl⟩
  · cases ran

theorem transfers_of_moveTokens {call : Call} (carries : call.input.transfers ≠ [])
    (few : call.input.transfers.length < UInt64.size)
    (ran : moveTokens call executor = .ok output after) :
    Builtin.TransfersMoved call.input.caller call.recipient call.input.transfers executor.world
      after.world := by
  obtain ⟨result, middle, moves, judged⟩ := ok_bind.1 ran
  split at judged
  · rename_i succeeded
    obtain ⟨rfl, rfl⟩ := ok_pure.1 judged
    exact Builtin.moved_of_run carries few (ok_onWorld moves).1 succeeded
  · simp at judged

theorem ok_callContract (carries : transaction.payments ≠ [])
    (ran : callContract Dummy.machine tx transaction executor = .ok output after) :
    ∃ result middle,
      moveTokens (callOf transaction (transactionHash tx)) executor = .ok result middle ∧
      onStarted (Dummy.machine.call (callOf transaction (transactionHash tx))) middle =
        .ok output after := by
  simp only [callContract, ok_bind] at ran
  obtain ⟨receiver, start, receives, ran⟩ := ran
  obtain ⟨-, rfl⟩ := ok_receiverOf receives
  split at ran
  · simp at ran
  · split at ran
    · exact ok_bind.1 ran
    · rename_i bare
      simp [callOf, callInput, carriedTokens, carries] at bare

/-- An upgrade only asks for new code, which goes nowhere into storage. -/
theorem stored_upgraded {call : Call} {world middle paid applied : World}
    (called : Dummy.Called call world middle output) (named : call.function = upgradeFunction)
    (pays : Paid transaction middle paid)
    (applies : applyChanges output.changes output.deleted paid = .ok () applied)
    (address key : Bytes) : applied.stored address key = world.stored address key := by
  cases called with
  | builtin function =>
    have foreign : Builtin.Function.ofName? upgradeFunction = none := by decide
    rw [named, foreign] at function
    cases function
  | upgraded => rw [stored_applied_idle rfl applies, pays.stored_eq]

theorem carries_callOf {hash : Bytes} (pays : transaction.payments ≠ []) :
    (callOf transaction hash).input.transfers ≠ [] := by
  simpa [callOf, callInput, carriedTokens] using pays

theorem length_callOf {hash : Bytes} :
    (callOf transaction hash).input.transfers.length = transaction.payments.length := by
  simp [callOf, callInput, carriedTokens]

/-- In a transfer or an upgrade that ends well the tokens are moved, and nothing else is stored. -/
theorem moved_of_transact
    (ran : transact Dummy.machine tx transaction executor = .ok output after)
    (succeeded : output.succeeded) (pays : transaction.payments ≠ [])
    (few : transaction.payments.length < UInt64.size)
    (kind : transaction.kind = .transfer ∨ transaction.kind = .upgrade) :
    ∃ moved, Builtin.TransfersMoved transaction.sender.value transaction.receiver.value
        (carriedTokens transaction) (executor.world.charged transaction).backup moved ∧
      ∀ address key, after.world.stored address key = moved.stored address key := by
  obtain ⟨start, middle, applied, begins, outcomes, applies, ends⟩ :=
    applied_of_transact ran succeeded
  obtain ⟨paid, paying, changes, -⟩ := applied_applyOutcome applies
  rw [← begins]
  rcases kind with kind | kind
  · -- a transfer moves them by a built-in function, which asks for no changes
    simp only [outcome, kind, List.isEmpty_iff, if_neg pays] at outcomes
    have transfers := transfers_of_moveTokens (carries_callOf pays)
      (length_callOf ▸ few) outcomes
    obtain ⟨function, moves, effect, plain⟩ := ok_moveTokens (carries_callOf pays) outcomes
    refine ⟨middle.world, transfers, fun address key => ?_⟩
    rw [ends, stored_commit, applied_plain plain paying.grows changes, paying.stored_eq]
  · -- an upgrade moves them before the contract is called
    simp only [outcome, kind] at outcomes
    have carried : (upgradeCall transaction).payments ≠ [] := pays
    obtain ⟨result, between, moves, calls⟩ := ok_callContract carried outcomes
    have transfers := transfers_of_moveTokens (carries_callOf carried)
      (length_callOf ▸ few) moves
    obtain ⟨machine, called⟩ := ok_onStarted calls
    refine ⟨between.world, transfers, fun address key => ?_⟩
    rw [ends, stored_commit]
    exact stored_upgraded (Dummy.called_of_ok called succeeded) rfl paying changes address key

/-- In a deployment that ends well nothing is stored. -/
theorem Completed.stored_deployed {world kept : World}
    (completed : Completed tx transaction world output kept) (kind : transaction.kind = .deploy)
    (address key : Bytes) : kept.stored address key = world.stored address key := by
  obtain ⟨⟨-, enacted, pays, applies, -⟩⟩ := completed
  cases enacted with
  | deployed =>
    rw [stored_commit, stored_applied_idle rfl applies, pays.stored_eq]
    exact stored_charged world transaction address key
  | answered other => simp [kind] at other
  | credited other | moved other | rewarded other => simp [kind] at other

end Outcomes

/-- An amount of an instance went from one account to another. -/
structure Received (source destination token : Bytes) (nonce : UInt64) (amount : Nat)
    (world after : World) : Prop where
  given : ∃ left, (world.accountOrBlank source).tokenBalance token nonce = .ok (left + amount) ∧
    (after.accountOrBlank source).tokenBalance token nonce = .ok left
  received : ∃ had, (world.accountOrBlank destination).tokenBalance token nonce = .ok had ∧
    (after.accountOrBlank destination).tokenBalance token nonce = .ok (had + amount)

/-- In a transfer or an upgrade that ends well the sender has less of every instance by what is listed
for its slot, and the receiver has more of it by as much; this is what is listed of the instance, if all
identifiers have the usual form. In a deployment that ends well nobody has less or more of anything. -/
theorem payments_settled {tx : String} {transaction : Transaction} {executor after : Executor Dummy}
    {output : CallOutput} (intact : executor.world.Every Intact) (bounded : executor.world.Bounded)
    (pays : transaction.payments ≠ []) (few : transaction.payments.length < UInt64.size)
    (tokens : ∀ payment ∈ transaction.payments, payment.token.value ≠ currency)
    (ran : transact Dummy.machine tx transaction executor = .ok output after)
    (succeeded : output.succeeded) :
    (transaction.kind = .transfer ∨ transaction.kind = .upgrade →
      transaction.sender.value ≠ transaction.receiver.value → ∀ token nonce,
        Received transaction.sender.value transaction.receiver.value token nonce
          (listedIn (carriedTokens transaction) (holdingKey token nonce)) executor.world after.world) ∧
    (transaction.kind = .deploy → ∀ address token nonce,
      (after.world.accountOrBlank address).tokenBalance token nonce =
        (executor.world.accountOrBlank address).tokenBalance token nonce) ∧
    ((∀ payment ∈ transaction.payments, IsIdentifier payment.token.value) →
      ∀ token nonce, IsIdentifier token →
        listedIn (carriedTokens transaction) (holdingKey token nonce) =
          (((carriedTokens transaction).filter fun transfer =>
            transfer.token = token ∧ transfer.nonce = nonce).map (·.value)).sum) := by
  refine ⟨fun kind apart token nonce => ?_, fun kind address token nonce => ?_,
    fun all token nonce usual => ?_⟩
  · -- a transfer or an upgrade
    obtain ⟨moved, transfers, behind⟩ := moved_of_transact ran succeeded pays few kind
    have other : ∀ transfer ∈ carriedTokens transaction, transfer.token ≠ currency := by
      intro transfer listed
      obtain ⟨payment, paid, rfl⟩ := List.mem_map.1 listed
      exact tokens payment paid
    have sound : executor.world.Sound := ⟨intact, bounded.supply_small⟩
    have charged := World.sound_charged transaction sound
    have start : (executor.world.charged transaction).backup.Sound :=
      ⟨charged.intact.of_accounts rfl, charged.small⟩
    obtain ⟨shifted, final⟩ := transfers.shifted apart other start (holdingKey token nonce)
    -- nothing but the transfers changes what is stored
    have before : ∀ address, (executor.world.accountOrBlank address).tokenBalance token nonce =
        .ok (((executor.world.charged transaction).backup.accountOrBlank address).amountIn
          (holdingKey token nonce)) := by
      intro address
      rw [← Account.tokenBalance_of_every (start.intact.accountOrBlank address)]
      exact Account.tokenBalance_of_stored (stored_charged _ _ _ _).symm
    have afterwards : ∀ address, (after.world.accountOrBlank address).tokenBalance token nonce =
        .ok ((moved.accountOrBlank address).amountIn (holdingKey token nonce)) := by
      intro address
      rw [← Account.tokenBalance_of_every (final.intact.accountOrBlank address)]
      exact Account.tokenBalance_of_stored (behind address _)
    constructor
    · exact ⟨_, by rw [before, shifted.given], afterwards _⟩
    · exact ⟨_, before _, by rw [afterwards, shifted.received]⟩
  · -- a deployment
    rcases transact_ends executor tx transaction with ⟨_, _, ended, -, completed⟩ | ⟨failed, -⟩
    · cases ran.symm.trans ended
      exact Account.tokenBalance_of_stored (completed.stored_deployed kind address _)
    · rw [failed output after ran] at succeeded
      cases succeeded
  · refine listedIn_holdingKey usual fun transfer listed => ?_
    obtain ⟨payment, paid, rfl⟩ := List.mem_map.1 listed
    exact all payment paid

/-! ### A payment and a deployment -/

/-- A token in the usual form. -/
def coin : Bytes := Utf8.ofString "COIN-123456"

/-- An account with five of it. -/
def payer : Account :=
  (Account.blank (List.replicate Address.length 1)).setHolding coin 0 (.fungible 5)

/-- Two of the token and one more. -/
def installments : List Payment :=
  [⟨.implied coin, .implied 0, .implied 2⟩, ⟨.implied coin, .implied 0, .implied 1⟩]

/-- The transfer of the three to another account. -/
def paying : Transaction :=
  { Transaction.blank .transfer with
    sender := .implied payer.address
    receiver := .implied (List.replicate Address.length 2)
    payments := installments }

/-- A deployment with the three. -/
def founding : Transaction :=
  { Transaction.blank .deploy with
    sender := .implied payer.address
    code := .implied [1]
    payments := installments }

theorem intact_payer : (Executor.alone payer).world.Every Intact := by
  have fits : (Holding.fungible 5).Fits := ⟨by decide +kernel, by decide, nofun⟩
  have held : payer.Every Intact :=
    (Account.every_blank _).put (intact_write fits (by decide) coin 0)
  exact World.Every.setAccount (fun _ _ => nofun) held

theorem bounded_payer : (Executor.alone payer).world.Bounded := by decide +kernel

theorem tokens_installments : ∀ payment ∈ installments, payment.token.value ≠ currency := by
  decide +kernel

/-- Both installments are received. -/
theorem payments_settled_paying : ∃ output after,
    transact Dummy.machine "pay" paying (.alone payer) = .ok output after ∧ output.succeeded ∧
      Received paying.sender.value paying.receiver.value coin 0 3 (Executor.alone payer).world
        after.world := by
  have ends : endedWith (fun output _ => output.succeeded)
      (transact Dummy.machine "pay" paying (.alone payer)) = true := by decide +kernel
  obtain ⟨output, after, ran, succeeded⟩ := ok_of_endedWith ends
  have settled := payments_settled intact_payer bounded_payer (List.cons_ne_nil _ _)
    (by decide) tokens_installments ran succeeded
  have listed : listedIn (carriedTokens paying) (holdingKey coin 0) = 3 := by decide +kernel
  have received := settled.1 (.inl rfl) (by decide) coin 0
  rw [listed] at received
  exact ⟨output, after, ran, succeeded, received⟩

/-- Whom a transaction pays: the receiver, or the contract that it deployed. -/
def paidTo (transaction : Transaction) (after : World) : Bytes :=
  if transaction.kind = .deploy then after.lastCreated else transaction.receiver.value

/-- What is listed in a deployment is received by nobody. -/
theorem payments_unsettled :
    ¬∀ (tx : String) (transaction : Transaction) (executor after : Executor Dummy)
      (output : CallOutput), executor.world.Every Intact → executor.world.Bounded →
        transaction.kind = .transfer ∨ transaction.kind = .upgrade ∨ transaction.kind = .deploy →
        transaction.payments ≠ [] → transaction.payments.length < UInt64.size →
        (∀ payment ∈ transaction.payments, payment.token.value ≠ currency) →
        transact Dummy.machine tx transaction executor = .ok output after → output.succeeded →
        transaction.sender.value ≠ paidTo transaction after.world → ∀ token nonce,
          Received transaction.sender.value (paidTo transaction after.world) token nonce
            (listedIn (carriedTokens transaction) (holdingKey token nonce)) executor.world
            after.world := by
  intro settled
  have ends : endedWith (fun output after =>
        output.succeeded && decide (founding.sender.value ≠ after.world.lastCreated) &&
          decide (((after.world.accountOrBlank founding.sender.value).tokenBalance coin 0).toOption =
            some 5))
      (transact Dummy.machine "found" founding (.alone payer)) = true := by decide +kernel
  obtain ⟨output, after, ran, facts⟩ := ok_of_endedWith ends
  simp only [Bool.and_eq_true, decide_eq_true_eq] at facts
  obtain ⟨⟨succeeded, apart⟩, kept⟩ := facts
  obtain ⟨left, before, behind⟩ := (settled "found" founding (.alone payer) after output intact_payer
    bounded_payer (.inr (.inr rfl)) (List.cons_ne_nil _ _) (by decide) tokens_installments ran
    succeeded apart coin 0).given
  have five : (((Executor.alone payer).world.accountOrBlank founding.sender.value).tokenBalance
      coin 0).toOption = some 5 := by decide +kernel
  have listed : listedIn (carriedTokens founding) (holdingKey coin 0) = 3 := by decide +kernel
  rw [listed] at before
  rw [before] at five
  rw [behind] at kept
  cases five
  cases kept

end Run
end ChainScenario
