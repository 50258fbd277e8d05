import ChainScenario.Proofs.Atomicity
import ChainScenario.Proofs.BuiltinEffects

/-!
# Outcomes of transactions

Over the dummy machine a transaction that ends well does little to the ledger before its result is
applied: its tokens are moved, and one built-in function may run. Main statements: `enacted_outcome`,
what a transaction of each kind does and asks for, `Enacted.evolved`, what they have in common, and
`transact_ends`, what a whole transaction does.
-/
namespace ChainScenario

/-- A result asks for nothing, or for one change that credits a value and stores at most a reward. -/
structure CallOutput.Asks (output : CallOutput) (value : Nat) : Prop where
  deleted : output.deleted = []
  changes : (∀ entry ∈ output.changes.toList, entry.2 = .none) ∨
    ∃ address change, output.changes = OrdMap.empty.insert address change ∧
      change.balanceDelta = value ∧ ∀ write ∈ change.storage, write.1 = Address.rewardKey

theorem Builtin.Plain.asks {output : CallOutput} {after : World} (plain : Plain output after)
    (value : Nat) : output.Asks value :=
  ⟨plain.deleted, .inl plain.idle⟩

/-! ## What the machine does -/

namespace Dummy

/-- What a call of the machine that ends well does to the ledger. -/
inductive Acted (world : World) : World → Prop
  | idle : Acted world world
  | named (address : Bytes) : Acted world { world with lastCreated := address }
  | builtin {call : Call} {function : Builtin.Function} {after : World}
      (effect : Builtin.Effect call world function after) : Acted world after

/-- The nonce that a deployment goes by, which is the one before its creator was charged. -/
def deploymentNonce (world : World) (creator : Bytes) : UInt64 :=
  let nonce := ((world.account? creator).map (·.nonce)).getD 0
  if nonce = 0 then 0 else nonce - 1

theorem ok_create {creation : Creation} {start after : Dummy × World} {output : CallOutput}
    (ran : create creation start = .ok output after) :
    ∃ address, address = start.2.deploymentAddress creation.input.caller
        (deploymentNonce start.2 creation.input.caller) ∧
      after.2 = { start.2 with lastCreated := address } ∧
      output = installed creation.input address creation.code creation.codeMetadata := by
  simp only [create, get_bind, ok_bind, ok_pure] at ran
  obtain ⟨address, taken, creates, _, traced, records, rfl, rfl⟩ := ran
  -- the ledger only remembers the new address; the account itself is asked for by the output
  have kept := ok_onMachine creates
  simp only [World.createAddress, get_bind, ok_bind, ok_modify, ok_pure] at kept
  obtain ⟨_, _, named, rfl, same⟩ := kept
  obtain rfl := ok_modify.1 records
  exact ⟨_, rfl, same.trans named, rfl⟩

/-- A call that ends well runs a built-in function, or gives new code to a contract of the caller. -/
inductive Called (call : Call) (world : World) : World → CallOutput → Prop
  | builtin {function : Builtin.Function} {after : World} {output : CallOutput}
      (named : Builtin.Function.ofName? call.function = some function)
      (effect : Builtin.Effect call world function after)
      (plain : Builtin.Plain output after) : Called call world after output
  | upgraded {contract : Account}
      (named : call.function = upgradeFunction)
      (found : world.account? call.recipient = some contract)
      (own : contract.owner = call.input.caller)
      (given : call.input.arguments.headD [] ≠ []) :
      Called call world world (installed call.input call.recipient (call.input.arguments.headD [])
        ((call.input.arguments.drop 1).headD []))

private theorem called_upgrade {call : Call} {world : World}
    (named : call.function = upgradeFunction) (succeeded : (upgrade world call).succeeded) :
    Called call world world (upgrade world call) := by
  have failed : ∀ code message, code ≠ .ok → ¬(CallOutput.failure code message).succeeded := by
    intro code message other
    simpa [CallOutput.succeeded, CallOutput.failure] using other
  revert succeeded
  unfold upgrade
  cases found : world.account? call.recipient with
  | none => exact fun succeeded => absurd succeeded (failed _ _ (by decide))
  | some contract =>
    dsimp only
    by_cases own : contract.owner = call.input.caller
    · by_cases given : call.input.arguments.headD [] = []
      · rw [if_neg (not_not_intro own), if_pos (List.isEmpty_iff.2 given)]
        exact fun succeeded => absurd succeeded (failed _ _ (by decide))
      · rw [if_neg (not_not_intro own), if_neg (mt List.isEmpty_iff.1 given)]
        exact fun _ => .upgraded named found own given
    · rw [if_pos own]
      exact fun succeeded => absurd succeeded (failed _ _ (by decide))

theorem called_of_ok {call : Call} {start after : Dummy × World} {output : CallOutput}
    (ran : Dummy.call call start = .ok output after) (succeeded : output.succeeded) :
    Called call start.2 after.2 output := by
  simp only [Dummy.call, ok_bind] at ran
  obtain ⟨_, traced, records, ran⟩ := ran
  obtain rfl := ok_modify.1 records
  split at ran
  · obtain ⟨_, named, effect, plain⟩ := Builtin.effect_of_run (ok_onMachine ran) succeeded
    exact .builtin named effect plain
  · split at ran
    · rename_i named
      obtain ⟨rfl, rfl⟩ := ok_pure.1 ran
      exact called_upgrade named succeeded
    · obtain ⟨rfl, rfl⟩ := ok_pure.1 ran
      simp [CallOutput.succeeded, CallOutput.failure] at succeeded

theorem asks_installed (input : CallInput) (address code metadata : Bytes) :
    (installed input address code metadata).Asks input.value :=
  ⟨rfl, .inr ⟨address, _, rfl, rfl, by simp⟩⟩

theorem Called.acted {call : Call} {world after : World} {output : CallOutput}
    (called : Called call world after output) :
    Acted world after ∧ output.Asks call.input.value := by
  cases called with
  | builtin _ effect plain => exact ⟨.builtin effect, plain.asks _⟩
  | upgraded => exact ⟨.idle, asks_installed _ _ _ _⟩

end Dummy

/-! ## Tokens that come with a call -/

namespace Builtin

theorem moves_conversionTarget (call : Call) : (conversionTarget call).1.moves := by
  unfold conversionTarget
  dsimp only
  split
  · split
    · rfl
    · split <;> rfl
  · rfl

/-- A call with tokens is sent as a function that moves them. -/
theorem named_convert {call : Call} (carries : call.input.transfers ≠ []) :
    ∃ function, Function.ofName? (convert call).function = some function ∧ function.moves := by
  refine ⟨(conversionTarget call).1, ?_, moves_conversionTarget call⟩
  have some : ¬call.input.transfers.isEmpty = true := fun empty => carries (List.isEmpty_iff.1 empty)
  rw [convert, if_neg some]
  exact Function.ofName?_name _

end Builtin

/-! ## From the calls to the outcome -/

namespace Run

open World

variable {σ : Type}

theorem ok_receiverOf {transaction : Transaction} {executor after : Executor σ} {receiver : Account}
    (ran : receiverOf transaction executor = .ok receiver after) :
    executor.world.account? transaction.receiver.value = some receiver ∧ after = executor := by
  obtain ⟨_, start, reads, ran⟩ := ok_bind.1 ran
  obtain ⟨rfl, rfl⟩ : executor.world = _ ∧ start = executor := by
    simpa [world, get_bind] using reads
  cases found : start.world.account? transaction.receiver.value with
  | none => simp [found] at ran
  | some account =>
    simp only [found] at ran
    obtain ⟨rfl, rfl⟩ := ok_pure.1 ran
    exact ⟨rfl, rfl⟩

theorem ok_moveTokens {call : Call} {executor after : Executor σ} {output : CallOutput}
    (carries : call.input.transfers ≠ []) (ran : moveTokens call executor = .ok output after) :
    ∃ function : Builtin.Function, function.moves ∧
      Builtin.Effect (Builtin.convert call) executor.world function after.world ∧
      Builtin.Plain output after.world := by
  simp only [moveTokens, ok_bind] at ran
  obtain ⟨result, middle, moves, judged⟩ := ran
  split at judged
  · rename_i succeeded
    obtain ⟨rfl, rfl⟩ := ok_pure.1 judged
    obtain ⟨function, named, effect, plain⟩ := Builtin.effect_of_run (ok_onWorld moves).1 succeeded
    -- the name of the converted call decides which function ran
    obtain ⟨target, same, moving⟩ := Builtin.named_convert carries
    obtain rfl : function = target := Option.some.inj (named.symm.trans same)
    exact ⟨function, moving, effect, plain⟩
  · simp at judged

/-- The tokens of a call were moved, if it has any. -/
inductive Delivered (call : Call) (world : World) : World → Prop
  | none (empty : call.input.transfers = []) : Delivered call world world
  | moved {function : Builtin.Function} {after : World} (carries : call.input.transfers ≠ [])
      (moves : function.moves) (effect : Builtin.Effect (Builtin.convert call) world function after) :
      Delivered call world after

/-- A contract that is there was called, its tokens first, and the call ended well. -/
inductive Answered (call : Call) (world after : World) (output : CallOutput) : Prop
  | intro {receiver : Account} {middle : World}
      (found : world.account? call.recipient = some receiver) (coded : receiver.code ≠ [])
      (delivered : Delivered call world middle) (called : Dummy.Called call middle after output) :
      Answered call world after output

theorem answered_callContract {tx : String} {transaction : Transaction}
    {executor after : Executor Dummy} {output : CallOutput}
    (ran : callContract Dummy.machine tx transaction executor = .ok output after)
    (succeeded : output.succeeded) :
    Answered (callOf transaction (transactionHash tx)) executor.world after.world output := by
  simp only [callContract, ok_bind] at ran
  obtain ⟨receiver, start, receives, ran⟩ := ran
  obtain ⟨found, same⟩ := ok_receiverOf receives
  subst same
  -- what the machine does behind the tokens is the same in both branches
  have behind : ∀ start : Executor Dummy,
      onStarted (Dummy.machine.call (callOf transaction (transactionHash tx))) start =
          .ok output after →
        Dummy.Called (callOf transaction (transactionHash tx)) start.world after.world output := by
    intro start called
    obtain ⟨machine, ended⟩ := ok_onStarted called
    exact Dummy.called_of_ok ended succeeded
  split at ran
  · simp at ran
  · rename_i coded
    have some : receiver.code ≠ [] := mt List.isEmpty_iff.2 coded
    split at ran
    · rename_i carries
      have carried : (callOf transaction (transactionHash tx)).input.transfers ≠ [] := by
        simpa using carries
      obtain ⟨_, middle, moves, called⟩ := ok_bind.1 ran
      obtain ⟨function, moving, effect, -⟩ := ok_moveTokens carried moves
      exact ⟨found, some, .moved carried moving effect, behind middle called⟩
    · rename_i bare
      have empty : (callOf transaction (transactionHash tx)).input.transfers = [] := by
        simpa using bare
      exact ⟨found, some, .none empty, behind start ran⟩

/-- The transaction by which a contract is called: an upgrade and a query are calls of their own. -/
def calling (transaction : Transaction) : Transaction :=
  match transaction.kind with
  | .upgrade => upgradeCall transaction
  | .query => queryCall transaction
  | _ => transaction

/-- What a transaction of each kind does to the ledger if its outcome is good, and what it asks for. -/
inductive Enacted (tx : String) (transaction : Transaction) (world : World) :
    World → CallOutput → Prop
  | deployed {address : Bytes} (kind : transaction.kind = .deploy)
      (placed : address = world.deploymentAddress transaction.sender.value
        (Dummy.deploymentNonce world transaction.sender.value)) :
      Enacted tx transaction world { world with lastCreated := address }
        (Dummy.installed (callInput transaction (transactionHash tx)) address transaction.code.value
          (codeMetadataOf transaction))
  | answered {after : World} {output : CallOutput}
      (kind : transaction.kind = .upgrade ∨ transaction.kind = .query ∨ transaction.kind = .call)
      (answered : Answered (callOf (calling transaction) (transactionHash tx)) world after output) :
      Enacted tx transaction world after output
  | credited (kind : transaction.kind = .transfer) (bare : transaction.payments = []) :
      Enacted tx transaction world world
        (changing transaction.receiver.value transaction.value.value [])
  | moved {function : Builtin.Function} {after : World} {output : CallOutput}
      (kind : transaction.kind = .transfer) (pays : transaction.payments ≠ [])
      (moves : function.moves)
      (effect : Builtin.Effect (Builtin.convert (callOf transaction [])) world function after)
      (plain : Builtin.Plain output after) : Enacted tx transaction world after output
  | rewarded {receiver : Account} (kind : transaction.kind = .reward)
      (found : world.account? transaction.receiver.value = some receiver) :
      Enacted tx transaction world world
        (changing transaction.receiver.value transaction.value.value [(Address.rewardKey,
          Bytes.ofNat (Bytes.toNat (receiver.stored Address.rewardKey) + transaction.value.value))])

/-- Before its changes are applied, a result that ended well has done what its kind does. -/
theorem enacted_outcome {tx : String} {transaction : Transaction} {gas : UInt64}
    {executor after : Executor Dummy} {output : CallOutput}
    (ran : outcome Dummy.machine tx transaction gas executor = .ok output after)
    (succeeded : output.succeeded) :
    Enacted tx transaction executor.world after.world output := by
  -- what is printed behind a call changes nothing
  have printed : ∀ {call : Transaction} {description : String} {given : UInt64},
      (callContract Dummy.machine tx call >>= fun output =>
        printGas tx description given output >>= fun _ => pure output) executor = .ok output after →
      Answered (callOf call (transactionHash tx)) executor.world after.world output := by
    intro call description given ended
    obtain ⟨middle, calls, same⟩ := ok_printed ended
    rw [same]
    exact answered_callContract calls succeeded
  cases kind : transaction.kind with
  | deploy =>
    simp only [outcome, kind] at ran
    obtain ⟨middle, deploys, same⟩ := ok_printed ran
    obtain ⟨machine, created⟩ := ok_onStarted deploys
    obtain ⟨address, placed, named, rfl⟩ := Dummy.ok_create created
    rw [same]
    change middle.world = _ at named
    rw [named]
    exact .deployed kind placed
  | upgrade =>
    simp only [outcome, kind] at ran
    have called := answered_callContract ran succeeded
    exact .answered (.inl kind) (by simpa only [calling, kind] using called)
  | query =>
    simp only [outcome, kind] at ran
    exact .answered (.inr (.inl kind)) (by simpa only [calling, kind] using printed ran)
  | call =>
    simp only [outcome, kind] at ran
    exact .answered (.inr (.inr kind)) (by simpa only [calling, kind] using printed ran)
  | transfer =>
    simp only [outcome, kind] at ran
    split at ran
    · rename_i bare
      obtain ⟨rfl, rfl⟩ := ok_pure.1 ran
      exact .credited kind (List.isEmpty_iff.1 bare)
    · rename_i pays
      have some : transaction.payments ≠ [] := mt List.isEmpty_iff.2 pays
      have carries : (callOf transaction []).input.transfers ≠ [] := by
        simpa [callOf, callInput, carriedTokens] using some
      obtain ⟨function, moving, effect, plain⟩ := ok_moveTokens carries ran
      exact .moved kind some moving effect plain
  | reward =>
    simp only [outcome, kind, reward] at ran
    obtain ⟨receiver, middle, receives, ended⟩ := ok_bind.1 ran
    obtain ⟨found, same⟩ := ok_receiverOf receives
    obtain ⟨rfl, rfl⟩ := ok_pure.1 ended
    rw [same]
    exact .rewarded kind found

/-! ## What outcomes have in common -/

/-- What a transaction whose outcome is good did to the ledger. -/
inductive Evolved (world : World) : World → Prop
  | acted {after : World} (acted : Dummy.Acted world after) : Evolved world after
  | moved {call : Call} {function : Builtin.Function} {middle after : World}
      (moves : function.moves) (effect : Builtin.Effect call world function middle)
      (acted : Dummy.Acted middle after) : Evolved world after

private theorem asks_changing (address : Bytes) (value : Nat) {storage : List (Bytes × Bytes)}
    (rewards : ∀ write ∈ storage, write.1 = Address.rewardKey) :
    (changing address value storage).Asks value :=
  ⟨rfl, .inr ⟨address, _, rfl, rfl, rewards⟩⟩

theorem Answered.evolved {call : Call} {world after : World} {output : CallOutput}
    (answered : Answered call world after output) :
    Evolved world after ∧ output.Asks call.input.value := by
  obtain ⟨-, -, delivered, called⟩ := answered
  obtain ⟨acted, asks⟩ := called.acted
  refine ⟨?_, asks⟩
  cases delivered with
  | none => exact .acted acted
  | moved _ moves effect => exact .moved moves effect acted

/-- Before its changes are applied, a result that ended well has moved tokens and run a built-in function
at most, and asks for no more than the value of the transaction. -/
theorem Enacted.evolved {tx : String} {transaction : Transaction} {world after : World}
    {output : CallOutput} (enacted : Enacted tx transaction world after output) :
    Evolved world after ∧ output.Asks transaction.value.value := by
  cases enacted with
  | deployed => exact ⟨.acted (.named _), Dummy.asks_installed _ _ _ _⟩
  | answered _ answered =>
    -- the call of an upgrade or a query has the value of the transaction
    have value : (calling transaction).value = transaction.value := by
      unfold calling
      split <;> rfl
    obtain ⟨evolved, asks⟩ := answered.evolved
    refine ⟨evolved, ?_⟩
    rw [← value]
    exact asks
  | credited => exact ⟨.acted .idle, asks_changing _ _ (by simp)⟩
  | moved _ _ moves effect plain => exact ⟨.moved moves effect .idle, plain.asks _⟩
  | rewarded =>
    refine ⟨.acted .idle, asks_changing _ _ ?_⟩
    intro write member
    rw [List.mem_singleton.1 member]

/-! ## Transactions that end well -/

/-- The sender of a transaction paid its value, if its kind has a sender. -/
inductive Paid (transaction : Transaction) (world : World) : World → Prop
  | sender {paid : World} (sends : transaction.kind.hasSender)
      (pays : updateBalance transaction.sender.value (-transaction.value.value) world = .ok () paid) :
      Paid transaction world paid
  | nobody (free : transaction.kind.hasSender = false) : Paid transaction world world

/-- A result is applied in full: the sender pays, the changes are made, and they add up to the value. -/
theorem applied_applyOutcome {transaction : Transaction} {output : CallOutput}
    {executor after : Executor σ} {done : Unit}
    (ran : applyOutcome transaction output executor = .ok done after) :
    ∃ paid, Paid transaction executor.world paid ∧
      applyChanges output.changes output.deleted paid = .ok () after.world ∧
      (transaction.kind.hasSender → sumOfDeltas output.changes = transaction.value.value) := by
  unfold applyOutcome at ran
  dsimp only at ran
  split at ran <;> rename_i sends
  · obtain ⟨_, start, pays, ran⟩ := ok_bind.1 ran
    obtain ⟨_, applied, applies, balanced⟩ := ok_bind.1 ran
    split at balanced
    · simp at balanced
    · rename_i same
      obtain ⟨-, rfl⟩ := ok_pure.1 balanced
      exact ⟨start.world, .sender sends (ok_onWorld pays).1, (ok_onWorld applies).1,
        fun _ => not_not.1 same⟩
  · obtain ⟨_, applied, applies, ended⟩ := ok_bind.1 ran
    obtain ⟨-, rfl⟩ := ok_pure.1 ended
    exact ⟨executor.world, .nobody (by simpa using sends), (ok_onWorld applies).1,
      fun sender => absurd sender sends⟩

/-- What a transaction whose sender was charged did to end well: the sender had enough, what the kind
does was done, the sender paid the value, and what the result asks for was applied. -/
inductive Performed (tx : String) (transaction : Transaction) (world : World) (output : CallOutput) :
    World → Prop
  | intro {middle paid after : World}
      (able : canPay world transaction)
      (enacted : Enacted tx transaction world middle output)
      (pays : Paid transaction middle paid)
      (applies : applyChanges output.changes output.deleted paid = .ok () after)
      (balanced : transaction.kind.hasSender →
        sumOfDeltas output.changes = transaction.value.value) :
      Performed tx transaction world output after

/-- What a transaction that ended well did: its sender was charged, it was performed, and the result was
kept. -/
inductive Completed (tx : String) (transaction : Transaction) (world : World) (output : CallOutput) :
    World → Prop
  | intro {applied : World}
      (performed : Performed tx transaction (world.charged transaction).backup output applied) :
      Completed tx transaction world output applied.commit

section Completed

variable {tx : String} {transaction : Transaction}

theorem performed_of_ok {gas : UInt64} {executor after : Executor Dummy} {output : CallOutput}
    (ran : perform Dummy.machine tx transaction gas executor = .ok output after)
    (succeeded : output.succeeded) :
    Performed tx transaction executor.world output after.world := by
  obtain ⟨_, start, reads, ran⟩ := ok_bind.1 ran
  obtain ⟨rfl, rfl⟩ : executor.world = _ ∧ start = executor := by
    simpa [Run.world, get_bind] using reads
  split at ran
  · rename_i able
    obtain ⟨result, middle, outcomes, ran⟩ := ok_bind.1 ran
    split at ran
    · rename_i good
      obtain ⟨_, applied, applies, ended⟩ := ok_bind.1 ran
      obtain ⟨rfl, rfl⟩ := ok_pure.1 ended
      obtain ⟨paid, pays, changes, balanced⟩ := applied_applyOutcome applies
      exact .intro able (enacted_outcome outcomes good) pays changes balanced
    · obtain ⟨rfl, rfl⟩ := ok_pure.1 ran
      contradiction
  · obtain ⟨rfl, rfl⟩ := ok_pure.1 ran
    simp [CallOutput.succeeded, CallOutput.failure] at succeeded

/-- A transaction is carried out to its end, or undone but for the charge of its sender. -/
theorem transact_ends (executor : Executor Dummy) (tx : String) (transaction : Transaction) :
    (∃ output after, transact Dummy.machine tx transaction executor = .ok output after ∧
      output.succeeded ∧ Completed tx transaction executor.world output after.world) ∨
    ((∀ output after, transact Dummy.machine tx transaction executor = .ok output after →
        output.succeeded = false) ∧
      World.Undone executor.world transaction
        (stateAfter (transact Dummy.machine tx transaction executor)).world) := by
  by_cases missing : executor.world.lacksSender transaction
  · -- a sender that is missing is not charged
    have uncharged : executor.world.charged transaction = executor.world := by
      simp only [lacksSender, Bool.and_eq_true, Option.isNone_iff_eq_none] at missing
      simp only [charged, missing.1, missing.2]
    rw [transact_eq_of_lacksSender missing]
    refine .inr ⟨fun output after ended => ?_, ?_⟩
    · cases ended
    · exact ⟨by rw [uncharged]; rfl, rfl, rfl, rfl, rfl, rfl, rfl⟩
  · have keeps := keeps_perform tx transaction (availableGas transaction)
    have ends : transact Dummy.machine tx transaction executor = _ :=
      (transact_eq missing).trans (bracket_eq keeps _)
    cases ran : perform Dummy.machine tx transaction (availableGas transaction)
        ((executor.withWorld (executor.world.charged transaction)).withWorld
          (executor.world.charged transaction).backup) with
    | error fault after =>
      rw [Executor.world_withWorld, ran] at ends
      rw [ends]
      refine .inr ⟨fun output result ended => ?_, undone_charged (keeps.error ran)⟩
      cases ended
    | ok output after =>
      rw [Executor.world_withWorld, ran] at ends
      by_cases succeeded : output.succeeded
      · simp only [if_pos succeeded] at ends
        exact .inl ⟨output, _, ends, succeeded, .intro (performed_of_ok ran succeeded)⟩
      · simp only [if_neg succeeded] at ends
        rw [ends]
        refine .inr ⟨fun result final ended => ?_, undone_charged (keeps.ok ran)⟩
        cases ended
        simpa using succeeded

end Completed

end Run
end ChainScenario
