import ChainScenario.Proofs.Accounts
import ChainScenario.Proofs.Snapshots

/-!
# Transactions happen as a whole or not at all

A transaction works on a copy of the accounts. Main statement: `transact_atomic`, a transaction that
does not end well leaves the ledger as it was once the sender had paid, one without a sender that
exists leaves it as it was, and one that ends well leaves nothing pending.
-/
namespace ChainScenario

/-- The ledger once the sender of a transaction was charged: its nonce is one higher, and the gas is
paid if the balance covers it. -/
def World.charged (world : World) (transaction : Transaction) : World :=
  let gas := transaction.gasLimit.value.toNat * transaction.gasPrice.value.toNat
  match transaction.kind.hasSender, world.account? transaction.sender.value with
  | true, some sender => world.setAccount transaction.sender.value { sender with
      nonce := sender.nonce + 1
      balance := if gas ≤ sender.balance then sender.balance - gas else sender.balance }
  | _, _ => world

/-- A transaction must have a sender, and there is none. -/
def World.lacksSender (world : World) (transaction : Transaction) : Bool :=
  transaction.kind.hasSender && (world.account? transaction.sender.value).isNone

/-- A ledger is what it was when the sender was charged, but for the address of the last deployment. -/
structure World.Undone (start : World) (transaction : Transaction) (after : World) : Prop where
  accounts : after.accounts = (start.charged transaction).accounts
  snapshots : after.snapshots = start.snapshots
  previousBlock : after.previousBlock = start.previousBlock
  currentBlock : after.currentBlock = start.currentBlock
  blockHashes : after.blockHashes = start.blockHashes
  mocks : after.mocks = start.mocks
  builtinCosts : after.builtinCosts = start.builtinCosts

/-- No snapshot is left and no change of a balance is pending. -/
structure World.Settled (world : World) : Prop where
  snapshots : world.snapshots = []
  deltas : ∀ address account, world.account? address = some account → account.balanceDelta = 0

namespace World

theorem context_charged (world : World) (transaction : Transaction) :
    (world.charged transaction).context = world.context := by
  simp only [charged]
  split <;> rfl

theorem account?_commit (world : World) (address : Bytes) : world.commit.account? address =
    (world.account? address).map fun account => { account with balanceDelta := 0 } :=
  OrdMap.get?_mapValues _ _ _

theorem settled_commit (world : World) : world.commit.Settled where
  snapshots := rfl
  deltas address account found := by
    rw [account?_commit, Option.map_eq_some_iff] at found
    obtain ⟨before, -, rfl⟩ := found
    rfl

theorem rollback_of_snapshots {world : World} {older : List Accounts} {copy : Accounts}
    (top : world.snapshots = older ++ [copy]) :
    rollback world = .ok () { world with accounts := copy, snapshots := older } := by
  have retained : Retains older copy world := by
    simp [Retains, top]
  -- The rollback goes to the length of the journal, which is the number of older snapshots.
  have latest : world.journalLength = older.length := by
    simp [journalLength, top]
  rw [rollback_eq, latest]
  exact retained.revert_eq

end World

namespace Run

open World

variable {σ : Type}

/-- A run with a started machine whose ledger has a single account. -/
def Executor.alone (account : Account) : Executor Dummy :=
  { Executor.new Dummy.machine with
    world := .alone account
    started := true }

/-! ## The bracket around a transaction -/

/-- The ledger of an executor gone back to the accounts and snapshots of another one. -/
def Executor.undone (executor : Executor σ) (start : World) : Executor σ :=
  executor.withWorld { executor.world with
    accounts := start.accounts
    snapshots := start.snapshots }

/-- The context of the ledger of an executor. -/
def Executor.context (executor : Executor σ) : World.Context := executor.world.context

private theorem rollback_eq {executor : Executor σ} {start : World}
    (kept : executor.context = start.backup.context) :
    rollback executor = .ok () (executor.undone start) := by
  have top : executor.world.snapshots = start.snapshots ++ [start.accounts] :=
    congrArg World.Context.snapshots kept
  exact onWorld_ok _ (rollback_of_snapshots top)

/-- An action that leaves the context alone is committed, or undone with all its writes. -/
theorem bracket_eq {action : Run σ CallOutput} (keeps : Keeps Executor.context action)
    (executor : Executor σ) :
    bracket action executor =
      match action (executor.withWorld executor.world.backup) with
      | .ok output after =>
        .ok output (if output.succeeded then after.withWorld after.world.commit
          else after.undone executor.world)
      | .error fault after => .error fault (after.undone executor.world) := by
  have copied : onWorld (ε := World.Fault) (modify World.backup) .ledger executor =
      .ok () (executor.withWorld executor.world.backup) := rfl
  rw [bracket, bind_ok _ copied]
  -- The action runs on the copy; that it keeps the context is what lets the rollback find it again.
  cases ran : action (executor.withWorld executor.world.backup) with
  | ok output after =>
    have ended : attempt action (executor.withWorld executor.world.backup) =
        .ok (.ok output) after := by simp [attempt, ran]
    rw [bind_ok _ ended]
    dsimp only
    by_cases succeeded : output.succeeded
    · rw [if_pos succeeded, if_pos succeeded]
      rfl
    · rw [if_neg succeeded, if_neg succeeded, bind_ok _ (rollback_eq (keeps.ok ran))]
      rfl
  | error fault after =>
    have ended : attempt action (executor.withWorld executor.world.backup) =
        .ok (.error fault) after := by simp [attempt, ran]
    rw [bind_ok _ ended]
    dsimp only
    rw [bind_ok _ (rollback_eq (keeps.error ran))]
    rfl

/-! ## What runs inside the bracket -/

theorem keeps_printGas (tx description : String) (given : UInt64) (output : CallOutput) :
    Keeps Executor.world (printGas tx description given output : Run σ Unit) := by
  refine keeps_get.bind fun executor => ?_
  split
  · exact keeps_modify fun _ => rfl
  · exact keeps_pure _

/-- What is printed behind an action changes neither its result nor the ledger. -/
theorem ok_printed {action : Run σ CallOutput} {tx description : String} {given : UInt64}
    {executor after : Executor σ} {output : CallOutput}
    (ran : (action >>= fun output => printGas tx description given output >>= fun _ => pure output)
      executor = .ok output after) :
    ∃ middle, action executor = .ok output middle ∧ after.world = middle.world := by
  obtain ⟨result, middle, acted, rest⟩ := ok_bind.1 ran
  obtain ⟨_, printed, prints, ended⟩ := ok_bind.1 rest
  obtain ⟨rfl, rfl⟩ := ok_pure.1 ended
  exact ⟨middle, acted, (keeps_printGas _ _ _ _).ok prints⟩

theorem keeps_receiverOf {τ : Type} {view : Executor σ → τ} (transaction : Transaction) :
    Keeps view (receiverOf transaction : Run σ Account) := by
  refine (keeps_get.bind fun _ => keeps_pure _).bind fun world => ?_
  split
  · exact keeps_pure _
  · exact keeps_throw _

private theorem keeps_moveTokens (call : Call) :
    Keeps Executor.context (moveTokens call : Run σ CallOutput) := by
  -- A call that ended badly is thrown, but what it wrote stays until the rollback.
  refine (keeps_onWorld (Builtin.keeps_run _) _).bind fun output => ?_
  split
  · exact keeps_pure _
  · exact keeps_throw _

private theorem keeps_callContract (tx : String) (transaction : Transaction) :
    Keeps Executor.context (callContract Dummy.machine tx transaction) := by
  refine (keeps_receiverOf transaction).bind fun receiver => ?_
  have called := keeps_onStarted (Dummy.keeps_call (callOf transaction (transactionHash tx)))
  split
  · exact keeps_throw _
  · dsimp only
    split
    · exact (keeps_moveTokens _).bind fun _ => called
    · exact called

private theorem keeps_printed {tx description : String} {given : UInt64}
    {action : Run σ CallOutput} (keeps : Keeps Executor.context action) :
    Keeps Executor.context (action >>= fun output =>
      printGas tx description given output >>= fun _ => pure output) := by
  refine keeps.bind fun output => ?_
  exact ((keeps_printGas _ _ _ _).comp World.context).bind fun _ => keeps_pure _

private theorem keeps_outcome (tx : String) (transaction : Transaction) (gas : UInt64) :
    Keeps Executor.context (outcome Dummy.machine tx transaction gas) := by
  unfold outcome
  split
  · exact keeps_printed (keeps_onStarted (Dummy.keeps_create _))
  · exact keeps_callContract _ _
  · exact keeps_printed (keeps_callContract _ _)
  · exact keeps_printed (keeps_callContract _ _)
  · split
    · exact keeps_pure _
    · exact keeps_moveTokens _
  · exact (keeps_receiverOf _).bind fun _ => keeps_pure _

private theorem keeps_applyOutcome (transaction : Transaction) (output : CallOutput) :
    Keeps Executor.context (applyOutcome transaction output : Run σ Unit) := by
  have applied := keeps_onWorld (σ := σ) (keeps_applyChanges output.changes output.deleted) .ledger
  have paid := keeps_onWorld (σ := σ)
    (keeps_updateBalance transaction.sender.value (-transaction.value.value)) .ledger
  unfold applyOutcome
  dsimp only
  split
  -- The sum of the changes is checked last, when everything has been applied.
  · refine paid.bind fun _ => applied.bind fun _ => ?_
    split
    · exact keeps_throw _
    · exact keeps_pure _
  · exact applied.bind fun _ => keeps_pure _

/-- Whatever a transaction does before it is committed or undone, it leaves the context alone. -/
theorem keeps_perform (tx : String) (transaction : Transaction) (gas : UInt64) :
    Keeps Executor.context (perform Dummy.machine tx transaction gas) := by
  refine (keeps_get.bind fun _ => keeps_pure _).bind fun world => ?_
  split
  · refine (keeps_outcome _ _ _).bind fun output => ?_
    split
    · exact (keeps_applyOutcome _ _).bind fun _ => keeps_pure _
    · exact keeps_pure _
  · exact keeps_pure _

/-! ## Whole transactions -/

/-- The gas a transaction may use. -/
def availableGas (transaction : Transaction) : UInt64 :=
  if transaction.kind.hasSender then transaction.gasLimit.value else 0

theorem transact_eq_of_lacksSender {tx : String} {transaction : Transaction} {machine : Machine σ}
    {executor : Executor σ} (missing : executor.world.lacksSender transaction) :
    transact machine tx transaction executor =
      .error (.cannotCharge tx (.senderNotFound transaction.sender.value)) executor := by
  simp only [lacksSender, Bool.and_eq_true, Option.isNone_iff_eq_none] at missing
  -- Nothing is written before the sender is looked up.
  have refused : onWorld (World.chargeSender transaction.sender.value transaction.gasLimit.value
      transaction.gasPrice.value) (.cannotCharge tx) executor =
      .error (.cannotCharge tx (.senderNotFound transaction.sender.value)) executor := by
    simp only [onWorld, chargeSender, get_bind, missing.2]
    rfl
  simp only [transact, missing.1, ↓reduceIte]
  exact bind_error _ refused

theorem not_lacksSender_of_ok {tx : String} {transaction : Transaction} {machine : Machine σ}
    {executor after : Executor σ} {output : CallOutput}
    (ran : transact machine tx transaction executor = .ok output after) :
    ¬executor.world.lacksSender transaction := by
  intro missing
  rw [transact_eq_of_lacksSender missing] at ran
  cases ran

/-- Who sends a transaction that is not refused is in the ledger. -/
theorem exists_sender_of_ok {tx : String} {transaction : Transaction} {machine : Machine σ}
    {executor after : Executor σ} {output : CallOutput}
    (ran : transact machine tx transaction executor = .ok output after)
    (sends : transaction.kind.hasSender) :
    ∃ sender, executor.world.account? transaction.sender.value = some sender := by
  refine Option.isSome_iff_exists.1 ?_
  by_contra missing
  exact not_lacksSender_of_ok ran (by simp_all [lacksSender])

theorem transact_eq {tx : String} {transaction : Transaction} {machine : Machine σ}
    {executor : Executor σ} (present : ¬ executor.world.lacksSender transaction) :
    transact machine tx transaction executor =
      bracket (perform machine tx transaction (availableGas transaction))
        (executor.withWorld (executor.world.charged transaction)) := by
  cases sends : transaction.kind.hasSender with
  | false => simp [transact, availableGas, charged, sends, Executor.withWorld]
  | true =>
    cases found : executor.world.account? transaction.sender.value with
    | none => simp [lacksSender, sends, found] at present
    | some sender =>
      have paid : onWorld (World.chargeSender transaction.sender.value transaction.gasLimit.value
          transaction.gasPrice.value) (.cannotCharge tx) executor =
          .ok () (executor.withWorld (executor.world.charged transaction)) := by
        simp only [onWorld, chargeSender, get_bind, found, charged, sends]
        rfl
      simp only [transact, sends, ↓reduceIte, availableGas]
      exact bind_ok _ paid

theorem undone_charged {executor after : Executor σ} {transaction : Transaction}
    (kept : after.context =
      ((executor.withWorld (executor.world.charged transaction)).withWorld
        (executor.world.charged transaction).backup).context) :
    World.Undone executor.world transaction
      (after.undone (executor.world.charged transaction)).world := by
  -- The rollback restores the accounts; all else is part of the context, which nobody changed.
  have same := context_charged executor.world transaction
  exact ⟨rfl, congrArg Context.snapshots same,
    (congrArg Context.previousBlock kept).trans (congrArg Context.previousBlock same),
    (congrArg Context.currentBlock kept).trans (congrArg Context.currentBlock same),
    (congrArg Context.blockHashes kept).trans (congrArg Context.blockHashes same),
    (congrArg Context.mocks kept).trans (congrArg Context.mocks same),
    (congrArg Context.builtinCosts kept).trans (congrArg Context.builtinCosts same)⟩

/-- A transaction is all or nothing. Without its sender it fails and leaves the ledger as it was. If
it fails otherwise or ends with another code than success, only the charge of the sender remains. If
it ends well, no snapshot is left and no change of a balance is pending. -/
theorem transact_atomic (executor : Executor Dummy) (tx : String) (transaction : Transaction) :
    match transact Dummy.machine tx transaction executor with
    | .ok output after =>
      executor.world.lacksSender transaction = false ∧
        if output.succeeded then after.world.Settled
        else World.Undone executor.world transaction after.world
    | .error fault after =>
      if executor.world.lacksSender transaction then
        fault = .cannotCharge tx (.senderNotFound transaction.sender.value) ∧
          after.world = executor.world
      else World.Undone executor.world transaction after.world := by
  by_cases missing : executor.world.lacksSender transaction
  · simp only [transact_eq_of_lacksSender missing, missing, ↓reduceIte, and_self]
  · have keeps := keeps_perform tx transaction (availableGas transaction)
    rw [transact_eq missing, bracket_eq keeps, Executor.world_withWorld]
    cases ran : perform Dummy.machine tx transaction (availableGas transaction)
        ((executor.withWorld (executor.world.charged transaction)).withWorld
          (executor.world.charged transaction).backup) with
    | ok output after =>
      have undone := undone_charged (keeps.ok ran)
      refine ⟨by simpa using missing, ?_⟩
      by_cases succeeded : output.succeeded
      · simp only [if_pos succeeded]
        exact settled_commit after.world
      · simpa only [if_neg succeeded] using undone
    | error fault after =>
      have undone := undone_charged (keeps.error ran)
      simpa only [if_neg missing] using undone

end Run
end ChainScenario
