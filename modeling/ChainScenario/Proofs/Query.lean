import ChainScenario.Proofs.Atomicity
import ChainScenario.Proofs.BuiltinEffects

/-!
# What queries leave behind

A query runs as a call of a contract by itself and is committed like every other transaction.
`queried?` is the ledger that a query commits, if it commits any.

Main statements:
- `query_readOnly_of_other`: a query of a function that is neither built in nor the upgrade leaves the
  accounts alone.
- `query_readOnly_iff`: any query leaves them alone exactly if what it commits are the accounts from
  before.
-/
namespace ChainScenario

open World

/-! ## What a query commits -/

/-- The ledger behind a built-in function, if the call ends well. -/
def Builtin.behind? (call : Call) (world : World) : Option World :=
  match Builtin.run call world with
  | .ok output after => if output.succeeded then some after else none
  | .error _ _ => none

/-- The ledger once the tokens of a call were moved, if they can be moved. -/
def carried? (call : Call) (world : World) : Option World :=
  if call.input.transfers.isEmpty then some world else Builtin.behind? (Builtin.convert call) world

/-- The ledger once a contract that owns itself has replaced its code, if it owns itself and gives new
code. -/
def selfUpgraded? (call : Call) (world : World) : Option World :=
  match world.account? call.recipient with
  | none => none
  | some contract =>
    let code := call.input.arguments.headD []
    if contract.owner = call.recipient ∧ code ≠ [] then
      some (world.setAccount call.recipient { contract.withCode code with
        balance := contract.balance + call.input.value
        balanceDelta := contract.balanceDelta + call.input.value
        codeMetadata := Dummy.metadataOrDefault ((call.input.arguments.drop 1).headD [])
        owner := call.recipient })
    else none

/-- The ledger behind a call of a contract by itself, if the call ends well: only built-in functions and
upgrades do. -/
def answered? (call : Call) (world : World) : Option World :=
  if Builtin.isBuiltin call.function then Builtin.behind? call world
  else if call.function = upgradeFunction then selfUpgraded? call world
  else none

/-- The ledger that a call of a contract by itself commits, if it commits any: the machine must have been
started and the contract must have code. -/
def queried? (started : Bool) (call : Call) (world : World) : Option World :=
  match world.account? call.recipient with
  | none => none
  | some receiver =>
    if started && !receiver.code.isEmpty then (carried? call world).bind (answered? call)
    else none

/-- Nothing is committed by a call of a function that is neither built in nor the upgrade. -/
theorem queried?_of_other {call : Call} (builtin : ¬Builtin.isBuiltin call.function)
    (upgrade : call.function ≠ upgradeFunction) (started : Bool) (world : World) :
    queried? started call world = none := by
  have unanswered : answered? call = fun _ => none := by
    funext world
    rw [answered?]
    exact (if_neg builtin).trans (if_neg upgrade)
  unfold queried?
  split
  · rfl
  · simp [unanswered]

/-- The call that a query makes. -/
def Run.calledBy (tx : String) (transaction : Transaction) : Call :=
  callOf (queryCall transaction) (transactionHash tx)

/-! ## Changes that a result asks for -/

/-- The accounts once a result is applied, if it ended well and can be applied. -/
def CallOutput.applied? (output : CallOutput) (world : World) : Option Accounts :=
  if output.succeeded then
    match World.applyChanges output.changes output.deleted world with
    | .ok _ after => some after.accounts
    | .error _ _ => none
  else none

namespace CallOutput

theorem applied?_of_plain {output : CallOutput} {world : World}
    (plain : Builtin.Plain output world) : output.applied? world = some world.accounts := by
  have applied : applyChanges output.changes output.deleted world = .ok () world := by
    rw [plain.deleted]
    exact applyChanges_idle plain.idle plain.known
  simp only [applied?, plain.output_succeeded, applied, if_true]

theorem applied?_failure (code : ReturnCode) (message : String) (world : World)
    (failed : code ≠ .ok) : (failure code message).applied? world = none := by
  simp [applied?, succeeded, failure, failed]

end CallOutput

namespace Dummy

theorem applied?_installed {input : CallInput} {address code metadata : Bytes} {world : World}
    {contract : Account} (found : world.account? address = some contract) (given : code ≠ []) :
    (installed input address code metadata).applied? world =
      some (world.setAccount address { contract.withCode code with
        balance := contract.balance + input.value
        balanceDelta := contract.balanceDelta + input.value
        codeMetadata := metadataOrDefault metadata
        owner := input.caller }).accounts := by
  let change : AccountChange := ⟨0, input.value, [], code, metadataOrDefault metadata, input.caller⟩
  have paid : contract.addToBalance change.balanceDelta = .ok { contract with
      balance := contract.balance + input.value
      balanceDelta := contract.balanceDelta + input.value } := by
    have enough : ¬ (contract.balance : Int) + input.value < 0 := by omega
    simp only [Account.addToBalance, change, if_neg enough]
    congr 2
  have installs := applyChange_eq address change world
  rw [accountOrBlank_of_account? found, paid] at installs
  have applied : applyChanges (OrdMap.empty.insert address change) [] world =
      .ok () (world.setAccount address (change.rewrite { contract with
        balance := contract.balance + input.value
        balanceDelta := contract.balanceDelta + input.value })) :=
    bind_ok _ (bind_ok _ installs)
  have rewritten : change.rewrite { contract with
      balance := contract.balance + input.value
      balanceDelta := contract.balanceDelta + input.value } = { contract.withCode code with
        balance := contract.balance + input.value
        balanceDelta := contract.balanceDelta + input.value
        codeMetadata := metadataOrDefault metadata
        owner := input.caller } := by
    simp [AccountChange.rewrite, change, given, Account.withCode]
  rw [rewritten] at applied
  change (match applyChanges (OrdMap.empty.insert address change) [] world with
    | .ok _ after => some after.accounts
    | .error _ _ => none) = _
  rw [applied]

theorem applied?_upgrade (call : Call) (world : World)
    (own : call.input.caller = call.recipient) :
    (upgrade world call).applied? world = (selfUpgraded? call world).map (·.accounts) := by
  unfold upgrade selfUpgraded?
  cases found : world.account? call.recipient with
  | none => exact CallOutput.applied?_failure .contractNotFound _ _ (by decide)
  | some contract =>
    dsimp only
    generalize call.input.arguments.headD [] = code
    generalize (call.input.arguments.drop 1).headD [] = metadata
    rw [own]
    by_cases owner : contract.owner = call.recipient
    · by_cases given : code = []
      · simp [owner, given, CallOutput.applied?_failure]
      · simp [owner, given, applied?_installed found given, own]
    · simp [owner, CallOutput.applied?_failure]

end Dummy

/-! ## The whole query -/

namespace Run

variable {σ : Type}

/-- The accounts that a result leaves if it ended well. -/
def accounts? : EStateM.Result Fault (Executor σ) CallOutput → Option Accounts
  | .ok output after => if output.succeeded then some after.world.accounts else none
  | .error _ _ => none

/-- The accounts once what a result asks for is applied, if it ended well. -/
def applied? : EStateM.Result Fault (Executor σ) CallOutput → Option Accounts
  | .ok output after => output.applied? after.world
  | .error _ _ => none

private theorem printGas_ok (tx description : String) (given : UInt64) (output : CallOutput)
    (executor : Executor σ) :
    ∃ after, printGas tx description given output executor = .ok () after ∧
      after.world = executor.world := by
  rw [printGas, get_bind]
  split
  · exact ⟨_, rfl, rfl⟩
  · exact ⟨_, rfl, rfl⟩

private theorem accounts?_finish {transaction : Transaction} {output : CallOutput}
    (senderless : transaction.kind.hasSender = false) (executor : Executor σ) :
    accounts? ((if output.succeeded then
        applyOutcome transaction output >>= fun _ => pure output else pure output) executor) =
      output.applied? executor.world := by
  by_cases succeeded : output.succeeded
  · have only : applyOutcome (σ := σ) transaction output =
        (onWorld (applyChanges output.changes output.deleted) .ledger >>= fun _ => pure ()) := by
      simp only [applyOutcome, senderless]
      rfl
    rw [if_pos succeeded, only]
    simp only [CallOutput.applied?, if_pos succeeded]
    cases applied : applyChanges output.changes output.deleted executor.world with
    | ok done after =>
      have applies : (onWorld (applyChanges output.changes output.deleted) .ledger >>= fun _ =>
          pure ()) executor = .ok () (executor.withWorld after) :=
        bind_ok _ (onWorld_ok .ledger applied)
      have ended := bind_ok (fun _ => pure output) applies
      exact (congrArg accounts? ended).trans (if_pos succeeded)
    | error fault after =>
      have applies : (onWorld (applyChanges output.changes output.deleted) .ledger >>= fun _ =>
          pure ()) executor = .error (.ledger fault) (executor.withWorld after) :=
        bind_error _ (onWorld_error .ledger applied)
      exact congrArg accounts? (bind_error (fun _ => pure output) applies)
  · rw [if_neg succeeded]
    simp only [CallOutput.applied?, if_neg succeeded]
    exact if_neg succeeded

private theorem accounts?_perform (tx : String) {transaction : Transaction} (gas : UInt64)
    (kind : transaction.kind = .query) (executor : Executor Dummy) :
    accounts? (perform Dummy.machine tx transaction gas executor) =
      applied? (callContract Dummy.machine tx (queryCall transaction) executor) := by
  have senderless : transaction.kind.hasSender = false := by rw [kind]; rfl
  have pays : canPay executor.world transaction = true := by simp [canPay, senderless]
  have opens : (world : Run Dummy World) executor = .ok executor.world executor := rfl
  rw [perform, bind_ok _ opens, if_pos pays]
  -- The printed trace stands between the call and its changes, and touches neither.
  cases called : callContract Dummy.machine tx (queryCall transaction) executor with
  | error fault after =>
    have failed : outcome Dummy.machine tx transaction gas executor = .error fault after := by
      simp only [outcome, kind]
      exact bind_error _ called
    rw [bind_error _ failed]
    rfl
  | ok output after =>
    obtain ⟨printed, prints, same⟩ := printGas_ok tx s!"ScCall, function: {transaction.function}"
      queryGas output after
    have ended : outcome Dummy.machine tx transaction gas executor = .ok output printed := by
      simp only [outcome, kind]
      exact (bind_ok _ called).trans (bind_ok _ prints)
    rw [bind_ok _ ended]
    change _ = output.applied? after.world
    rw [← same]
    exact accounts?_finish senderless printed

private theorem applied?_call {call : Call} (own : call.input.caller = call.recipient)
    {executor : Executor Dummy} (started : executor.started) :
    applied? (onStarted (Dummy.machine.call call) executor) =
      (answered? call executor.world).map (·.accounts) := by
  change applied? (onStarted (Dummy.call call) executor) = _
  have records : (Machine.Action.onState (Dummy.record call.recipient call.function) :
      Machine.Action Dummy Unit) (executor.machine, executor.world) =
      .ok () (Dummy.record call.recipient call.function executor.machine, executor.world) := rfl
  rw [onStarted, if_pos started, Dummy.call, bind_ok _ records, answered?]
  by_cases builtin : Builtin.isBuiltin call.function
  · rw [if_pos builtin, if_pos builtin]
    simp only [Machine.Action.onWorld, Builtin.behind?]
    cases ran : Builtin.run call executor.world with
    | error fault after => rfl
    | ok output after =>
      by_cases succeeded : output.succeeded
      -- what a built-in function asks for is applied to a ledger that has it already
      · obtain ⟨_, -, -, plain⟩ := Builtin.effect_of_run ran succeeded
        simp only [applied?, if_pos succeeded, CallOutput.applied?_of_plain plain]
        rfl
      · simp only [applied?, CallOutput.applied?, if_neg succeeded]
        rfl
  · rw [if_neg builtin, if_neg builtin]
    by_cases upgrades : call.function = upgradeFunction
    · rw [if_pos upgrades, if_pos upgrades]
      exact Dummy.applied?_upgrade call executor.world own
    · rw [if_neg upgrades, if_neg upgrades]
      exact CallOutput.applied?_failure .contractInvalid _ _ (by decide)

private theorem applied?_unstarted {call : Call} {executor : Executor Dummy}
    (stopped : ¬executor.started) :
    applied? (onStarted (Dummy.machine.call call) executor) = none := by
  rw [onStarted, if_neg stopped]
  rfl

private theorem moveTokens_behind (call : Call) (executor : Executor σ) :
    match Builtin.behind? (Builtin.convert call) executor.world with
    | some after => ∃ output, moveTokens call executor = .ok output (executor.withWorld after)
    | none => ∃ fault after, moveTokens call executor = .error fault after := by
  unfold Builtin.behind?
  -- A movement that does not end well is thrown, and then there is nothing to commit.
  cases ran : Builtin.run (Builtin.convert call) executor.world with
  | error fault after =>
    exact ⟨_, _, bind_error _ (onWorld_error .ledger ran)⟩
  | ok output after =>
    have judged := bind_ok (fun output : CallOutput =>
      if output.succeeded then pure output
      else throw (.transferFailed (Builtin.convert call).function output.returnCode
        output.message)) (onWorld_ok .ledger ran)
    by_cases succeeded : output.succeeded
    · simp only [if_pos succeeded] at judged ⊢
      exact ⟨output, judged⟩
    · simp only [if_neg succeeded] at judged ⊢
      exact ⟨_, _, judged⟩

private theorem applied?_carry {call : Call} (own : call.input.caller = call.recipient)
    (executor : Executor Dummy) :
    applied? ((if !call.input.transfers.isEmpty then
        moveTokens call >>= fun _ => onStarted (Dummy.machine.call call)
        else onStarted (Dummy.machine.call call)) executor) =
      (if executor.started then (carried? call executor.world).bind (answered? call)
        else none).map (·.accounts) := by
  by_cases bare : call.input.transfers.isEmpty
  · simp only [bare, Bool.not_true, Bool.false_eq_true, if_false, carried?, if_true]
    by_cases started : executor.started
    · rw [if_pos started]
      exact applied?_call own started
    · rw [if_neg started]
      exact applied?_unstarted started
  -- the tokens are moved first, by a call of a built-in function of their own
  · simp only [bare, Bool.not_false, if_true, carried?]
    have moves := moveTokens_behind call executor
    cases moved : Builtin.behind? (Builtin.convert call) executor.world with
    | none =>
      rw [moved] at moves
      obtain ⟨fault, after, stuck⟩ := moves
      rw [bind_error _ stuck]
      split <;> rfl
    | some after =>
      rw [moved] at moves
      obtain ⟨output, moves⟩ := moves
      rw [bind_ok _ moves]
      by_cases started : executor.started
      · rw [if_pos started]
        exact applied?_call own started
      · rw [if_neg started]
        exact applied?_unstarted started

/-- What a query leaves when what it asks for is applied is what `queried?` says. -/
private theorem applied?_callContract (tx : String) (transaction : Transaction)
    (executor : Executor Dummy) :
    applied? (callContract Dummy.machine tx (queryCall transaction) executor) =
      (queried? executor.started (calledBy tx transaction) executor.world).map (·.accounts) := by
  have opens : (world : Run Dummy World) executor = .ok executor.world executor := rfl
  -- The call goes to the receiver of the transaction, whose account is looked up first.
  simp only [queried?]
  change _ = (match executor.world.account? transaction.receiver.value with
    | none => none
    | some receiver => _ : Option World).map _
  cases found : executor.world.account? transaction.receiver.value with
  | none =>
    have missing : receiverOf (queryCall transaction) executor =
        .error (.receiverMissing transaction.receiver.value) executor := by
      refine (bind_ok _ opens).trans ?_
      simp only [queryCall, found]
      rfl
    rw [callContract, bind_error _ missing]
    rfl
  | some receiver =>
    have receives : receiverOf (queryCall transaction) executor = .ok receiver executor := by
      refine (bind_ok _ opens).trans ?_
      simp only [queryCall, found]
      rfl
    rw [callContract, bind_ok _ receives]
    by_cases empty : receiver.code.isEmpty
    · simp only [empty, Bool.not_true, Bool.and_false, Bool.false_eq_true, if_true, if_false]
      rfl
    · simp only [empty, Bool.not_false, Bool.and_true]
      have own : (calledBy tx transaction).input.caller = (calledBy tx transaction).recipient := rfl
      exact applied?_carry own executor

/-- The accounts after a query are those that it commits, if it commits any, and those from before
otherwise. -/
theorem accounts_transact_query {tx : String} {transaction : Transaction} (executor : Executor Dummy)
    (query : transaction.kind = .query) :
    (stateAfter (transact Dummy.machine tx transaction executor)).world.accounts =
      match queried? executor.started (calledBy tx transaction) executor.world.backup with
      | some left => left.commit.accounts
      | none => executor.world.accounts := by
  have senderless : transaction.kind.hasSender = false := by rw [query]; rfl
  have present : ¬ executor.world.lacksSender transaction := by simp [lacksSender, senderless]
  -- Nobody pays for a query, so the bracket opens on the ledger as it is.
  have free : executor.world.charged transaction = executor.world := by
    simp [charged, senderless]
  have same := accounts?_perform tx (availableGas transaction) query
    (executor.withWorld executor.world.backup)
  rw [applied?_callContract] at same
  change _ = (queried? executor.started (calledBy tx transaction) executor.world.backup).map _ at same
  -- What the bracket commits is what `accounts?_perform` says; what it undoes is the copy.
  rw [transact_eq present, free, Executor.withWorld_world, bracket_eq (keeps_perform _ _ _)]
  cases ran : perform Dummy.machine tx transaction (availableGas transaction)
      (executor.withWorld executor.world.backup) with
  | error fault after =>
    rw [ran] at same
    cases left : queried? executor.started (calledBy tx transaction) executor.world.backup with
    | none => rfl
    | some world => simp [left, accounts?] at same
  | ok output after =>
    rw [ran] at same
    by_cases succeeded : output.succeeded
    · cases left : queried? executor.started (calledBy tx transaction) executor.world.backup with
      | none => simp [left, accounts?, succeeded] at same
      | some world =>
        simp only [left, accounts?, if_pos succeeded, Option.map_some, Option.some.injEq] at same
        simp only [if_pos succeeded, stateAfter, Executor.world_withWorld, commit, same]
    · cases left : queried? executor.started (calledBy tx transaction) executor.world.backup with
      | none => simp only [if_neg succeeded]; rfl
      | some world => simp [left, accounts?, succeeded] at same

/-- A query of a function that is neither built in nor the upgrade leaves the accounts alone. -/
theorem query_readOnly_of_other {tx : String} {transaction : Transaction} (executor : Executor Dummy)
    (query : transaction.kind = .query) (builtin : ¬Builtin.isBuiltin transaction.function)
    (upgrade : transaction.function ≠ upgradeFunction) :
    (stateAfter (transact Dummy.machine tx transaction executor)).world.accounts =
      executor.world.accounts := by
  have nothing : queried? executor.started (calledBy tx transaction) executor.world.backup = none :=
    queried?_of_other builtin upgrade _ _
  rw [accounts_transact_query executor query, nothing]

/-- A query leaves the accounts alone exactly if it commits nothing, as one of a function that is neither
built in nor the upgrade (`query_readOnly_of_other`), or the accounts from before. -/
theorem query_readOnly_iff {tx : String} {transaction : Transaction} (executor : Executor Dummy)
    (query : transaction.kind = .query) :
    (stateAfter (transact Dummy.machine tx transaction executor)).world.accounts =
        executor.world.accounts ↔
      ∀ left, queried? executor.started (calledBy tx transaction) executor.world.backup = some left →
        left.commit.accounts = executor.world.accounts := by
  rw [accounts_transact_query executor query]
  cases queried? executor.started (calledBy tx transaction) executor.world.backup with
  | none => simp
  | some left => simp

/-- A contract for queries. -/
def counter : Account :=
  { Account.blank (List.replicate 10 0 ++ Utf8.ofString "counter_______________") with
    code := Utf8.ofString "code"
    owner := Utf8.ofString "owner___________________________" }

/-- A query of the contract. -/
def counterQuery (function : String) (arguments : List Bytes) : Transaction :=
  { Transaction.blank .query with
    receiver := .implied counter.address
    function := function
    arguments := arguments.map .implied }

/-- A query of a function that the contract does not have leaves the accounts alone. -/
theorem query_readOnly_get :
    (counterQuery "get" []).kind = .query ∧
      (stateAfter (transact Dummy.machine "read" (counterQuery "get" []) (.alone counter))).world.accounts =
        (Executor.alone counter).world.accounts :=
  ⟨rfl, (query_readOnly_iff (.alone counter) rfl).2 fun left leaves => by
    have builtin : ¬Builtin.isBuiltin (calledBy "read" (counterQuery "get" [])).function := by decide
    rw [queried?_of_other builtin (by decide)] at leaves
    cases leaves⟩

/-- A contract that is asked to store a value under a key stores it. -/
theorem query_not_readOnly :
    ¬∀ (executor : Executor Dummy) (tx : String) (transaction : Transaction),
      transaction.kind = .query →
        (stateAfter (transact Dummy.machine tx transaction executor)).world.accounts =
          executor.world.accounts := by
  intro readOnly
  have same := readOnly (.alone counter) "read"
    (counterQuery "SaveKeyValue" [Utf8.ofString "key", Utf8.ofString "value"]) rfl
  have stored := congrArg (fun accounts : Accounts =>
    (accounts.get? counter.address).map (·.stored (Utf8.ofString "key"))) same
  revert stored
  decide +kernel

end Run
end ChainScenario
