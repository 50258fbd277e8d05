import ChainScenario.Machine.Dummy
import ChainScenario.Proofs.Action
import ChainScenario.Run.Transaction

/-!
# What transactions leave alone

All of a ledger but its accounts and the address of the last deployment is its context. No operation
that runs inside a transaction changes the context, whether it ends well or not.
-/
namespace ChainScenario

/-- All of a ledger that does not change inside a transaction. -/
structure World.Context where
  snapshots : List Accounts
  previousBlock : Option Block
  currentBlock : Option Block
  blockHashes : List Bytes
  mocks : List DeploymentMock
  builtinCosts : Option (OrdMap String UInt64)
  vmType : Bytes

/-- The context of a ledger. -/
def World.context (world : World) : World.Context :=
  ⟨world.snapshots, world.previousBlock, world.currentBlock, world.blockHashes, world.mocks,
    world.builtinCosts, world.vmType⟩

namespace World

/-! ## Operations of the ledger -/

private theorem keeps_ofExcept {α : Type} (result : Except World.Fault α) :
    Keeps context (Action.ofExcept result) := by
  unfold Action.ofExcept
  split
  · exact keeps_pure _
  · exact keeps_throw _

theorem keeps_applyChange (address : Bytes) (change : AccountChange) :
    Keeps context (applyChange address change) := by
  -- Both writes are to the accounts, which the context leaves out.
  refine (keeps_modify ?_).bind fun _ => keeps_get.bind fun _ => (keeps_ofExcept _).bind fun _ =>
    keeps_modify ?_
  · exact fun _ => rfl
  · exact fun _ => rfl

private theorem context_deleteAll (deleted : List Bytes) (world : World) :
    (deleted.foldl deleteAccount world).context = world.context := by
  induction deleted generalizing world with
  | nil => rfl
  | cons address rest ih => exact ih (world.deleteAccount address)

theorem keeps_applyChanges (changes : OrdMap Bytes AccountChange) (deleted : List Bytes) :
    Keeps context (applyChanges changes deleted) :=
  (keeps_forM fun entry _ => keeps_applyChange entry.1 entry.2).bind fun _ =>
    keeps_modify (context_deleteAll deleted)

theorem keeps_updateBalance (address : Bytes) (delta : Int) :
    Keeps context (updateBalance address delta) := by
  refine keeps_get.bind fun world => ?_
  split
  · exact (keeps_ofExcept _).bind fun _ => keeps_modify fun _ => rfl
  · exact keeps_throw _

theorem keeps_createAddress (creator : Bytes) (nonce : UInt64) :
    Keeps context (createAddress creator nonce) := by
  refine keeps_get.bind fun _ => (keeps_modify ?_).bind fun _ => keeps_pure _
  exact fun _ => rfl

end World

/-! ## Built-in functions -/

namespace Builtin

open Builtin.Action World

/-! Operations that only read keep every view of the ledger. -/

section Reading

variable {τ : Type} {view : World → τ}

theorem keeps_refuse {α : Type} (refusal : Refusal) : Keeps view (refuse refusal : Action α) :=
  keeps_throw _

theorem keeps_demand (condition : Bool) (refusal : Refusal) :
    Keeps view (demand condition refusal) := by
  unfold demand
  split
  · exact keeps_pure _
  · exact keeps_refuse _

theorem keeps_need {α : Type} (value : Option α) (refusal : Refusal) :
    Keeps view (need value refusal) := by
  unfold need
  split
  · exact keeps_pure _
  · exact keeps_refuse _

theorem keeps_stored {α : Type} (result : Except Token.Fault α) :
    Keeps view (Action.stored result) := by
  unfold Action.stored
  split
  · exact keeps_pure _
  · exact keeps_throw _

theorem keeps_positive (bytes : Bytes) : Keeps view (positive bytes) :=
  (keeps_demand _ _).bind fun _ => keeps_pure _

theorem keeps_demandRole (holder token : Bytes) (role : Role) :
    Keeps view (demandRole holder token role) := by
  refine keeps_get.bind fun world => ?_
  split
  · exact (keeps_stored _).bind fun _ => keeps_demand _ _
  · exact keeps_refuse _

theorem keeps_ownInstance (call : Call) (role : Role) : Keeps view (ownInstance call role) := by
  refine (keeps_demand _ _).bind fun _ => ?_
  split
  · exact (keeps_demandRole _ _ _).bind fun _ => keeps_get.bind fun _ => (keeps_need _ _).bind fun _ =>
      (keeps_stored _).bind fun _ => (keeps_need _ _).bind fun _ => keeps_pure _
  · exact keeps_refuse _

theorem keeps_ownContract (call : Call) : Keeps view (ownContract call) :=
  (keeps_demand _ _).bind fun _ => keeps_get.bind fun _ => (keeps_need _ _).bind fun _ =>
    (keeps_demand _ _).bind fun _ => keeps_pure _

end Reading

/-! Operations that write keep the context. -/

theorem keeps_put (address : Bytes) (account : Account) : Keeps context (put address account) :=
  keeps_modify fun _ => rfl

theorem keeps_moveTokens (source destination token : Bytes) (nonce : UInt64) (value : Nat) :
    Keeps context (moveTokens source destination token nonce value) :=
  (keeps_demand _ _).bind fun _ => keeps_get.bind fun _ => (keeps_need _ _).bind fun _ =>
    (keeps_stored _).bind fun _ => (keeps_need _ _).bind fun _ => (keeps_demand _ _).bind fun _ =>
      (keeps_demand _ _).bind fun _ => (keeps_put _ _).bind fun _ => keeps_get.bind fun _ =>
        (keeps_stored _).bind fun _ => keeps_put _ _

theorem keeps_moveCurrency (source destination : Bytes) (value : Nat) :
    Keeps context (moveCurrency source destination value) := by
  refine (keeps_demand _ _).bind fun _ => keeps_get.bind fun _ => (keeps_need _ _).bind fun _ => ?_
  split
  · exact keeps_refuse _
  · exact (keeps_put _ _).bind fun _ => keeps_get.bind fun _ => keeps_put _ _

theorem keeps_moveAny (source destination token : Bytes) (nonce : UInt64) (value : Nat) :
    Keeps context (moveAny source destination token nonce value) := by
  unfold moveAny
  split
  · exact keeps_moveCurrency _ _ _
  · exact keeps_moveTokens _ _ _ _ _

theorem keeps_movements (call : Call) (destination : Bytes)
    (listed : List (Bytes × Bytes × Bytes)) :
    Keeps context (movements call destination listed) := by
  induction listed with
  | nil => exact keeps_pure _
  | cons first rest ih =>
    exact (keeps_positive _).bind fun _ => (keeps_moveAny _ _ _ _ _).bind fun _ => ih.bind fun _ =>
      keeps_pure _

theorem keeps_burnFrom (holder token : Bytes) (nonce : UInt64) (value : Nat) :
    Keeps context (burnFrom holder token nonce value) :=
  keeps_get.bind fun _ => (keeps_need _ _).bind fun _ => (keeps_stored _).bind fun _ =>
    (keeps_need _ _).bind fun _ => (keeps_demand _ _).bind fun _ => keeps_put _ _

theorem keeps_setOwn (call : Call) (token : Bytes) (nonce : UInt64) (holding : Token.Holding) :
    Keeps context (setOwn call token nonce holding) :=
  keeps_get.bind fun _ => (keeps_put _ _).bind fun _ => keeps_pure _

theorem keeps_changeRoles (change : List Bytes → Bytes → List Bytes) (call : Call) :
    Keeps context (changeRoles change call) := by
  refine (keeps_demand _ _).bind fun _ => ?_
  split
  · exact keeps_get.bind fun _ => (keeps_stored _).bind fun _ => (keeps_put _ _).bind fun _ =>
      keeps_pure _
  · exact keeps_refuse _

/-- No built-in function changes the context of the ledger. -/
theorem keeps_action (function : Function) (call : Call) :
    Keeps context (function.action call) := by
  -- Arguments in another form are refused, which keeps everything.
  cases function with
  | tokenTransfer =>
    change Keeps context (tokenTransfer call)
    unfold tokenTransfer
    split
    · exact (keeps_positive _).bind fun _ => (keeps_moveTokens _ _ _ _ _).bind fun _ => keeps_pure _
    · exact keeps_refuse _
  | instanceTransfer =>
    refine (keeps_demand _ _).bind fun _ => ?_
    split
    · exact (keeps_demand _ _).bind fun _ => (keeps_positive _).bind fun _ =>
        (keeps_moveTokens _ _ _ _ _).bind fun _ => keeps_pure _
    · exact keeps_refuse _
  | multiTransfer =>
    refine (keeps_demand _ _).bind fun _ => ?_
    split
    · exact (keeps_need _ _).bind fun _ => (keeps_movements _ _ _).bind fun _ => keeps_pure _
    · exact keeps_refuse _
  | localMint =>
    refine (keeps_demand _ _).bind fun _ => ?_
    split
    · exact (keeps_demandRole _ _ _).bind fun _ => (keeps_positive _).bind fun _ =>
        keeps_get.bind fun _ => (keeps_stored _).bind fun _ => (keeps_put _ _).bind fun _ =>
          keeps_pure _
    · exact keeps_refuse _
  | localBurn =>
    refine (keeps_demand _ _).bind fun _ => ?_
    split
    · exact (keeps_demandRole _ _ _).bind fun _ => (keeps_positive _).bind fun _ =>
        (keeps_burnFrom _ _ _ _).bind fun _ => keeps_pure _
    · exact keeps_refuse _
  | create =>
    refine (keeps_demand _ _).bind fun _ => ?_
    split
    · exact (keeps_demandRole _ _ _).bind fun _ => (keeps_positive _).bind fun _ =>
        (keeps_demand _ _).bind fun _ => keeps_get.bind fun _ => (keeps_demand _ _).bind fun _ =>
          (keeps_put _ _).bind fun _ => keeps_pure _
    · exact keeps_refuse _
  | addQuantity =>
    exact (keeps_ownInstance _ _).bind fun _ => (keeps_positive _).bind fun _ => keeps_setOwn _ _ _ _
  | burn =>
    refine (keeps_demand _ _).bind fun _ => ?_
    split
    · exact (keeps_demandRole _ _ _).bind fun _ => (keeps_positive _).bind fun _ =>
        (keeps_burnFrom _ _ _ _).bind fun _ => keeps_pure _
    · exact keeps_refuse _
  | addUris =>
    exact (keeps_ownInstance _ _).bind fun _ => (keeps_need _ _).bind fun _ => keeps_setOwn _ _ _ _
  | updateAttributes =>
    exact (keeps_ownInstance _ _).bind fun _ => (keeps_need _ _).bind fun _ => keeps_setOwn _ _ _ _
  | setRoles => exact keeps_changeRoles _ _
  | unsetRoles => exact keeps_changeRoles _ _
  | changeOwner =>
    change Keeps context (changeOwner call)
    unfold changeOwner
    split
    · exact (keeps_demand _ _).bind fun _ => (keeps_ownContract _).bind fun _ =>
        (keeps_put _ _).bind fun _ => keeps_pure _
    · exact keeps_refuse _
  | claimRewards =>
    change Keeps context (claimRewards call)
    unfold claimRewards
    split
    · exact (keeps_ownContract _).bind fun _ => (keeps_put _ _).bind fun _ => keeps_get.bind fun _ =>
        (keeps_put _ _).bind fun _ => keeps_pure _
    · exact keeps_refuse _
  | setUsername =>
    change Keeps context (setUsername call)
    unfold setUsername
    split
    · exact (keeps_demand _ _).bind fun _ => keeps_get.bind fun _ => (keeps_demand _ _).bind fun _ =>
        (keeps_put _ _).bind fun _ => keeps_pure _
    · exact keeps_refuse _
  | saveKeyValue =>
    exact (keeps_demand _ _).bind fun _ => (keeps_need _ _).bind fun _ => (keeps_demand _ _).bind fun _ =>
      (keeps_demand _ _).bind fun _ => keeps_get.bind fun _ => (keeps_put _ _).bind fun _ =>
        keeps_pure _

/-- A refusal becomes an output, but the ledger is the one that the action left. -/
theorem stateAfter_settle (gasLeft : UInt64) (action : Action CallOutput) (world : World) :
    stateAfter (settle gasLeft action world) = stateAfter (action world) := by
  unfold settle
  split <;> rename_i ran <;> rw [ran] <;> rfl

/-- A call by name is not looked up, is not paid for, or is the settled action of the named function. -/
theorem run_cases (call : Call) (world : World) :
    (∃ fault, (∀ cause, fault ≠ .tokenStorage cause) ∧ run call world = .error fault world) ∨
      run call world = .ok (.failure .outOfGas "not enough gas") world ∨
      ∃ function gasLeft, Function.ofName? call.function = some function ∧
        run call world = settle gasLeft (function.action call) world := by
  simp only [run, get_bind]
  cases world.builtinCosts with
  | none => exact .inl ⟨.builtinsNotReady, nofun, rfl⟩
  | some costs =>
    cases Function.ofName? call.function with
    | none => exact .inl ⟨.functionNotFound call.function, nofun, rfl⟩
    | some function =>
      dsimp only
      split
      · exact .inr (.inl rfl)
      · exact .inr (.inr ⟨function, _, rfl, rfl⟩)

/-- A call by name does nothing to the ledger but what the named function does. -/
theorem keepsFrom_run {τ : Type} {view : World → τ} {call : Call} {world : World}
    (each : ∀ function, Function.ofName? call.function = some function →
      KeepsFrom view world (function.action call)) :
    KeepsFrom view world (run call) := by
  rw [KeepsFrom]
  rcases run_cases call world with ⟨fault, -, ran⟩ | ran | ⟨function, gasLeft, named, ran⟩
  · rw [ran, stateAfter]
  · rw [ran, stateAfter]
  · rw [ran, stateAfter_settle, each function named]

theorem keeps_run (call : Call) : Keeps context (run call) :=
  fun world => keepsFrom_run fun function _ => keeps_action function call world

end Builtin

/-! ## The dummy machine -/

namespace Dummy

open Machine

/-- The context of the ledger that is lent to a machine. -/
def lent (state : Dummy × World) : World.Context := state.2.context

theorem keeps_onState (change : Dummy → Dummy) : Keeps lent (Action.onState change) :=
  keeps_modify fun _ => rfl

theorem keeps_create (creation : Creation) : Keeps lent (create creation) :=
  keeps_get.bind fun _ => (keeps_onMachine (World.keeps_createAddress _ _)).bind fun _ =>
    (keeps_onState _).bind fun _ => keeps_pure _

theorem keeps_call (call : Call) : Keeps lent (Dummy.call call) := by
  refine (keeps_onState _).bind fun _ => ?_
  split
  · exact keeps_onMachine (Builtin.keeps_run _)
  · split
    · exact keeps_get.bind fun _ => keeps_pure _
    · exact keeps_pure _

end Dummy
end ChainScenario
