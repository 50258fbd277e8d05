import ChainScenario.Proofs.Atomicity
import ChainScenario.Proofs.SetState
import ChainScenario.Run.Steps

/-!
# Reachable states

What a run over the dummy machine can come to by steps that set the state and by transactions.
`ReachableWithin` has a demand on the ledgers on the way, such as that memory holds them; where nothing is
demanded it is `Reachable` itself (`reachableWithin_iff`). Main statement: `Reachable.snapshots_eq_nil`,
between two steps no copy of the accounts is kept.
-/
namespace ChainScenario

section Settings

variable {inv : World → Prop}

/-- To set an account maintains what its writes maintain: that of a new account and that of an update,
each of which was validated. -/
theorem AccountSetting.maintains_apply (setting : AccountSetting)
    (sets : ∀ world written, inv world → setting.toAccount = .ok written →
      written.validate = .ok () → inv (world.putAccount written))
    (merges : ∀ world written old, inv world → setting.toAccount = .ok written →
      world.account? setting.address.value = some old → (setting.merge old written).validate = .ok () →
        inv (world.putAccount (setting.merge old written))) :
    Maintains inv setting.apply := by
  have accepts : ∀ world account, inv world →
      (account.validate = .ok () → inv (world.putAccount account)) →
        inv (stateAfter (setting.accept account world)) := by
    intro world account before written
    cases fits : account.validate with
    | ok _ =>
      simp only [AccountSetting.accept, fits]
      exact written fits
    | error cause =>
      simp only [AccountSetting.accept, fits]
      exact before
  unfold AccountSetting.apply
  split
  · exact (keeps_throw _).maintains
  · rename_i written converts
    split
    · refine maintains_get_bind fun world holds => ?_
      cases found : world.account? setting.address.value with
      | some old => exact accepts world _ holds (merges world written old holds converts found)
      | none => exact holds
    · exact fun world holds => accepts world _ holds (sets world written holds converts)

theorem SetState.ok_validateAll {mocks : List AddressMock} {world after : World} {done : PUnit}
    (ran : (mocks.forM fun mock => Setting.ofExcept mock.validate : Setting PUnit) world =
      .ok done after) :
    after = world ∧ ∀ mock ∈ mocks, Address.isContract mock.address.value := by
  induction mocks with
  | nil =>
    obtain ⟨-, rfl⟩ := ok_pure.1 ran
    exact ⟨rfl, nofun⟩
  | cons mock rest ih =>
    obtain ⟨_, middle, first, others⟩ := ok_bind.1 ran
    change Setting.ofExcept (if Address.isContract mock.address.value then _ else _) world = _ at first
    by_cases contract : Address.isContract mock.address.value
    · rw [if_pos contract] at first
      obtain ⟨-, rfl⟩ := ok_pure.1 first
      obtain ⟨same, contracts⟩ := ih others
      exact ⟨same, List.forall_mem_cons.2 ⟨contract, contracts⟩⟩
    · rw [if_neg contract] at first
      exact (ok_throw.1 first).elim

/-- A step that sets the state sets accounts and takes addresses of contracts for deployments; nothing
else that it does matters to what is said of accounts, their copies and these addresses. -/
theorem SetState.maintains_apply (step : SetState)
    (accounts : ∀ setting ∈ step.accounts, Maintains inv setting.apply)
    (blind : ∀ world other : World, other.accounts = world.accounts →
      other.snapshots = world.snapshots → other.mocks = world.mocks → inv world → inv other)
    (mocked : ∀ (world : World) (added : List DeploymentMock),
      (∀ mock ∈ added, Address.isContract mock.address) → inv world →
        inv { world with mocks := world.mocks ++ added }) :
    Maintains inv step.apply := by
  have results : ∀ {α : Type} (result : Except Run.Fault α), Maintains inv (Setting.ofExcept result) :=
    fun result => (Setting.keeps_ofExcept result).maintains
  refine (maintains_forM accounts).bind fun _ => keeps_get.maintains.bind fun _ => ?_
  refine (results _).bind fun previous => (maintains_modify ?_).bind fun _ => ?_
  · exact fun world holds => blind world _ rfl rfl rfl holds
  refine keeps_get.maintains.bind fun _ => (results _).bind fun current => ?_
  refine (maintains_modify ?_).bind fun _ => ?_
  · exact fun world holds => blind world _ rfl rfl rfl holds
  intro world holds
  -- the addresses are only taken over if every one of them is valid
  cases valid : (step.addressMocks.forM fun mock => Setting.ofExcept mock.validate : Setting PUnit)
      world with
  | error fault after =>
    rw [bind_error _ valid]
    have kept : Keeps id (step.addressMocks.forM fun mock => Setting.ofExcept mock.validate) :=
      keeps_forM fun mock _ => Setting.keeps_ofExcept mock.validate
    have same : after = world := kept.error valid
    rw [same]
    exact holds
  | ok done after =>
    rw [bind_ok _ valid]
    obtain ⟨rfl, contracts⟩ := ok_validateAll valid
    refine mocked after _ ?_ holds
    intro mock taken
    obtain ⟨written, listed, rfl⟩ := List.mem_map.1 taken
    exact contracts written listed

/-- A step that sets the state keeps no copies of the accounts and drops none. -/
theorem SetState.keeps_snapshots (step : SetState) : Keeps World.snapshots step.apply := by
  intro start
  have maintains : Maintains (fun world => world.snapshots = start.snapshots) step.apply := by
    refine step.maintains_apply (fun setting _ => setting.maintains_apply ?_ ?_) ?_ ?_
    · exact fun _ _ same _ _ => same
    · exact fun _ _ _ same _ _ _ => same
    · exact fun _ _ _ kept _ same => kept.trans same
    · exact fun _ _ _ same => same
  exact maintains start rfl

end Settings

namespace Run

variable {σ τ : Type}

theorem keeps_onMachine {view : World → τ} (action : EStateM Machine.Fault σ α) :
    Keeps (fun executor : Executor σ => view executor.world) (onMachine action) := by
  intro executor
  unfold onMachine
  split <;> rfl

/-- To start the machine changes nothing of the ledger but the costs of built-in functions. -/
theorem keeps_startMachine {view : World → τ} (machine : Machine σ) (schedule : GasSchedule)
    (blind : ∀ world costs, view (World.withCosts world costs) = view world) :
    Keeps (fun executor : Executor σ => view executor.world) (startMachine machine schedule) := by
  unfold startMachine
  refine keeps_get.bind fun executor => ?_
  split
  · refine (keeps_onMachine _).bind fun costs => (keeps_modify ?_).bind fun _ => ?_
    · exact fun executor => blind executor.world costs
    · exact (keeps_onMachine _).bind fun _ => keeps_modify fun _ => rfl
  · exact keeps_pure _

/-- The states that a new run comes to, its machine started or not, by steps that set the state and by
transactions, of those that are allowed; some of them may fail. -/
inductive Reachable (settings : SetState → Prop) (transactions : Transaction → Prop) :
    Executor Dummy → Prop
  | new : Reachable settings transactions (.new Dummy.machine)
  | start {executor : Executor Dummy} (reached : Reachable settings transactions executor)
      (schedule : GasSchedule) :
      Reachable settings transactions (stateAfter (startMachine Dummy.machine schedule executor))
  | set {executor : Executor Dummy} (reached : Reachable settings transactions executor)
      {step : SetState} (allowed : settings step) :
      Reachable settings transactions (stateAfter (onWorld step.apply id executor))
  | transact {executor : Executor Dummy} (reached : Reachable settings transactions executor)
      (tx : String) {transaction : Transaction} (allowed : transactions transaction) :
      Reachable settings transactions
        (stateAfter (transact Dummy.machine tx transaction executor))

/-- The states that a new run comes to in the same way, if the ledgers on its way are all as demanded. -/
inductive ReachableWithin (settings : SetState → Prop) (transactions : Transaction → Prop)
    (ledgers : World → Prop) : Executor Dummy → Prop
  | new (within : ledgers (Executor.new Dummy.machine).world) :
      ReachableWithin settings transactions ledgers (.new Dummy.machine)
  | start {executor : Executor Dummy}
      (reached : ReachableWithin settings transactions ledgers executor) (schedule : GasSchedule)
      (within : ledgers (stateAfter (startMachine Dummy.machine schedule executor)).world) :
      ReachableWithin settings transactions ledgers
        (stateAfter (startMachine Dummy.machine schedule executor))
  | set {executor : Executor Dummy}
      (reached : ReachableWithin settings transactions ledgers executor) {step : SetState}
      (allowed : settings step)
      (within : ledgers (stateAfter (onWorld step.apply id executor)).world) :
      ReachableWithin settings transactions ledgers (stateAfter (onWorld step.apply id executor))
  | transact {executor : Executor Dummy}
      (reached : ReachableWithin settings transactions ledgers executor) (tx : String)
      {transaction : Transaction} (allowed : transactions transaction)
      (within : ledgers (stateAfter (transact Dummy.machine tx transaction executor)).world) :
      ReachableWithin settings transactions ledgers
        (stateAfter (transact Dummy.machine tx transaction executor))

section Within

variable {settings : SetState → Prop} {transactions : Transaction → Prop} {ledgers : World → Prop}
  {executor : Executor Dummy}

theorem ReachableWithin.within (reached : ReachableWithin settings transactions ledgers executor) :
    ledgers executor.world := by
  cases reached <;> assumption

/-- Without a demand on the ledgers these are all reachable states. -/
theorem reachableWithin_iff :
    ReachableWithin settings transactions (fun _ => True) executor ↔
      Reachable settings transactions executor := by
  constructor
  · intro reached
    induction reached with
    | new _ => exact .new
    | start _ schedule _ ih => exact .start ih schedule
    | set _ allowed _ ih => exact .set ih allowed
    | transact _ tx allowed _ ih => exact .transact ih tx allowed
  · intro reached
    induction reached with
    | new => exact .new trivial
    | start _ schedule ih => exact .start ih schedule trivial
    | set _ allowed ih => exact .set ih allowed trivial
    | transact _ tx allowed ih => exact .transact ih tx allowed trivial

end Within

/-- A transaction on a ledger without copies leaves none. -/
theorem snapshots_transact {executor : Executor Dummy} (tx : String) (transaction : Transaction)
    (none : executor.world.snapshots = []) :
    (stateAfter (transact Dummy.machine tx transaction executor)).world.snapshots = [] := by
  by_cases missing : executor.world.lacksSender transaction
  · rw [transact_eq_of_lacksSender missing]
    exact none
  · have charged : (executor.world.charged transaction).snapshots = [] :=
      (congrArg World.Context.snapshots (World.context_charged _ _)).trans none
    rw [transact_eq missing, bracket_eq (keeps_perform _ _ _)]
    -- A commit drops the copies, a return goes back to those from before.
    split
    · change (if _ then _ else _ : Executor Dummy).world.snapshots = _
      split
      · rfl
      · exact charged
    · exact charged

theorem Reachable.snapshots_eq_nil {settings : SetState → Prop} {transactions : Transaction → Prop}
    {executor : Executor Dummy} (reached : Reachable settings transactions executor) :
    executor.world.snapshots = [] := by
  induction reached with
  | new => rfl
  | start _ schedule ih =>
    exact (keeps_startMachine Dummy.machine schedule (fun _ _ => rfl) _).trans ih
  | set _ _ ih => exact (keeps_onWorld (SetState.keeps_snapshots _) id _).trans ih
  | transact _ tx _ ih => exact snapshots_transact tx _ ih

end Run
end ChainScenario
