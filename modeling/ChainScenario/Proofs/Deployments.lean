import ChainScenario.Proofs.Contracts
import ChainScenario.Proofs.Independence

/-!
# Deployments

A generated address keeps a part of its creator and one byte of its nonce. In a run in which every contract
was deployed at such an address, code is only ever replaced by its owner or by a deployment at the same
address. Main statement: `deployments_recorded`, two deployments have the same address exactly if these
parts are the same, and code stays where it is unless they are.
-/
namespace ChainScenario

open World

/-! ## Generated addresses -/

namespace Address

/-- The last two bytes of a creator, which its deployments keep. -/
def suffix (creator : Bytes) : Bytes :=
  if length ≤ creator.length then (creator.drop 30).take 2 else [0, 0]

theorem mock_eq_iff {creator other : Bytes} {nonce last : UInt64} {vmType : Bytes} :
    mock creator nonce vmType = mock other last vmType ↔
      Bytes.fit 15 0 creator = Bytes.fit 15 0 other ∧ nonce.toUInt8 = last.toUInt8 ∧
        suffix creator = suffix other := by
  have split : ∀ (creator : Bytes) (nonce : UInt64), mock creator nonce vmType =
      (List.replicate contractZeros 0 ++ vmTag vmType ++ List.replicate 4 0x11) ++
        (Bytes.fit 15 0 creator ++ (nonce.toUInt8 :: suffix creator)) := by
    intro creator nonce
    simp only [mock, suffix, List.append_assoc, List.singleton_append]
  rw [split, split, List.append_cancel_left_eq]
  constructor
  · intro same
    obtain ⟨head, rest⟩ := List.append_inj same (by rw [Bytes.length_fit, Bytes.length_fit])
    obtain ⟨byte, suffix⟩ := List.cons.inj rest
    exact ⟨head, byte, suffix⟩
  · rintro ⟨head, byte, suffix⟩
    rw [head, byte, suffix]

end Address

/-! ## Deployments of a run -/

/-- Code that was deployed: by whom, at which nonce, and where. -/
structure Deployment where
  creator : Bytes
  nonce : UInt64
  address : Bytes
  deriving DecidableEq

namespace Deployment

/-- The nonce that a deployment goes by; the greatest one cannot be raised and counts as zero. -/
def counted (deployment : Deployment) : UInt64 :=
  if deployment.nonce + 1 = 0 then 0 else deployment.nonce

/-- Two deployments agree in all that their addresses depend on. -/
structure Collides (first second : Deployment) : Prop where
  head : Bytes.fit 15 0 first.creator = Bytes.fit 15 0 second.creator
  byte : first.counted.toUInt8 = second.counted.toUInt8
  suffix : Address.suffix first.creator = Address.suffix second.creator

/-- The address of a deployment was generated. -/
def Generated (deployment : Deployment) : Prop :=
  deployment.address = Address.mock deployment.creator deployment.counted Dummy.machine.vmType

theorem address_eq_iff {first second : Deployment} (placed : first.Generated)
    (other : second.Generated) : first.address = second.address ↔ first.Collides second := by
  rw [placed, other, Address.mock_eq_iff]
  exact ⟨fun ⟨head, byte, suffix⟩ => ⟨head, byte, suffix⟩,
    fun ⟨head, byte, suffix⟩ => ⟨head, byte, suffix⟩⟩

end Deployment

/-- A step that sets no account at the address of a contract and expects no deployments. -/
structure SetState.Unplaced (step : SetState) : Prop where
  accounts : ∀ setting ∈ step.accounts, Address.isContract setting.address.value = false
  mocks : step.addressMocks = []

namespace Run

/-- The deployment of code that a transaction is, if it is one and is kept. -/
def deployment? (tx : String) (transaction : Transaction) (executor : Executor Dummy) :
    Option Deployment :=
  match transact Dummy.machine tx transaction executor with
  | .ok output after =>
    if transaction.kind = .deploy ∧ transaction.code.value ≠ [] ∧ output.succeeded then
      some ⟨transaction.sender.value,
        ((executor.world.account? transaction.sender.value).map (·.nonce)).getD 0,
        after.world.lastCreated⟩
    else none
  | .error _ _ => none

/-- The states of a new run in which all contracts are deployed at generated addresses, with these
deployments, last first. -/
inductive Recorded : Executor Dummy → List Deployment → Prop
  | new : Recorded (.new Dummy.machine) []
  | start {executor : Executor Dummy} {log : List Deployment} (reached : Recorded executor log)
      (schedule : GasSchedule) :
      Recorded (stateAfter (startMachine Dummy.machine schedule executor)) log
  | set {executor : Executor Dummy} {log : List Deployment} (reached : Recorded executor log)
      {step : SetState} (unplaced : step.Unplaced) :
      Recorded (stateAfter (onWorld step.apply id executor)) log
  | transact {executor : Executor Dummy} {log : List Deployment} (reached : Recorded executor log)
      (tx : String) (transaction : Transaction) :
      Recorded (stateAfter (transact Dummy.machine tx transaction executor))
        ((deployment? tx transaction executor).toList ++ log)

end Run

/-! ## Where code stands -/

/-- An account is found at its own address, and if it has code, that was deployed. -/
structure Account.PlacedBy (log : List Deployment) (address : Bytes) (account : Account) : Prop where
  here : account.address = address
  logged : account.code ≠ [] → ∃ deployment ∈ log, deployment.address = address

section Placed

variable {log : List Deployment} {address : Bytes} {old new : Account} {world after : World}

theorem Account.PlacedBy.of_installed {owner : Bytes} (placed : old.PlacedBy log address)
    (logged : ∃ deployment ∈ log, deployment.address = address) (installed : old.Installed owner new) :
    new.PlacedBy log address :=
  ⟨installed.address.trans placed.here, fun _ => logged⟩

/-- Accounts that remain are where they were placed. -/
theorem persistent_placedBy (log : List Deployment) : Run.Persistent (Account.PlacedBy log) where
  remains placed remains :=
    ⟨remains.address.trans placed.here, fun coded => placed.logged (remains.code ▸ coded)⟩
  blank _ := ⟨rfl, fun coded => absurd rfl coded⟩

theorem World.Each.placed (each : world.Each (Account.PlacedBy log)) (address : Bytes) :
    (world.accountOrBlank address).PlacedBy log address :=
  Run.holds_accountOrBlank each ⟨rfl, fun coded => absurd rfl coded⟩

/-- Code that is installed by one more deployment is placed by it. -/
theorem World.Each.deployed (each : world.Each (Account.PlacedBy log)) {deployment : Deployment}
    {owner : Bytes} (here : deployment.address = address)
    (installed : (world.accountOrBlank address).Installed owner new) :
    (world.setAccount address new).Each (Account.PlacedBy (deployment :: log)) := by
  have more : world.Each (Account.PlacedBy (deployment :: log)) := by
    refine ⟨fun address account found => ?_, each.mocks⟩
    obtain ⟨here, logged⟩ := each.accounts address account found
    refine ⟨here, fun coded => ?_⟩
    obtain ⟨earlier, listed, same⟩ := logged coded
    exact ⟨earlier, List.mem_cons_of_mem _ listed, same⟩
  exact more.setAccount ((more.placed address).of_installed ⟨_, List.mem_cons_self, here⟩ installed)

/-- A step that sets no account at the address of a contract sets no code. -/
theorem SetState.Unplaced.maintains {step : SetState} (unplaced : step.Unplaced) :
    Maintains (World.Each (Account.PlacedBy log)) step.apply := by
  refine step.maintains_apply (fun setting listed => setting.maintains_apply ?_ ?_) ?_ ?_
  · intro world written each converts valid
    obtain ⟨rfl, -⟩ := AccountSetting.ok_toAccount converts
    refine each.setAccount ⟨rfl, fun coded => ?_⟩
    have form := ((Account.ok_validate valid).2 coded).1
    rw [setting.address_meant, unplaced.accounts setting listed] at form
    cases form
  · intro world written old each converts found valid
    have here : (setting.merge old written).address = setting.address.value := by
      rw [← (each.accounts _ _ found).here]
      unfold AccountSetting.merge
      dsimp only
      split <;> rfl
    refine each.setAccount ⟨rfl, fun coded => ?_⟩
    have form := ((Account.ok_validate valid).2 coded).1
    rw [here, unplaced.accounts setting listed] at form
    cases form
  · exact fun world other accounts _ mocks each => each.of_accounts accounts mocks
  · intro world added contracts each
    refine ⟨each.accounts, fun mock listed => ?_⟩
    rcases List.mem_append.1 listed with before | new
    · exact each.mocks mock before
    · exact contracts mock new

theorem SetState.Unplaced.keeps_mocks {step : SetState} (unplaced : step.Unplaced) :
    Keeps World.mocks step.apply := by
  have sets : ∀ setting : AccountSetting, Keeps World.mocks setting.apply := by
    intro setting world
    have maintains : Maintains (fun after => after.mocks = world.mocks) setting.apply :=
      setting.maintains_apply (fun _ _ same _ _ => same) (fun _ _ _ same _ _ _ => same)
    exact maintains world rfl
  refine (keeps_forM fun setting _ => sets setting).bind fun _ => ?_
  refine keeps_get.bind fun _ => (Setting.keeps_ofExcept _).bind fun _ => ?_
  refine Keeps.bind (keeps_modify ?_) fun _ => ?_
  · exact fun _ => rfl
  refine keeps_get.bind fun _ => (Setting.keeps_ofExcept _).bind fun _ => ?_
  refine Keeps.bind (keeps_modify ?_) fun _ => ?_
  · exact fun _ => rfl
  refine (keeps_forM fun _ _ => Setting.keeps_ofExcept _).bind fun _ => keeps_modify fun world => ?_
  rw [unplaced.mocks]
  exact List.append_nil _

end Placed

/-! ## Transactions -/

theorem Account.code_rewrite {change : AccountChange} (coded : change.code ≠ []) (account : Account) :
    (change.rewrite account).code = change.code := by
  have filled : change.code.isEmpty = false := List.isEmpty_eq_false_iff.2 coded
  simp only [AccountChange.rewrite, filled, Bool.false_eq_true, if_false]
  exact (Account.Remains.of_bare (Account.bare_saveAll _ change.storage)).code

namespace Run

section Transactions

variable {tx : String} {transaction : Transaction} {world after : World} {output : CallOutput}
  {log : List Deployment}

theorem Paid.lastCreated {paid : World} (pays : Paid transaction world paid) :
    paid.lastCreated = world.lastCreated := by
  cases pays with
  | nobody => rfl
  | sender _ pays =>
    obtain ⟨account, changed, -, -, rfl⟩ := ok_updateBalance pays
    rfl

/-- What a committed deployment did: it installed its code at the address that it was given. -/
theorem Completed.deployed (completed : Completed tx transaction world output after)
    (kind : transaction.kind = .deploy) (coded : transaction.code.value ≠ []) :
    ∃ paid written, world.Grows paid ∧
      paid.lastCreated = (world.charged transaction).deploymentAddress transaction.sender.value
        (Dummy.deploymentNonce (world.charged transaction) transaction.sender.value) ∧
      (paid.accountOrBlank paid.lastCreated).Installed transaction.sender.value written ∧
      written.code = transaction.code.value ∧
      after = (paid.setAccount paid.lastCreated written).commit := by
  obtain ⟨⟨able, enacted, pays, applies, -⟩⟩ := completed
  rename_i applied middle paid
  cases enacted with
  | @deployed address _ placed =>
    -- the address is taken down before the payment, and the code comes with the changes behind it
    have copied : world.Grows (world.charged transaction).backup :=
      (grows_charged world transaction).of_accounts rfl rfl
    have named : world.Grows { (world.charged transaction).backup with lastCreated := address } :=
      copied.of_accounts rfl rfl
    obtain ⟨account, remains, rfl⟩ := applied_single applies
    obtain rfl : paid.lastCreated = address := pays.lastCreated
    exact ⟨paid, _, named.trans pays.grows, placed, installed_of_remains remains coded rfl,
      Account.code_rewrite coded account, rfl⟩
  | answered other => simp [kind] at other
  | credited other | moved other | rewarded other => simp [kind] at other

/-- A single change without code leaves code where it was deployed. -/
theorem placed_applied_single {paid : World} {address : Bytes} {change : AccountChange}
    (each : paid.Each (Account.PlacedBy log)) (bare : change.code = [])
    (applies : applyChanges (OrdMap.empty.insert address change) [] paid = .ok () after) :
    after.Each (Account.PlacedBy log) := by
  obtain ⟨account, remains, rfl⟩ := applied_single applies
  exact each.setAccount ((persistent_placedBy log).remains (each.placed address)
    (remains.trans (Account.remains_rewrite bare account)))

/-- A call leaves code where it was deployed, also one that upgrades a contract. -/
theorem Answered.placed {call : Call} {middle paid : World} (answered : Answered call world middle output)
    (each : world.Each (Account.PlacedBy log)) (caller : (world.account? call.input.caller).isSome)
    (pays : middle.Grows paid)
    (applies : applyChanges output.changes output.deleted paid = .ok () after) :
    after.Each (Account.PlacedBy log) := by
  have persistent := persistent_placedBy log
  obtain ⟨found, coded, delivered, called⟩ := answered
  rename_i receiver between
  have before := delivered.grows caller
  cases called with
  | builtin _ effect plain =>
    have known : (world.account? call.recipient).isSome := by
      rw [found]
      rfl
    have acted := effect.grows (before.known caller) fun _ => before.known known
    obtain rfl := applied_plain plain pays applies
    exact persistent.grows each ((before.trans acted).trans pays)
  | upgraded _ _ _ given =>
    obtain ⟨account, remains, rfl⟩ := applied_single applies
    -- what is upgraded has code, which was deployed there
    have logged := (each.accounts _ receiver found).logged coded
    have settled := persistent.grows each (before.trans pays)
    exact settled.setAccount ((settled.placed _).of_installed logged
      (installed_of_remains remains given rfl))

/-- Any other transaction leaves code where it was deployed. -/
theorem Completed.placed (completed : Completed tx transaction world output after)
    (each : world.Each (Account.PlacedBy log))
    (other : transaction.kind = .deploy → transaction.code.value = []) :
    after.Each (Account.PlacedBy log) := by
  have persistent := persistent_placedBy log
  obtain ⟨charged, sends, enacted, pays, applies⟩ := completed.fulfilled
  rename_i start middle paid applied
  have begun := persistent.grows each charged
  refine persistent.grows ?_ (.commit applied)
  cases enacted with
  | @deployed address kind placed =>
    have named : start.Grows { start with lastCreated := address } :=
      (Grows.refl start).of_accounts rfl rfl
    exact placed_applied_single (persistent.grows begun (named.trans pays)) (other kind) applies
  | answered kind answered =>
    obtain ⟨found, -, -, -⟩ := id answered
    rw [recipient_calling] at found
    exact answered.placed begun (caller_calling sends kind found) pays applies
  | credited => exact placed_applied_single (persistent.grows begun pays) rfl applies
  | moved kind _ moves effect plain =>
    have caller : (start.account? transaction.sender.value).isSome := sends (by rw [kind]; rfl)
    obtain rfl := applied_plain plain pays applies
    exact persistent.grows begun ((effect.grows_convert moves caller).trans pays)
  | rewarded => exact placed_applied_single (persistent.grows begun pays) rfl applies

end Transactions

/-! ## Runs -/

/-- What holds of every state of a run and its deployments. -/
structure Accounted (executor : Executor Dummy) (log : List Deployment) : Prop where
  mocks : executor.world.mocks = []
  vmType : executor.world.vmType = Dummy.machine.vmType
  generated : ∀ deployment ∈ log, deployment.Generated
  each : executor.world.Each (Account.PlacedBy log)

section Runs

variable {executor : Executor Dummy} {log : List Deployment} {tx : String}
  {transaction : Transaction} {deployment : Deployment}

/-- A deployment that is recorded was committed. -/
theorem completed_of_deployment? (deploys : deployment? tx transaction executor = some deployment) :
    ∃ output after, transact Dummy.machine tx transaction executor = .ok output after ∧
      Completed tx transaction executor.world output after.world ∧ transaction.kind = .deploy ∧
      transaction.code.value ≠ [] ∧ deployment = ⟨transaction.sender.value,
        ((executor.world.account? transaction.sender.value).map (·.nonce)).getD 0,
        after.world.lastCreated⟩ := by
  unfold deployment? at deploys
  split at deploys
  · rename_i output after ran
    split at deploys
    · rename_i good
      obtain ⟨kind, coded, succeeded⟩ := good
      rcases transact_ends executor tx transaction with ⟨_, _, ended, -, completed⟩ | ⟨failed, -⟩
      · cases ran.symm.trans ended
        exact ⟨output, after, ran, completed, kind, coded, (Option.some.inj deploys).symm⟩
      · rw [failed output after ran] at succeeded
        cases succeeded
    · cases deploys
  · cases deploys

/-- A deployment goes by the nonce that its creator had before it was charged. -/
theorem deploymentNonce_charged {world : World} (sends : transaction.kind.hasSender)
    {sender : Account} (found : world.account? transaction.sender.value = some sender) :
    Dummy.deploymentNonce (world.charged transaction) transaction.sender.value =
      if sender.nonce + 1 = 0 then 0 else sender.nonce := by
  have raised : ((world.charged transaction).account? transaction.sender.value).map (·.nonce) =
      some (sender.nonce + 1) := by
    simp [charged, sends, found, account?_setAccount]
  rw [Dummy.deploymentNonce, raised, Option.getD_some]
  split
  · rfl
  · exact UInt64.add_sub_cancel _ _

/-- Without mocks, what a creator deploys goes to a generated address. -/
theorem deploymentAddress_charged {world : World} (sends : transaction.kind.hasSender)
    {sender : Account} (found : world.account? transaction.sender.value = some sender)
    (mocks : world.mocks = []) (vmType : world.vmType = Dummy.machine.vmType) :
    (world.charged transaction).deploymentAddress transaction.sender.value
        (Dummy.deploymentNonce (world.charged transaction) transaction.sender.value) =
      Address.mock transaction.sender.value (if sender.nonce + 1 = 0 then 0 else sender.nonce)
        Dummy.machine.vmType := by
  have context := World.context_charged world transaction
  have none : (world.charged transaction).mocks = [] :=
    (congrArg World.Context.mocks context).trans mocks
  have type : (world.charged transaction).vmType = Dummy.machine.vmType :=
    (congrArg World.Context.vmType context).trans vmType
  rw [deploymentNonce_charged sends found, deploymentAddress, none, type]
  rfl

theorem Renewed.mocks {world after : World} (renewed : Renewed transaction world after) :
    after.mocks = world.mocks := by
  cases renewed with
  | grown grows => exact grows.mocks
  | written before _ behind => exact behind.mocks.trans before.mocks

/-- Where a recorded deployment put its code, and that it left all other code where it was. -/
structure Installs (transaction : Transaction) (deployment : Deployment) (world after : World) :
    Prop where
  generated : world.mocks = [] → world.vmType = Dummy.machine.vmType → deployment.Generated
  installed : ∃ account, after.account? deployment.address = some account ∧
    account.code = transaction.code.value
  others : ∀ address account, address ≠ deployment.address →
    world.account? address = some account →
      ∃ new, after.account? address = some new ∧ account.Remains new
  each : ∀ log, world.Each (Account.PlacedBy log) → after.Each (Account.PlacedBy (deployment :: log))

theorem installs_of_deployment? (deploys : deployment? tx transaction executor = some deployment) :
    Installs transaction deployment executor.world
      (stateAfter (transact Dummy.machine tx transaction executor)).world := by
  obtain ⟨output, after, ran, completed, kind, coded, rfl⟩ := completed_of_deployment? deploys
  obtain ⟨paid, written, grows, placed, installed, code, same⟩ := completed.deployed kind coded
  rw [ran]
  change Installs _ _ _ after.world
  have created : after.world.lastCreated = paid.lastCreated := by rw [same]; rfl
  rw [created, same]
  constructor
  case generated =>
    intro mocks vmType
    have sends : transaction.kind.hasSender = true := by rw [kind]; rfl
    obtain ⟨sender, found⟩ := exists_sender_of_ok ran sends
    rw [deploymentAddress_charged sends found mocks vmType] at placed
    simpa [Deployment.Generated, Deployment.counted, found] using placed
  case installed =>
    -- to commit sets the pending change of the balance back
    refine ⟨{ written with balanceDelta := 0 }, ?_, code⟩
    rw [account?_commit, account?_setAccount, if_pos rfl]
    rfl
  case others =>
    intro address account other found
    obtain ⟨old, there⟩ := Option.isSome_iff_exists.1 (grows.known (by rw [found]; rfl))
    have stays := (grows.stands address).related
    rw [accountOrBlank_of_account? found, accountOrBlank_of_account? there] at stays
    refine ⟨{ old with balanceDelta := 0 }, ?_, ?_⟩
    · rw [account?_commit, account?_setAccount, if_neg other, there]
      rfl
    · exact ⟨stays.address, stays.code, stays.codeHash, stays.isContract, stays.owner⟩
  case each =>
    intro log each
    have before := (persistent_placedBy log).grows each grows
    exact (persistent_placedBy _).grows (before.deployed rfl installed) (.commit _)

/-- A transaction that is not recorded leaves code where it was deployed. -/
theorem placed_transact (none : deployment? tx transaction executor = .none)
    (each : executor.world.Each (Account.PlacedBy log)) :
    (stateAfter (transact Dummy.machine tx transaction executor)).world.Each
      (Account.PlacedBy log) := by
  rcases transact_ends executor tx transaction with
    ⟨output, after, ran, succeeded, completed⟩ | ⟨failed, -⟩
  · rw [ran]
    refine completed.placed each fun kind => ?_
    by_contra coded
    simp [deployment?, ran, kind, coded, succeeded] at none
  · exact (persistent_placedBy log).grows each (grows_transact failed)

theorem Accounted.transact (accounted : Accounted executor log) (tx : String)
    (transaction : Transaction) :
    Accounted (stateAfter (transact Dummy.machine tx transaction executor))
      ((deployment? tx transaction executor).toList ++ log) where
  mocks := (renewed_transact executor tx transaction).mocks.trans accounted.mocks
  vmType := (congrArg Prod.snd (keeps_terms_transact tx transaction executor)).trans accounted.vmType
  generated := by
    cases deploys : deployment? tx transaction executor with
    | none => exact accounted.generated
    | some deployment =>
      have installs := installs_of_deployment? deploys
      exact List.forall_mem_cons.2
        ⟨installs.generated accounted.mocks accounted.vmType, accounted.generated⟩
  each := by
    cases deploys : deployment? tx transaction executor with
    | none => exact placed_transact deploys accounted.each
    | some deployment => exact (installs_of_deployment? deploys).each log accounted.each

theorem Recorded.accounted (reached : Recorded executor log) : Accounted executor log := by
  induction reached with
  | new => exact ⟨rfl, rfl, nofun, .of_empty (fun _ => rfl) rfl⟩
  | @start executor log _ schedule ih =>
    have accounts : Keeps (fun executor : Executor Dummy => executor.world.accounts)
        (startMachine Dummy.machine schedule) := keeps_startMachine _ _ fun _ _ => rfl
    have mocks : Keeps (fun executor : Executor Dummy => executor.world.mocks)
        (startMachine Dummy.machine schedule) := keeps_startMachine _ _ fun _ _ => rfl
    have vmType : Keeps (fun executor : Executor Dummy => executor.world.vmType)
        (startMachine Dummy.machine schedule) := keeps_startMachine _ _ fun _ _ => rfl
    exact ⟨(mocks _).trans ih.mocks, (vmType _).trans ih.vmType, ih.generated,
      ih.each.of_accounts (accounts _) (mocks _)⟩
  | @set executor log _ step unplaced ih =>
    have mocks := keeps_onWorld unplaced.keeps_mocks id executor
    have terms := keeps_onWorld step.keeps_terms id executor
    exact ⟨mocks.trans ih.mocks, (congrArg Prod.snd terms).trans ih.vmType, ih.generated,
      maintains_onWorld unplaced.maintains id _ ih.each⟩
  | transact _ tx transaction ih => exact ih.transact tx transaction

/-- Two deployments of a run have the same address exactly if they agree in the heads and the suffixes of
their creators and the last bytes of their nonces. A deployment installs its code, and all other code stays
where it is, but for that of an earlier deployment with which it agrees in this way. -/
theorem deployments_recorded (reached : Recorded executor log) :
    (∀ first ∈ log, ∀ second ∈ log,
      first.address = second.address ↔ first.Collides second) ∧
    ∀ tx transaction deployment, deployment? tx transaction executor = some deployment →
      (∃ account, (stateAfter (transact Dummy.machine tx transaction executor)).world.account?
          deployment.address = some account ∧ account.code = transaction.code.value) ∧
      ∀ address account, executor.world.account? address = some account → account.code ≠ [] →
        (∃ new, (stateAfter (transact Dummy.machine tx transaction executor)).world.account?
          address = some new ∧ new.code = account.code) ∨
        address = deployment.address ∧
          ∃ earlier ∈ log, earlier.address = address ∧ deployment.Collides earlier := by
  have accounted := reached.accounted
  constructor
  · intro first listed second also
    exact Deployment.address_eq_iff (accounted.generated first listed)
      (accounted.generated second also)
  · intro tx transaction deployment deploys
    have installs := installs_of_deployment? deploys
    refine ⟨installs.installed, fun address account found coded => ?_⟩
    by_cases here : address = deployment.address
    · -- the code that was there had been deployed there
      obtain ⟨earlier, listed, same⟩ := (accounted.each.accounts address account found).logged coded
      have generated := installs.generated accounted.mocks accounted.vmType
      exact .inr ⟨here, earlier, listed, same, (Deployment.address_eq_iff generated
        (accounted.generated earlier listed)).1 (here.symm.trans same.symm)⟩
    · obtain ⟨new, there, remains⟩ := installs.others address account here found
      exact .inl ⟨new, there, remains.code⟩

end Runs

/-! ### Two creators with one head -/

/-- A creator of a contract. -/
def creator (number : String) : Bytes :=
  Utf8.ofString ("owner_of_contract_" ++ number ++ "_____________")

def deploying (number : String) (code : Bytes) : Transaction :=
  { Transaction.blank .deploy with sender := .implied (creator number), code := .implied code }

/-- Where both creators deploy first: their names only differ behind the head. -/
def site : Bytes := Address.mock (creator "1") 0 Dummy.machine.vmType

/-- The state in which there are two creators and no contract. -/
def opened : Executor Dummy :=
  stateAfter (onWorld (SetState.apply
    { comment := "", accounts :=
      [{ address := .implied (creator "1") }, { address := .implied (creator "2") }] }) id
    (stateAfter (startMachine Dummy.machine .standard (.new Dummy.machine))))

/-- The state after the first one has deployed. -/
def settled : Executor Dummy :=
  stateAfter (transact Dummy.machine "first" (deploying "1" [1]) opened)

/-- The state after the second one has deployed too. -/
def resettled : Executor Dummy :=
  stateAfter (transact Dummy.machine "second" (deploying "2" [2]) settled)

theorem recorded_settled : Recorded settled [⟨creator "1", 0, site⟩] := by
  have unplaced : SetState.Unplaced { comment := "", accounts :=
      [{ address := .implied (creator "1") }, { address := .implied (creator "2") }] } :=
    ⟨by decide +kernel, rfl⟩
  have reached : Recorded opened [] := .set (.start .new .standard) unplaced
  have deploys : deployment? "first" (deploying "1" [1]) opened = some ⟨creator "1", 0, site⟩ := by
    decide +kernel
  have next := reached.transact "first" (deploying "1" [1])
  rw [deploys] at next
  exact next

theorem deploys_second :
    deployment? "second" (deploying "2" [2]) settled = some ⟨creator "2", 0, site⟩ := by
  decide +kernel

/-- The second deployment installs its code where the first one did, since they agree. -/
theorem deployments_recorded_settled : Recorded settled [⟨creator "1", 0, site⟩] ∧
    (∃ account, resettled.world.account? site = some account ∧ account.code = [2]) ∧
      ∃ earlier ∈ [(⟨creator "1", 0, site⟩ : Deployment)],
        (⟨creator "2", 0, site⟩ : Deployment).Collides earlier := by
  obtain ⟨-, installs⟩ := deployments_recorded recorded_settled
  obtain ⟨⟨account, found, code⟩, kept⟩ := installs "second" (deploying "2" [2]) _ deploys_second
  have first : (settled.world.account? site).map (·.code) = some [1] := by decide +kernel
  obtain ⟨old, there, before⟩ := Option.map_eq_some_iff.1 first
  refine ⟨recorded_settled, ⟨account, found, code⟩, ?_⟩
  rcases kept site old there (by simp [before]) with
    ⟨new, same, unchanged⟩ | ⟨-, earlier, listed, -, collides⟩
  · cases found.symm.trans same
    rw [code, before] at unchanged
    cases unchanged
  · exact ⟨earlier, listed, collides⟩

/-- Different creators do not keep deployments apart. -/
theorem deployments_share :
    ¬∀ (executor : Executor Dummy) (log : List Deployment), Recorded executor log →
      ∀ first ∈ log, ∀ second ∈ log,
        (first.creator, first.nonce) ≠ (second.creator, second.nonce) →
          first.address ≠ second.address := by
  intro apart
  have next := recorded_settled.transact "second" (deploying "2" [2])
  rw [deploys_second] at next
  exact apart _ _ next ⟨creator "2", 0, site⟩ List.mem_cons_self ⟨creator "1", 0, site⟩
    (List.mem_cons_of_mem _ List.mem_cons_self) (by decide +kernel) rfl

end Run
end ChainScenario
