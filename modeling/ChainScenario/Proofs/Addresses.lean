import ChainScenario.Proofs.Decided
import ChainScenario.Proofs.Identity
import ChainScenario.Proofs.Throughout

/-!
# Addresses of accounts

Settings, deployments and built-in functions only let addresses of the right length into the ledger. What
remains is the receiver of a transfer, which the reader of a file does not ask for. Main statement:
`Launched.addresses`, every account has an address in a run exactly if no such transfer ends well.
-/
namespace ChainScenario

open Expression (References)

/-! ## Receivers that were read -/

namespace Scenario.Reader

open Expression (Context)

theorem mem_of_mapM {ε α β : Type} {read : α → Except ε β} {items : List α} {results : List β}
    (ran : items.mapM read = .ok results) {result : β} (member : result ∈ results) :
    ∃ item ∈ items, read item = .ok result := by
  have each := mapM_ok_iff.1 ran
  obtain ⟨place, inside, rfl⟩ := List.getElem_of_mem member
  have before : place < items.length := each.length_eq ▸ inside
  exact ⟨items[place], List.getElem_mem before, each.get before inside⟩

theorem directed_transactionStep {context : Context} {kind : Transaction.Kind}
    {fields : List (String × Json)} {sent : TransactionStep}
    (read : transactionStep context kind fields = .ok sent) : sent.transaction.Directed := by
  obtain ⟨draft, drafts, read⟩ := except_bind.1 read
  have each : ∀ name reader, transactionStepField context kind name = some reader →
      ∀ value (target result : TransactionDraft),
        (∀ written, target.transaction = some written → written.Directed) →
          reader value target = .ok result →
            ∀ written, result.transaction = some written → written.Directed := by
    intro name reader known value target result before ran
    -- only one field is the transaction
    unfold transactionStepField at known
    split at known
    case h_4 =>
      obtain ⟨given, reads, rfl⟩ := setting_ok known ran
      rintro _ ⟨⟩
      exact directed_transaction reads
    case h_6 =>
      unfold commonField at known
      split at known
      case h_4 => cases known
      all_goals
        obtain rfl := Option.some.inj known
        cases ran
        exact before
    all_goals
      obtain ⟨given, -, rfl⟩ := setting_ok known ran
      exact before
  have drafted := readFields_preserves each (by rintro _ ⟨⟩) drafts
  cases written : draft.transaction with
  | none =>
    rw [written] at read
    cases read
  | some transaction =>
    rw [written] at read
    obtain ⟨_, -, ended⟩ := except_bind.1 read
    cases ended
    exact drafted transaction written

/-- What a step sends, if it sends something, has an address for a receiver, or none was written. -/
theorem directed_step {context : Context} {value : Json} {read : Step}
    (reads : step context value = .ok read) (sent : TransactionStep) (same : read = .transaction sent) :
    sent.transaction.Directed := by
  obtain ⟨fields, -, reads⟩ := except_bind.1 reads
  obtain ⟨name, -, reads⟩ := except_bind.1 reads
  subst same
  split at reads
  case h_5 =>
    split at reads
    · obtain ⟨given, gives, ended⟩ := except_bind.1 reads
      cases ended
      exact directed_transactionStep (ok_mapError.1 gives)
    · cases reads
  all_goals
    obtain ⟨given, -, ended⟩ := except_bind.1 reads
    cases ended

theorem directed_scenario {context : Context} {value : Json} {read : Scenario}
    (reads : scenario context value = .ok read) {sent : TransactionStep}
    (listed : .transaction sent ∈ read.steps) : sent.transaction.Directed := by
  obtain ⟨fields, -, reads⟩ := except_bind.1 reads
  have each : ∀ name reader, scenarioField context name = some reader →
      ∀ value (target result : Scenario),
        (∀ sent, .transaction sent ∈ target.steps → sent.transaction.Directed) →
          reader value target = .ok result →
            ∀ sent, .transaction sent ∈ result.steps → sent.transaction.Directed := by
    intro name reader known value target result before ran
    -- only one field is the steps
    unfold scenarioField at known
    split at known
    case h_6 =>
      obtain ⟨given, gives, rfl⟩ := setting_ok known ran
      intro sent listed
      obtain ⟨items, -, gives⟩ := except_bind.1 (ok_mapError.1 gives)
      obtain ⟨item, -, reads⟩ := mem_of_mapM gives listed
      exact directed_step reads sent rfl
    case h_7 => cases known
    all_goals
      obtain ⟨given, -, rfl⟩ := setting_ok known ran
      exact before
  exact readFields_preserves each (by rintro _ ⟨⟩) reads sent listed

end Scenario.Reader

namespace Run

theorem directed_readFile {σ : Type} {setup : Setup σ} {references within : References} {path : String}
    {scenario : Scenario} (read : readFile setup references path = .ok (scenario, within))
    {sent : TransactionStep} (listed : .transaction sent ∈ scenario.steps) :
    sent.transaction.Directed := by
  obtain ⟨contents, -, read⟩ := except_bind.1 read
  obtain ⟨parsed, parses, ended⟩ := except_bind.1 read
  obtain ⟨value, -, given⟩ := except_bind.1 (ok_mapError.1 parses)
  obtain ⟨rfl, -⟩ := Prod.mk.inj (Except.ok.inj ended)
  exact Scenario.Reader.directed_scenario given listed

end Run

/-! ## Accounts at their addresses -/

/-- An account is found at its own address, and that address is allowed. -/
def Account.Located (allowed : Bytes → Prop) (address : Bytes) (account : Account) : Prop :=
  account.address = address ∧ allowed address

/-- Every account of a ledger is found at its own address, and that address is allowed. -/
def World.Located (allowed : Bytes → Prop) (world : World) : Prop :=
  ∀ address account, world.account? address = some account → account.Located allowed address

/-- The addresses of the right length. -/
def Address.Proper (address : Bytes) : Prop := address.length = Address.length

/-- What a transfer may have for a receiver: an address, or nothing. -/
def Address.Optional (address : Bytes) : Prop := address.length = Address.length ∨ address = []

section Located

variable {allowed : Bytes → Prop} (allows : ∀ address, Address.Proper address → allowed address)

include allows

theorem SetState.located (step : SetState) :
    Maintains (World.Each (Account.Located allowed)) step.apply := by
  apply step.each
  · exact fun setting written _ valid => ⟨rfl, allows _ (Account.ok_validate valid).1⟩
  · exact fun setting written old _ _ valid => ⟨rfl, allows _ (Account.ok_validate valid).1⟩

namespace Run

theorem persistent_located : Persistent (Account.Located allowed) where
  remains := by
    rintro address old new ⟨here, fits⟩ remains
    exact ⟨remains.address.trans here, fits⟩
  blank addressed := ⟨rfl, allows _ addressed⟩

theorem lasting_located {transaction : Transaction}
    (received : transaction.kind = .transfer → transaction.payments = [] →
      allowed transaction.receiver.value) : Lasting transaction (Account.Located allowed) where
  toPersistent := persistent_located allows
  received kind bare := ⟨rfl, received kind bare⟩
  installed := by
    rintro - address old new - ⟨here, fits⟩ installed
    exact ⟨installed.address.trans here, fits⟩

/-- A transaction leaves every account at its address if it does not send currency alone to somewhere that
is not allowed, or does not end well. -/
theorem located_transact {transaction : Transaction} (executor : Executor Dummy) (tx : String)
    (received : ∀ output after, transact Dummy.machine tx transaction executor = .ok output after →
      output.succeeded → transaction.kind = .transfer → transaction.payments = [] →
        allowed transaction.receiver.value)
    (each : executor.world.Each (Account.Located allowed)) :
    (stateAfter (transact Dummy.machine tx transaction executor)).world.Each
      (Account.Located allowed) := by
  by_cases good : ∃ output after, transact Dummy.machine tx transaction executor = .ok output after ∧
      output.succeeded
  · obtain ⟨output, after, ran, succeeded⟩ := good
    exact (lasting_located allows (received output after ran succeeded)).transact executor tx each
  · refine (persistent_located allows).grows each (grows_transact fun output after ran => ?_)
    rw [Bool.eq_false_iff]
    exact fun succeeded => good ⟨output, after, ran, succeeded⟩

end Run
end Located

/-! ## Runs -/

/-- Currency alone is sent to nobody, and the transfer ends well in a state. -/
structure TransactionStep.Astray (step : TransactionStep) (state : Run.Executor Dummy) : Prop where
  kind : step.transaction.kind = .transfer
  bare : step.transaction.payments = []
  nobody : step.transaction.receiver.value = []
  endsWell : ∃ output after, Run.transact Dummy.machine step.identifier step.transaction state =
    .ok output after ∧ output.succeeded

/-- A step sends currency to nobody, and that ends well. -/
def Step.Astray (step : Step) (state : Run.Executor Dummy) : Prop :=
  ∃ sent, step = .transaction sent ∧ sent.Astray state

namespace Run

/-- A property of the ledger holds between all steps of a run, those of files within it included. -/
def Throughout {σ : Type} (setup : Setup σ) (scenario : Scenario) (references : References)
    (start : Executor σ) (holds : World → Prop) : Prop :=
  ∀ said step state, Running setup scenario references start said step state →
    holds state.world ∧ holds (stateAfter (runStep setup step state)).world

section Launched

variable {files : Files.Tree} {maxDepth : Nat} {references within : References} {path : String}
  {scenario : Scenario} {options : FileOptions} {start : Executor Dummy}
  {said : List (Option Bool)} {step : Step} {state : Executor Dummy}

theorem Running.directed
    (read : readFile (onDummy files maxDepth) references path = .ok (scenario, within))
    (running : Running (onDummy files maxDepth) (withOptions options scenario) within start said step
      state) (sent : TransactionStep) (same : step = .transaction sent) :
    sent.transaction.Directed := by
  subst same
  rcases running.listed with listed | ⟨_, _, _, file, inner, listed⟩
  · exact directed_readFile read listed
  · exact directed_readFile inner listed

/-- If steps send currency only to where it is allowed, all accounts are there throughout the run. -/
theorem Launched.located {allowed : Bytes → Prop}
    (allows : ∀ address, Address.Proper address → allowed address)
    (launched : Launched (onDummy files maxDepth) scenario within start)
    (received : ∀ said sent state,
      Running (onDummy files maxDepth) scenario within start said (.transaction sent) state →
        (∃ output after, transact Dummy.machine sent.identifier sent.transaction state =
          .ok output after ∧ output.succeeded) →
        sent.transaction.kind = .transfer → sent.transaction.payments = [] →
          allowed sent.transaction.receiver.value) :
    Throughout (onDummy files maxDepth) scenario within start (World.Located allowed) := by
  obtain ⟨none, mocks⟩ := launched.empty
  have begins : start.world.Each (Account.Located allowed) :=
    .of_empty (fun address => congrArg (·.get? address) none) mocks
  have own : ∀ said step state,
      Running (onDummy files maxDepth) scenario within start said step state →
      (∀ external, step ≠ .externalSteps external) → state.world.Each (Account.Located allowed) →
        (stateAfter (runStep (onDummy files maxDepth) step state)).world.Each
          (Account.Located allowed) := by
    intro said step state running own each
    refine runStep_maintains own each (fun setting _ => setting.located allows) fun sent same => ?_
    subst same
    refine located_transact allows state _ (fun output after ran succeeded => ?_) each
    exact received said sent state running ⟨output, after, ran, succeeded⟩
  intro said step state running
  obtain ⟨before, after⟩ := running.invariant (fun world costs each => each.of_accounts rfl rfl) own
    begins
  exact ⟨before.accounts, after.accounts⟩

/-- Whoever is sent currency by a step that ends well is in the ledger after it. -/
theorem Step.Astray.known (astray : step.Astray state) :
    ((stateAfter (runStep (onDummy files maxDepth) step state)).world.account? []).isSome := by
  obtain ⟨sent, rfl, kind, bare, nobody, output, after, ran, succeeded⟩ := astray
  have received := (fulfilled_transact ran succeeded).receives kind bare
  rw [nobody] at received
  have same : (stateAfter (runStep (onDummy files maxDepth) (.transaction sent) state)).world =
      after.world := by
    refine (view_stateAfter_bind (fun _ => world_reportGas _) state).trans ?_
    rw [world_transactionStep]
    change (stateAfter (transact Dummy.machine sent.identifier sent.transaction state)).world = _
    rw [ran]
    rfl
  rw [same]
  exact received

/-- Throughout the run of a file every account is found at its own address, which has the right length or
is empty, and it always has the right length exactly if no transfer without receiver ends well. -/
theorem Launched.addresses
    (read : readFile (onDummy files maxDepth) references path = .ok (scenario, within))
    (launched : Launched (onDummy files maxDepth) (withOptions options scenario) within start) :
    Throughout (onDummy files maxDepth) (withOptions options scenario) within start
        (World.Located Address.Optional) ∧
      (Throughout (onDummy files maxDepth) (withOptions options scenario) within start
          (World.Located Address.Proper) ↔
        ∀ said step state, Running (onDummy files maxDepth) (withOptions options scenario) within start
          said step state → ¬step.Astray state) := by
  refine ⟨?_, ?_, ?_⟩
  · refine launched.located (fun _ => .inl) fun said sent state running _ _ _ => ?_
    exact running.directed read sent rfl
  · intro proper said step state running astray
    -- the transfer leaves an account at the empty address
    obtain ⟨account, found⟩ := Option.isSome_iff_exists.1 (Step.Astray.known astray)
    have located := (proper said step state running).2 [] account found
    cases located.2
  · intro none
    refine launched.located (fun _ => id) fun said sent state running endsWell kind bare => ?_
    rcases running.directed read sent rfl with addressed | nobody
    · exact addressed
    · exact absurd ⟨sent, rfl, kind, bare, nobody, endsWell⟩ (none said _ state running)

end Launched

/-! ### Two transfers -/

/-- A file in which an account is set and sends currency to a receiver, if one is named. -/
def transferFile (receiver : String) : Files.Node :=
  .file (Utf8.ofString ("\x7b\"steps\": [\x7b\"step\": \"setState\", " ++
    "\"accounts\": \x7b\"address:a\": \x7b\"nonce\": \"1\", \"balance\": \"100\"\x7d\x7d\x7d, " ++
    "\x7b\"step\": \"transfer\", \"id\": \"pay\", \"tx\": \x7b\"from\": \"address:a\", " ++ receiver ++
    "\"egldValue\": \"30\", \"gasLimit\": \"0\", \"gasPrice\": \"0\"\x7d\x7d]\x7d"))

/-- A directory with two files, of which one names its receiver. -/
def purse : Files.Tree where
  root := .directory
    [("paid.json", transferFile "\"to\": \"address:b\", "), ("stray.json", transferFile "")]
  workingDirectory := "/"

/-- Whether a file has two wanted steps, comes to the second one and leaves an account at an address by it. -/
def leaves (wanted : Step → Bool) (address : Bytes) :
    Except Fault (Scenario × References) → Bool
  | .ok (scenario, within) =>
    match scenario.steps with
    | [first, second] =>
      wanted first && wanted second && endedWith (fun _ state =>
          ((stateAfter (runStep (onDummy purse 0) second state)).world.account? address).isSome)
        (upTo (onDummy purse 0).machine (externalSteps (onDummy purse 0)) (withOptions {} scenario)
          within [first] (.new Dummy.machine))
    | _ => false
  | .error _ => false

theorem running_of_leaves {wanted : Step → Bool} {address : Bytes}
    {file : Except Fault (Scenario × References)} (left : leaves wanted address file = true) :
    ∃ scenario within second state, file = .ok (scenario, within) ∧
      (∀ step ∈ scenario.steps, wanted step = true) ∧
      Running (onDummy purse 0) (withOptions {} scenario) within (.new Dummy.machine) [] second state ∧
      ((stateAfter (runStep (onDummy purse 0) second state)).world.account? address).isSome := by
  unfold leaves at left
  split at left
  · rename_i scenario within
    split at left
    · rename_i first second steps
      simp only [Bool.and_eq_true] at left
      obtain ⟨_, state, ran, known⟩ := ok_of_endedWith left.2
      exact ⟨scenario, within, second, state, rfl, by simpa [steps] using left.1,
        .own ⟨[first], [], steps, ran⟩, known⟩
    · cases left
  · cases left

/-- The receiver that is named. -/
def payee : Bytes := Utf8.ofString "b_______________________________"

/-- A step runs no other file, and names a receiver if it sends something. -/
def named : Step → Bool
  | .externalSteps _ => false
  | .transaction sent => !sent.transaction.receiver.value.isEmpty
  | _ => true

/-- The receiver that is named comes into the ledger, and every address has the right length. -/
theorem addresses_paid : ∃ scenario within second state,
    readFile (onDummy purse 0) .none "/paid.json" = .ok (scenario, within) ∧
      Running (onDummy purse 0) (withOptions {} scenario) within (.new Dummy.machine) [] second state ∧
      ((stateAfter (runStep (onDummy purse 0) second state)).world.account? payee).isSome ∧
      Throughout (onDummy purse 0) (withOptions {} scenario) within (.new Dummy.machine)
        (World.Located Address.Proper) := by
  have left : leaves named payee (readFile (onDummy purse 0) .none "/paid.json") = true := by
    decide +kernel
  obtain ⟨scenario, within, second, state, read, every, running, known⟩ := running_of_leaves left
  refine ⟨scenario, within, second, state, read, running, known, ?_⟩
  refine ((Launched.addresses read (.new _ _)).2).2 fun said step state running astray => ?_
  have listed : step ∈ (withOptions {} scenario).steps := by
    refine running.mem_steps fun external listed => ?_
    cases every _ listed
  obtain ⟨sent, rfl, -, -, nobody, -⟩ := astray
  have name := every _ listed
  simp [named, nobody] at name

/-- The receiver that is not named comes into the ledger too. -/
theorem addresses_not_proper :
    ¬∀ (files : Files.Tree) (maxDepth : Nat) (references within : References) (path : String)
      (scenario : Scenario) (options : FileOptions) (start : Executor Dummy),
      readFile (onDummy files maxDepth) references path = .ok (scenario, within) →
        Launched (onDummy files maxDepth) (withOptions options scenario) within start →
          Throughout (onDummy files maxDepth) (withOptions options scenario) within start
            (World.Located Address.Proper) := by
  intro proper
  have left : leaves (fun _ => true) [] (readFile (onDummy purse 0) .none "/stray.json") = true := by
    decide +kernel
  obtain ⟨scenario, within, second, state, read, -, running, known⟩ := running_of_leaves left
  obtain ⟨account, found⟩ := Option.isSome_iff_exists.1 known
  have located := (proper purse 0 .none within _ scenario {} _ read (.new _ _) [] second state running).2
  cases (located [] account found).2

end Run
end ChainScenario
