import ChainScenario.Proofs.Nesting
import ChainScenario.Proofs.ResultCheck

/-!
# Verdicts of transaction steps

A transaction step first runs its transaction and then looks at the result, without touching the state
again. Main statement: `transactionStep_verdict`, when a step passes, and what it leaves behind either way.
-/
namespace ChainScenario

/-- What a step asks of the result of its transaction: to meet the expectation, or to be a success where
none is written. -/
def TransactionStep.Met (step : TransactionStep) (checkGas : Bool) (output : CallOutput) : Prop :=
  match step.expectation with
  | some expected => expected.Met checkGas output
  | none => output.returnCode = .ok

namespace Run

variable {σ : Type} {machine : Machine σ} {step : TransactionStep} {executor : Executor σ}

theorem judge_ok {checkGas : Bool} {output : CallOutput} :
    judge checkGas step output = .ok () ↔ step.Met checkGas output := by
  unfold judge TransactionStep.Met
  cases step.expectation with
  | some expected =>
    dsimp only
    rw [ok_mapError, ResultCheck.compare_ok]
  | none => simp [CallOutput.succeeded]

/-- To take over a result leaves the state alone, and ends well if the result does. -/
theorem ok_takeOver {ε α : Type} {result : Except ε α} {wrap : ε → Fault} {value : α}
    {after : Executor σ} :
    ofExcept result wrap executor = .ok value after ↔ result = .ok value ∧ after = executor := by
  cases result with
  | ok given => simp [ofExcept]
  | error fault => simp [ofExcept]

theorem ok_transactionStep {after : Executor σ} :
    transactionStep machine step executor = .ok () after ↔
      ∃ output, transact machine step.identifier step.transaction executor = .ok output after ∧
        step.Met executor.checkGas output := by
  rw [transactionStep, ok_bind]
  -- the switch for remaining gas is read behind the transaction, which leaves it as it was
  have switch : ∀ {output middle},
      transact machine step.identifier step.transaction executor = .ok output middle →
        middle.checkGas = executor.checkGas :=
    fun ran => congrArg Frame.checkGas ((framed_transact machine _ _).ok ran)
  constructor
  · rintro ⟨output, middle, ran, judged⟩
    rw [get_bind] at judged
    obtain ⟨accepted, rfl⟩ := ok_takeOver.1 judged
    exact ⟨output, ran, judge_ok.1 (switch ran ▸ accepted)⟩
  · rintro ⟨output, ran, met⟩
    refine ⟨output, after, ran, ?_⟩
    rw [get_bind]
    exact ok_takeOver.2 ⟨judge_ok.2 (switch ran ▸ met), rfl⟩

/-- A transaction step passes exactly if its transaction yields a result that the step asks for. A check
that is written out accepts its own value alone, one of a list accepts the lists that it accepts item by
item, and the others accept everything. Whatever a step expects, it leaves the state that its transaction
leaves. -/
theorem transactionStep_verdict (machine : Machine σ) (step : TransactionStep)
    (executor : Executor σ) :
    ((∃ after, transactionStep machine step executor = .ok () after) ↔
      ∃ output after,
        transact machine step.identifier step.transaction executor = .ok output after ∧
          step.Met executor.checkGas output) ∧
    (∀ {α : Type} [DecidableEq α] (expected : Check α) (actual : α), expected.accepts actual ↔
      ∀ written, expected = .exactly written → written.value = actual) ∧
    (∀ (expected : ListCheck) (actual : List Bytes), ListCheck.accepts expected actual ↔
      ∀ listed, expected = .exactly listed →
        List.Forall₂ (fun check value => check.accepts value) listed.value actual) ∧
    stateAfter (transactionStep machine step executor) =
      stateAfter (transact machine step.identifier step.transaction executor) ∧
    ∀ other, stateAfter (transactionStep machine { step with expectation := other } executor) =
      stateAfter (transactionStep machine step executor) := by
  refine ⟨?verdict, fun _ _ => Check.accepts_iff, fun _ _ => ListCheck.accepts_iff,
    stateAfter_transactionStep machine step executor, ?any⟩
  case verdict =>
    constructor
    · rintro ⟨after, passed⟩
      obtain ⟨output, ran, met⟩ := ok_transactionStep.1 passed
      exact ⟨output, after, ran, met⟩
    · rintro ⟨output, after, ran, met⟩
      exact ⟨after, ok_transactionStep.2 ⟨output, ran, met⟩⟩
  case any =>
    intro other
    rw [stateAfter_transactionStep, stateAfter_transactionStep]

end Run
end ChainScenario
