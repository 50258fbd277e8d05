import ChainScenario.Proofs.Checks
import ChainScenario.ResultCheck.Compare

/-!
# What a check of a result means

`Expectation.Met` says what an expect section asks of the result of a transaction. Its parts are checks
of single values and of lists, which accept what `Check.accepts_iff` and `ListCheck.accepts_iff` say. The
comparison stops at the first part that differs, so it ends well exactly if every part is met.

Main statements:
- `compare_ok`: a result is accepted exactly if the expectation is met.
-/
namespace ChainScenario

/-! ## Meeting an expectation -/

/-- All parts of a log entry meet their checks. -/
structure LogCheck.Met (expected : LogCheck) (actual : LogEntry) : Prop where
  address : expected.address.accepts actual.address
  identifier : expected.identifier.accepts actual.identifier
  topics : ListCheck.accepts expected.topics actual.topics
  data : ListCheck.accepts expected.data actual.data

/-- The first entries of a log meet the checks in order, and there are others only if there may be. -/
structure LogsMet (checks : List LogCheck) (moreAllowed : Bool) (actual : List LogEntry) : Prop where
  enough : checks.length ≤ actual.length
  exact : moreAllowed = false → checks.length = actual.length
  each : ∀ pair ∈ checks.zip actual, pair.1.Met pair.2

/-- A log is as expected, if anything is expected of it. -/
def LogsCheck.Met (expected : LogsCheck) (actual : List LogEntry) : Prop :=
  match expected with
  | .unspecified | .any => True
  | .entries checks moreAllowed => LogsMet checks moreAllowed actual

/-- All parts of a result meet their checks; the remaining gas counts only while gas is checked. -/
structure Expectation.Met (expected : Expectation) (checkGas : Bool) (actual : CallOutput) : Prop where
  status : expected.status.accepts actual.returnCode.number
  message : expected.message.accepts (Utf8.ofString actual.message)
  out : ListCheck.accepts expected.out actual.returnData
  refund : expected.refund.accepts actual.gasRefund
  gas : checkGas = true → expected.gas.accepts actual.gasRemaining
  logs : expected.logs.Met actual.logs

namespace ResultCheck

/-! ## What is accepted is met -/

section Require

variable {ε δ : Type} {accepted : Bool} {mismatch : ε}

@[simp] theorem require_ok : require accepted mismatch = .ok () ↔ accepted = true := by
  cases accepted <;> simp [require]

@[simp] theorem require_bind_ok {next : Unit → Except ε Unit} :
    (require accepted mismatch >>= next) = .ok () ↔ accepted = true ∧ next () = .ok () := by
  cases accepted <;> simp [require, bind, Except.bind]

/-- A comparison inside another one accepts what it accepts alone. -/
@[simp] theorem mapError_bind_ok {inner : Except δ Unit} {told : δ → ε}
    {next : Unit → Except ε Unit} :
    (inner.mapError told >>= next) = .ok () ↔ inner = .ok () ∧ next () = .ok () := by
  cases inner with
  | error fault =>
    constructor
    · intro ended
      cases ended
    · rintro ⟨ended, -⟩
      cases ended
  | ok value => exact (and_iff_right rfl).symm

end Require

theorem logEntry_ok {expected : LogCheck} {actual : LogEntry} :
    logEntry expected actual = .ok () ↔ expected.Met actual := by
  simp only [logEntry, require_bind_ok, require_ok]
  constructor
  · rintro ⟨address, identifier, topics, data⟩
    exact ⟨address, identifier, topics, data⟩
  · rintro ⟨address, identifier, topics, data⟩
    exact ⟨address, identifier, topics, data⟩

theorem logEntries_ok {index : Nat} {checks : List LogCheck} {actual : List LogEntry} :
    logEntries index checks actual = .ok () ↔ ∀ pair ∈ checks.zip actual, pair.1.Met pair.2 := by
  -- By induction on the checks; where one of the lists ends, nothing more is compared.
  induction checks generalizing index actual with
  | nil => simp [logEntries]
  | cons expected rest ih =>
    cases actual with
    | nil => simp [logEntries]
    | cons entry behind => simp [logEntries, logEntry_ok, ih]

theorem logs_ok {expected : LogsCheck} {actual : List LogEntry} :
    logs expected actual = .ok () ↔ expected.Met actual := by
  cases expected with
  | unspecified => simp [logs, LogsCheck.Met]
  | any => simp [logs, LogsCheck.Met]
  | entries checks moreAllowed =>
    simp only [logs, require_bind_ok, logEntries_ok, LogsCheck.Met, Bool.or_eq_true, beq_iff_eq,
      decide_eq_true_eq]
    constructor
    · rintro ⟨counted, enough, each⟩
      refine ⟨enough, fun strict => ?_, each⟩
      simpa [strict] using counted
    · rintro ⟨enough, exact, each⟩
      refine ⟨?_, enough, each⟩
      cases moreAllowed with
      | true => exact .inl rfl
      | false => exact .inr (exact rfl)

/-- A result is accepted exactly if the expectation is met. -/
theorem compare_ok {checkGas : Bool} {expected : Expectation} {actual : CallOutput} :
    compare checkGas expected actual = .ok () ↔ expected.Met checkGas actual := by
  simp only [compare, require_bind_ok, logs_ok, Bool.or_eq_true, Bool.not_eq_true',
    ← Bool.not_eq_true]
  constructor
  · rintro ⟨status, message, out, refund, gas, logs⟩
    exact ⟨status, message, out, refund, fun checked => gas.resolve_left (not_not_intro checked), logs⟩
  · rintro ⟨status, message, out, refund, gas, logs⟩
    exact ⟨status, message, out, refund, Decidable.not_or_of_imp gas, logs⟩

end ResultCheck
end ChainScenario
