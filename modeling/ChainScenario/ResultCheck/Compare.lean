import ChainScenario.ResultCheck.Mismatch
import ChainScenario.Text.Utf8

/-!
# Comparing results

The result of a transaction is compared part by part; the first part that differs is told. The
remaining gas counts only while gas is checked.
-/
namespace ChainScenario.ResultCheck

/-- Goes on if what is there was accepted. -/
def require (accepted : Bool) (mismatch : ε) : Except ε Unit :=
  if accepted then .ok () else .error mismatch

def logEntry (expected : LogCheck) (actual : LogEntry) : Except LogMismatch Unit := do
  require (expected.address.accepts actual.address) (.address expected.address actual.address)
  require (expected.identifier.accepts actual.identifier)
    (.identifier expected.identifier actual.identifier)
  require (ListCheck.accepts expected.topics actual.topics)
    (.topics expected.topics actual.topics)
  require (ListCheck.accepts expected.data actual.data) (.data expected.data actual.data)

/-- Compares log entries in order, the first of them at `index`. -/
def logEntries : Nat → List LogCheck → List LogEntry → Except Mismatch Unit
  | index, expected :: checks, actual :: entries => do
    (logEntry expected actual).mapError (.log index)
    logEntries (index + 1) checks entries
  | _, _, _ => .ok ()

def logs (expected : LogsCheck) (actual : List LogEntry) : Except Mismatch Unit :=
  match expected with
  | .unspecified | .any => .ok ()
  | .entries checks moreAllowed => do
    let want := checks.length
    let count := actual.length
    -- with a plus sign at the end there may be more, but never fewer
    require (moreAllowed || want == count) (.logCount want count)
    require (want ≤ count) (.tooFewLogs want count)
    logEntries 0 checks actual

/-- Compares the result of a transaction. -/
def compare (checkGas : Bool) (expected : Expectation) (actual : CallOutput) :
    Except Mismatch Unit := do
  require (expected.status.accepts actual.returnCode.number)
    (.status expected.status actual.returnCode actual.message)
  require (expected.message.accepts (Utf8.ofString actual.message))
    (.returnMessage expected.message actual.message)
  require (ListCheck.accepts expected.out actual.returnData)
    (.out expected.out actual.returnData)
  require (expected.refund.accepts actual.gasRefund) (.refund expected.refund actual.gasRefund)
  require (!checkGas || expected.gas.accepts actual.gasRemaining)
    (.gas expected.gas actual.gasRemaining)
  logs expected.logs actual.logs

end ChainScenario.ResultCheck
