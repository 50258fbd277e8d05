import ChainScenario.Run.Steps

/-!
# Suites

All scenario files below a directory, each run as a test of its own and counted. A failing file does
not keep the others from running.
-/
namespace ChainScenario.Run

open Expression (References)

/-- A directory of scenario files. -/
structure Suite where
  /-- The directory that names of files start from. -/
  general : String
  /-- The part of it that is run. -/
  specific : String
  /-- How the names of scenario files end. -/
  suffix : String
  /-- Patterns of files that are not run. -/
  excluded : List String
  forceTraceGas : Bool

/-- How many files passed, failed and were skipped. -/
structure Tally where
  passed : Nat := 0
  failed : Nat := 0
  skipped : Nat := 0

/-- The patterns of excluded files. -/
def Suite.exclusions (suite : Suite) : Except Fault (List Glob) :=
  suite.excluded.mapM fun pattern =>
    let path := Path.join suite.general pattern
    (Glob.ofString path).mapError (.badExclusion path)

/-- The scenario files of a suite, in the order in which they run. -/
def Suite.paths (suite : Suite) (files : Files.Tree) : Except Fault (List String) := do
  let root := Path.join suite.general suite.specific
  let paths ← (files.walk root).mapError (.cannotWalk root)
  return paths.filter fun path => suite.suffix.toList.isSuffixOf path.toList

/-- Runs a file as a test of its own, unless it is excluded, and counts it. -/
def suiteFile (setup : Setup σ) (references : References) (suite : Suite) (exclusions : List Glob)
    (tally : Tally) (path : String) : Run σ Tally := do
  let name := (Path.relativeTo? suite.general path).getD path
  print s!"Scenario: {name} ... "
  if exclusions.any (·.isMatch path) then
    printLine "  skip"
    return { tally with skipped := tally.skipped + 1 }
  else
    reset setup.machine
    let options : FileOptions := { newTest := true, forceTraceGas := suite.forceTraceGas }
    match ← attempt (runFile setup references path options) with
    | .ok () =>
      printLine "  ok"
      return { tally with passed := tally.passed + 1 }
    | .error fault =>
      printLine s!"  FAIL: {fault.message}"
      return { tally with failed := tally.failed + 1 }

/-- Runs a suite; it fails if one of its files does. -/
def runSuite (setup : Setup σ) (references : References) (suite : Suite) : Run σ Unit := do
  -- neither a bad pattern nor a missing directory lets any file run
  let exclusions ← ofExcept suite.exclusions id
  let paths ← ofExcept (suite.paths setup.files) id
  let tally ← paths.foldlM (suiteFile setup references suite exclusions) {}
  let passed := tally.passed
  let failed := tally.failed
  let skipped := tally.skipped
  printLine s!"Done. Passed: {passed}. Failed: {failed}. Skipped: {skipped}."
  if failed ≠ 0 then throw .someFailed

end ChainScenario.Run
