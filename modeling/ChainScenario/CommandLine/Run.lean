import ChainScenario.CommandLine.Help
import ChainScenario.Machine.Dummy
import ChainScenario.Run.Suite
import ChainScenario.Settings.Load

/-!
# Commands

What a command line does to the files and variables it is started with: the text it prints and the
code with which it exits. Settings are loaded before any command is carried out, so that faulty ones
make every command fail.
-/
namespace ChainScenario.CommandLine

/-- What a command line leaves behind. -/
structure Outcome where
  exitCode : UInt32
  output : String
  deriving Repr, DecidableEq

/-- The code for words that make no command. -/
def misuseCode : UInt32 := 2

def failureCode : UInt32 := 1

/-- The code of a program that stops without an answer. -/
def stopCode : UInt32 := 101

/-- A command that went well. -/
def succeeded (output : String) : Outcome := ⟨0, output⟩

/-- A command that failed after printing something. -/
def failed (output reason : String) : Outcome := ⟨failureCode, s!"{output}ERROR: {reason}\n"⟩

/-- Runs what stands at a path: every scenario file below a directory, or one scenario file. -/
def runPath (files : Files.Tree) (settings : Settings) (path : String) (traceGas : Bool) :
    Outcome :=
  let setup : Run.Setup Dummy := ⟨Dummy.machine, files, settings.maxDepth⟩
  let forceTraceGas := settings.forceTraceGas || traceGas
  let references : Expression.References := ⟨"", .empty⟩
  let finish (action : Run Dummy Unit) : Outcome :=
    match action (Run.Executor.new setup.machine) with
    | .ok () executor => succeeded (executor.printed ++ "SUCCESS\n")
    | .error fault executor => failed executor.printed fault.message
  -- a directory is a suite, whatever its name ends in
  if files.isDirectory path then
    finish <| Run.runSuite setup references
      { general := path
        specific := ""
        suffix := settings.fileSuffix
        excluded := settings.excluded
        forceTraceGas }
  else if files.isFile path && settings.fileSuffix.toList.isSuffixOf path.toList then
    finish <| Run.runFile setup references path { forceTraceGas }
  else failed "" "only directories and scenario files accepted as path"

/-- A command that faulty settings keep from being carried out. A key that leads to no item stops the
program before it prints anything. -/
def refused : Settings.Fault → Outcome
  | .noSuchItem => ⟨stopCode, ""⟩
  | fault => failed "" fault.message

/-- Carries out a request. -/
def Request.perform (files : Files.Tree) (environment : Settings.Environment.Variables) :
    Request → Outcome
  | misuse => ⟨misuseCode, ""⟩
  | help topic => succeeded topic.text
  | versionOption => succeeded versionLine
  | version =>
    match Settings.load files environment with
    | .ok _ => succeeded versionLine
    | .error fault => refused fault
  | run path traceGas =>
    match Settings.load files environment with
    | .ok settings => runPath files settings path traceGas
    | .error fault => refused fault

/-- Carries out a command line. -/
def perform (files : Files.Tree) (environment : Settings.Environment.Variables)
    (words : List String) : Outcome :=
  (Request.ofWords words).perform files environment

end ChainScenario.CommandLine
