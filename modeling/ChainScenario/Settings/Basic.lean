import ChainScenario.Settings.Environment

/-!
# Settings

What can be set for runs from the command line, and how merged settings are understood: a value of
another kind is converted where that makes sense and refused where it does not.
-/
namespace ChainScenario

/-- What can be set. -/
structure Settings where
  /-- How much is logged, from errors only to everything. -/
  logLevel : Nat
  /-- How the names of scenario files end. -/
  fileSuffix : String
  /-- How deeply scenario files may run each other. -/
  maxDepth : Nat
  /-- Patterns of files that are not run. -/
  excluded : List String
  /-- Whether gas is traced whatever the files say. -/
  forceTraceGas : Bool
  deriving Repr, DecidableEq

namespace Settings

/-- The settings before any source is read. -/
def defaults : Tree :=
  .branch
    [("logging", .branch [("level", .leaf (.integer 1) none)] none),
      ("scenario", .branch
        [("file_suffix", .leaf (.text ".scen.json") none),
          ("max_external_steps_depth", .leaf (.integer 64) none),
          ("excluded", .list [] none),
          ("force_trace_gas", .leaf (.boolean false) none)] none)]
    none

/-- What is wrong with settings. -/
inductive Fault where
  /-- A file is no TOML document. -/
  | malformed (file reason : String)
  /-- A key leads to an item before the first one or too far behind the last one. -/
  | noSuchItem
  /-- A value is not what the setting must be and cannot be converted. -/
  | wrongKind (found wanted key : String) (origin : Option String)
  /-- A value is neither a table nor a list where one of them must stand. -/
  | wrongShape (found wanted : String)
  /-- A list in place of a table has too few values. -/
  | tooShort (length : Nat) (wanted : String)
  /-- A table lacks an entry. -/
  | missing (name : String)
  deriving Repr, DecidableEq

/-- What is wrong with settings, in words. -/
def Fault.message : Fault → String
  | malformed file reason => s!"{reason} in {file}"
  | noSuchItem => "no such item"
  | wrongKind found wanted key none => s!"invalid type: {found}, expected {wanted} for key `{key}`"
  | wrongKind found wanted key (some origin) =>
    s!"invalid type: {found}, expected {wanted} for key `{key}` in {origin}"
  | wrongShape found wanted => s!"invalid type: {found}, expected {wanted}"
  | tooShort length wanted => s!"invalid length {length}, expected {wanted}"
  | missing name => s!"missing field `{name}`"

namespace Tree

/-- What stands in merged settings, in words. -/
def describe : Tree → String
  | .gap => "unit value"
  | .leaf value _ => value.describe
  | .list .. => "sequence"
  | .branch .. => "map"

def refuse (tree : Tree) (key wanted : String) : Except Fault α :=
  let found := match tree with
    | .leaf (.integer value) _ => s!"integer 64 bit `{value}`"
    | tree => tree.describe
  .error (.wrongKind found wanted key tree.origin?)

/-- A natural of 64 bits. -/
def toWord (tree : Tree) (key : String) : Except Fault Nat :=
  match tree with
  | .leaf (.boolean value) _ => .ok (if value then 1 else 0)
  | .leaf (.integer value) _ =>
    if 0 ≤ value then .ok value.toNat
    else tree.refuse key "an unsigned 64 bit or less integer"
  | .leaf (.float value) _ => .ok value.toWord
  | .leaf (.text text) _ =>
    match LowerCase.text text with
    | "true" | "on" | "yes" => .ok 1
    | "false" | "off" | "no" => .ok 0
    | _ =>
      let digits := match text.toList with
        | '+' :: digits => digits
        | digits => digits
      match Decimal.digits? digits with
      | some digits =>
        let value := Decimal.ofDigits digits
        if value ≤ Extended.greatestWord then .ok value else tree.refuse key "an integer"
      | none => tree.refuse key "an integer"
  | _ => tree.refuse key "an integer"

/-- A truth value. -/
def toBool (tree : Tree) (key : String) : Except Fault Bool :=
  match tree with
  | .leaf (.boolean value) _ => .ok value
  | .leaf (.integer value) _ => .ok (value ≠ 0)
  | .leaf (.float value) _ => .ok (!value.isZero)
  | .leaf (.text text) origin =>
    match LowerCase.text text with
    | "1" | "true" | "on" | "yes" => .ok true
    | "0" | "false" | "off" | "no" => .ok false
    | text => (Tree.leaf (.text text) origin).refuse key "a boolean"
  | _ => tree.refuse key "a boolean"

def toText (tree : Tree) (key : String) : Except Fault String :=
  match tree with
  | .leaf (.boolean value) _ => .ok (toString value)
  | .leaf (.integer value) _ => .ok (toString value)
  | .leaf (.float value) _ => .ok value.text
  | .leaf (.text text) _ => .ok text
  | _ => tree.refuse key "a string"

def toTexts (tree : Tree) (key : String) : Except Fault (List String) :=
  match tree with
  | .list items _ => items.zipIdx.mapM fun (item, index) => item.toText s!"{key}[{index}]"
  | tree => .error (.wrongShape tree.describe "a sequence")

/-- A record of settings, whose values a list may give in the order of the names: its settings with
their keys. -/
def toRecord (tree : Tree) (key kind : String) (names : List String) :
    Except Fault (String → Except Fault (Tree × String)) :=
  match tree with
  | .branch entries _ => .ok fun name =>
    match entryNamed? name entries with
    | some tree => .ok (tree, if key.isEmpty then name else s!"{key}.{name}")
    | none => .error (.missing name)
  | .list items _ => .ok fun name =>
    let index := names.idxOf name
    match items[index]? with
    | some item => .ok (item, s!"{key}[{index}]")
    | none =>
      let size := names.length
      let noun := if size = 1 then "element" else "elements"
      .error (.tooShort index s!"struct {kind} with {size} {noun}")
  | tree => .error (.wrongShape tree.describe s!"struct {kind}")

end Tree

/-- Understands merged settings. -/
def ofTree (tree : Tree) : Except Fault Settings := do
  let all ← tree.toRecord "" "Settings" ["logging", "scenario"]
  let (logging, loggingKey) ← all "logging"
  let logging ← logging.toRecord loggingKey "LoggingSettings" ["level"]
  let (level, levelKey) ← logging "level"
  let logLevel ← level.toWord levelKey
  let (scenario, scenarioKey) ← all "scenario"
  let scenario ← scenario.toRecord scenarioKey "ScenarioSettings"
    ["file_suffix", "max_external_steps_depth", "excluded", "force_trace_gas"]
  let (suffix, suffixKey) ← scenario "file_suffix"
  let fileSuffix ← suffix.toText suffixKey
  let (depth, depthKey) ← scenario "max_external_steps_depth"
  let maxDepth ← depth.toWord depthKey
  let (patterns, patternsKey) ← scenario "excluded"
  let excluded ← patterns.toTexts patternsKey
  let (force, forceKey) ← scenario "force_trace_gas"
  let forceTraceGas ← force.toBool forceKey
  return { logLevel, fileSuffix, maxDepth, excluded, forceTraceGas }

end Settings
end ChainScenario
