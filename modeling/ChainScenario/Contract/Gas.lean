import ChainScenario.Bytes.Basic
import ChainScenario.OrdMap

/-!
# Gas

Costs by section and operation, and a record of the gas that calls used.
-/
namespace ChainScenario

/-- Gas costs by section, then by operation. -/
abbrev GasCosts := OrdMap String (OrdMap String UInt64)

/-- The section with the costs of built-in functions. -/
def builtinSection : String := "BuiltInCost"

/-- Gas used by contract address, then by function, one number a call. -/
abbrev GasTrace := OrdMap Bytes (OrdMap String (List UInt64))

/-- The trace with a call added. -/
def GasTrace.record (trace : GasTrace) (address : Bytes) (function : String) (gas : UInt64) :
    GasTrace :=
  let functions := trace.getD address .empty
  trace.insert address (functions.insert function (functions.getD function [] ++ [gas]))

end ChainScenario
