import ChainScenario.Contract.Gas
import ChainScenario.Expression.Render

/-!
# Gas reports

The gas that calls used, by contract and function. Sums stay at the greatest number of 64 bits.
-/
namespace ChainScenario.GasReport

/-- The sum of two amounts of gas. -/
def add (left right : UInt64) : UInt64 :=
  UInt64.ofNat (min (left.toNat + right.toNat) (UInt64.size - 1))

def total (amounts : List UInt64) : UInt64 := amounts.foldl add 0

def functionLine (function : String) (calls : List UInt64) : String :=
  let number := calls.length
  s!"GasTrace: functionName: {function}, totalGasUsed: {total calls}, numberOfCalls: {number}\n"

def contractLines (address : Bytes) (functions : OrdMap String (List UInt64)) : String :=
  s!"Gas Trace for SC Address: {Expression.render .address address}\n" ++
    String.join (functions.toList.map fun entry => functionLine entry.1 entry.2)

def render (trace : GasTrace) : String :=
  let used := trace.values.flatMap fun functions => functions.values.map total
  String.join (trace.toList.map fun entry => contractLines entry.1 entry.2) ++
    s!"TotalGasUsedByAPIs: {total used}\n"

end ChainScenario.GasReport
