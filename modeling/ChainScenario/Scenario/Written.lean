import ChainScenario.Json.Writer

/-!
# Values with their source

A value of a scenario keeps the JSON it was read from, which is what diagnostics show.
-/
namespace ChainScenario

/-- A value and the JSON it was read from. -/
structure Written (α : Type) where
  value : α
  source : Json
  deriving Repr, Inhabited

namespace Written

/-- A value nobody wrote: its source is the empty string. -/
def implied (value : α) : Written α := ⟨value, .string ""⟩

def text (written : Written α) : String := written.source.bareText

/-- The source as compact JSON. -/
def json (written : Written α) : String := written.source.compact

/-- The same source with another reading of its value. -/
def map (f : α → β) (written : Written α) : Written β := ⟨f written.value, written.source⟩

end Written
end ChainScenario
