import ChainScenario.Bytes.Basic
import ChainScenario.Scenario.Written

/-!
# Checks

What is expected of a value: nothing, anything that is there, or one value exactly. Only an exact
check can fail (`accepts_iff`).
-/
namespace ChainScenario

/-- An expectation of a value. -/
inductive Check (α : Type) where
  /-- Nothing was written. -/
  | unspecified
  | any
  /-- Only this value will do. -/
  | exactly (expected : Written α)
  deriving Repr, Inhabited

namespace Check

def implied (value : α) : Check α := .exactly (.implied value)

def expected? : Check α → Option α
  | .exactly expected => some expected.value
  | _ => none

/-- Whether a check is met by a value. -/
def accepts [DecidableEq α] (check : Check α) (actual : α) : Bool :=
  match check with
  | .exactly expected => decide (expected.value = actual)
  | _ => true

theorem accepts_iff [DecidableEq α] {check : Check α} {actual : α} :
    check.accepts actual ↔ ∀ written, check = .exactly written → written.value = actual := by
  cases check <;> simp [accepts]

def source : Check α → Json
  | .unspecified => .string ""
  | .any => .string "*"
  | .exactly expected => expected.source

/-- The source as it was written. -/
def text (check : Check α) : String := check.source.bareText

/-- The source as compact JSON. -/
def json (check : Check α) : String := check.source.compact

end Check

/-- An expectation of a list of byte strings, item by item. -/
abbrev ListCheck := Check (List (Check Bytes))

/-- Whether two lists have the same length and their items are related in order. -/
def pairwiseAll (related : α → β → Bool) : List α → List β → Bool
  | [], [] => true
  | a :: left, b :: right => related a b && pairwiseAll related left right
  | _, _ => false

theorem pairwiseAll_iff (related : α → β → Bool) (left : List α) (right : List β) :
    pairwiseAll related left right = true ↔
      left.length = right.length ∧ ∀ pair ∈ left.zip right, related pair.1 pair.2 = true := by
  induction left generalizing right with
  | nil => cases right <;> simp [pairwiseAll]
  | cons a left ih => cases right <;> simp [pairwiseAll, ih, and_left_comm]

namespace ListCheck

/-- Whether every item meets its check and none is missing or left over. -/
def accepts (check : ListCheck) (actual : List Bytes) : Bool :=
  match check with
  | .exactly expected => pairwiseAll Check.accepts expected.value actual
  | _ => true

/-- The sources of the items, between commas. -/
def itemsJson (check : ListCheck) : String :=
  match check with
  | .exactly expected => ", ".intercalate (expected.value.map Check.json)
  | other => other.json

end ListCheck
end ChainScenario
