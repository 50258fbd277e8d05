import ChainScenario.Number.Extended
import ChainScenario.Text.Shown

/-!
# Values of settings

What a file or a variable gives for a setting, before it is known what the setting must be.
-/
namespace ChainScenario.Settings

/-- A value that holds no other values. -/
inductive Scalar where
  | boolean (value : Bool)
  | integer (value : Int)
  | float (value : Extended)
  | text (value : String)
  deriving Inhabited, Repr, DecidableEq

/-- What a value is, in words. -/
def Scalar.describe : Scalar → String
  | boolean value => s!"boolean `{value}`"
  | integer value => s!"integer `{value}`"
  | float value =>
    let text := value.pointedText
    s!"floating point `{text}`"
  | text value => "string " ++ Shown.double value

/-- A value as a source of settings gives it. -/
inductive Value where
  | scalar (value : Scalar)
  | list (items : List Value)
  | table (entries : List (String × Value))
  deriving Inhabited

/-- The first natural that is no integer of 64 bits with a sign. -/
def signedLimit : Nat := 0x8000000000000000

/-- Whether a number is an integer of 64 bits with a sign. -/
def fitsWord (value : Int) : Bool := -(signedLimit : Int) ≤ value && value < signedLimit

def entryNamed? (name : String) : List (String × α) → Option α
  | [] => none
  | (other, value) :: entries => if other = name then some value else entryNamed? name entries

/-- Entries with the one of a name set. -/
def setEntry (name : String) (value : α) : List (String × α) → List (String × α)
  | [] => [(name, value)]
  | (other, old) :: entries =>
    if other = name then (name, value) :: entries else (other, old) :: setEntry name value entries

theorem entryNamed?_setEntry (name other : String) (value : α) (entries : List (String × α)) :
    entryNamed? other (setEntry name value entries) =
      if other = name then some value else entryNamed? other entries := by
  induction entries with
  | nil => simp only [setEntry, entryNamed?, eq_comm]
  | cons entry entries ih =>
    obtain ⟨first, old⟩ := entry
    by_cases same : first = name
    · subst same
      simp only [setEntry, if_true, entryNamed?, eq_comm]
      split <;> rfl
    · simp only [setEntry, if_neg same, entryNamed?, ih]
      by_cases here : first = other
      · subst here
        simp [same]
      · simp [here]

end ChainScenario.Settings
