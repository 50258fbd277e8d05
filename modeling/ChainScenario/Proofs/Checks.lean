import ChainScenario.Run.SetState
import ChainScenario.Scenario.Check
import Mathlib.Data.List.Forall2

/-!
# What a check accepts

A check says which values will do. `Check.accepts_iff` says it for a single value and
`ListCheck.accepts_iff` for a list, item by item; whatever is checked of a ledger or of a result is
checked by these two. A value that is given is expected exactly (`Check.given`).
-/
namespace ChainScenario

namespace Check

variable {α : Type} [DecidableEq α]

/-- A value that nobody wrote must be there exactly. -/
@[simp] theorem accepts_implied {value actual : α} :
    (implied value).accepts actual = true ↔ actual = value := by
  simp [implied, Written.implied, accepts, eq_comm]

/-- A value that is given is expected exactly, one that is not is not looked at. -/
def given {α : Type} (written : Option (Written α)) : Check α := written.elim .unspecified .exactly

theorem accepts_given (fallback : α) (written : Option (Written α)) :
    (given written).accepts (valueOr fallback written) = true := by
  cases written with
  | none => rfl
  | some written => exact decide_eq_true rfl

end Check

namespace ListCheck

/-- A list is accepted if it has an item for every check and each item is accepted by its own check. -/
theorem accepts_iff {expected : ListCheck} {actual : List Bytes} :
    ListCheck.accepts expected actual ↔ ∀ listed, expected = .exactly listed →
      List.Forall₂ (fun check value => check.accepts value) listed.value actual := by
  cases expected with
  | unspecified => simp [accepts]
  | any => simp [accepts]
  | exactly listed =>
    rw [accepts, pairwiseAll_iff]
    constructor
    · rintro ⟨length, each⟩ _ ⟨⟩
      exact List.forall₂_iff_zip.2 ⟨length, fun member => each _ member⟩
    · intro accepted
      obtain ⟨length, each⟩ := List.forall₂_iff_zip.1 (accepted listed rfl)
      exact ⟨length, fun _ member => each member⟩

/-- Items that are all expected exactly are accepted. -/
theorem accepts_exactly (items : List (Written Bytes)) :
    ListCheck.accepts (.implied (items.map .exactly)) (items.map (·.value)) = true := by
  refine accepts_iff.2 ?_
  rintro _ ⟨⟩
  simp only [Written.implied, List.forall₂_map_left_iff, List.forall₂_map_right_iff,
    List.forall₂_same]
  exact fun _ _ => decide_eq_true rfl

end ListCheck
end ChainScenario
