import ChainScenario.Proofs.Context
import Mathlib.Data.List.TakeDrop
import Mathlib.Logic.Relation

/-!
# Snapshots nest

Between taking a snapshot and going back to it, others may be taken and gone back to. What happens
above a snapshot leaves it and all older ones in place, so that the way back is open at any time.

Main statements:
- `revert_above`: after any operations above a snapshot, going back restores its accounts and leaves
  the older snapshots, and an index that belongs to no snapshot is refused.
-/
namespace ChainScenario
namespace World

/-! ## Going back once -/

theorem snapshot_eq (world : World) :
    snapshot world = .ok world.snapshots.length world.backup := by
  change EStateM.Result.ok world.backup.journalLength world.backup = _
  simp [journalLength, backup]

theorem rollback_eq (world : World) : rollback world = revert world.journalLength world := rfl

/-- An index is that of a snapshot just when it lies between zero and the latest one. -/
theorem exists_snapshot_iff (world : World) (index : Int) :
    (∃ place : Nat, index = place ∧ place < world.snapshots.length) ↔
      ¬ (index < 0 ∨ world.journalLength < index) := by
  simp only [journalLength]
  constructor
  · rintro ⟨place, rfl, inside⟩
    omega
  · intro inside
    exact ⟨index.toNat, by omega, by omega⟩

/-- Going back to a snapshot drops it and all later ones. -/
theorem revert_of_found {world : World} {place : Nat} {copy : Accounts}
    (found : world.snapshots[place]? = some copy) :
    revert place world =
      .ok () { world with accounts := copy, snapshots := world.snapshots.take place } := by
  have filled : ¬ world.snapshots.isEmpty = true := by
    intro empty
    simp [List.isEmpty_iff.1 empty] at found
  have inside : ¬ (place : Int) < 0 := by omega
  rw [revert, get_bind, if_neg filled, if_neg inside, Int.toNat_natCast, found]
  rfl

theorem revert_of_outside {world : World} {index : Int}
    (outside : index < 0 ∨ world.journalLength < index) :
    revert index world =
      .error (if world.snapshots.isEmpty then .noSnapshots
        else .snapshotOutOfBounds index world.journalLength) world := by
  rw [revert, get_bind]
  by_cases empty : world.snapshots.isEmpty = true
  · simp only [if_pos empty]
    rfl
  · rw [if_neg empty, if_neg empty]
    by_cases negative : index < 0
    · rw [if_pos negative]
      rfl
    · have missing : world.snapshots[index.toNat]? = none := by
        simp only [journalLength] at outside
        exact List.getElem?_eq_none (by omega)
      rw [if_neg negative, missing]
      rfl

/-! ## What happens above a snapshot -/

/-- One operation on a ledger that goes back no further than to the snapshot above an index. -/
inductive Above (index : Int) (world : World) : World → Prop
  | changed {after : World} (kept : after.snapshots = world.snapshots) : Above index world after
  | backedUp : Above index world world.backup
  | copied : Above index world (stateAfter (snapshot world))
  | reverted {later : Int} (above : index < later) :
      Above index world (stateAfter (revert later world))
  | rolledBack (above : index < world.journalLength) :
      Above index world (stateAfter (rollback world))

/-- Whatever leaves the context of a ledger alone, as built-in functions and machines do, is a mere
change, however it ends. -/
theorem Above.of_keeps {α : Type} {action : Action α} (keeps : Keeps context action) (index : Int)
    (world : World) : Above index world (stateAfter (action world)) :=
  .changed (congrArg Context.snapshots (keeps world))

/-- The oldest snapshots of a ledger are some given ones, and then a given copy. -/
def Retains (older : List Accounts) (copy : Accounts) (world : World) : Prop :=
  older ++ [copy] <+: world.snapshots

theorem retains_backup (world : World) :
    Retains world.snapshots world.accounts world.backup :=
  List.prefix_rfl

variable {older : List Accounts} {copy : Accounts} {world after : World}

theorem Retains.backup (retained : Retains older copy world) : Retains older copy world.backup :=
  retained.trans (List.prefix_append _ _)

/-- Going back to a snapshot above the copy leaves the copy. -/
theorem Retains.revert {later : Int} (retained : Retains older copy world)
    (above : (older.length : Int) < later) :
    Retains older copy (stateAfter (revert later world)) := by
  by_cases outside : later < 0 ∨ world.journalLength < later
  · rw [revert_of_outside outside]
    exact retained
  · obtain ⟨place, rfl, inside⟩ := (exists_snapshot_iff world later).2 outside
    rw [revert_of_found (List.getElem?_eq_getElem inside)]
    -- The copy is the last of the retained snapshots, so dropping starts behind it.
    refine List.prefix_take_iff.2 ⟨retained, ?_⟩
    rw [List.length_append, List.length_singleton]
    omega

/-- One operation above a snapshot leaves it and the older ones. -/
theorem Retains.above (retained : Retains older copy world)
    (operation : Above older.length world after) : Retains older copy after := by
  cases operation with
  | changed kept =>
    rw [Retains, kept]
    exact retained
  | backedUp => exact retained.backup
  | copied =>
    rw [snapshot_eq]
    exact retained.backup
  | reverted above => exact retained.revert above
  | rolledBack above =>
    rw [rollback_eq]
    exact retained.revert above

/-- Any number of operations above a snapshot leave it and the older ones. -/
theorem Retains.above_all (retained : Retains older copy world)
    (operations : Relation.ReflTransGen (Above older.length) world after) :
    Retains older copy after := by
  induction operations with
  | refl => exact retained
  | tail _ operation ih => exact ih.above operation

theorem Retains.revert_eq (retained : Retains older copy world) :
    World.revert older.length world = .ok () { world with accounts := copy, snapshots := older } := by
  obtain ⟨later, listed⟩ := retained
  have found : world.snapshots[older.length]? = some copy := by
    simp [← listed]
  have kept : world.snapshots.take older.length = older := by
    simp [← listed]
  rw [revert_of_found found, kept]

/-- Snapshots nest. Whatever happened above a snapshot, going back to it succeeds, restores the
accounts, leaves the older snapshots as they were and everything else alone. An index below zero or
above the latest snapshot is refused, and nothing changes. -/
theorem revert_above :
    (∀ (world started after : World) (index : Int), snapshot world = .ok index started →
      Relation.ReflTransGen (Above index) started after →
      ∃ restored, revert index after = .ok () restored ∧
        restored = { after with accounts := world.accounts, snapshots := world.snapshots } ∧
        restored.journalLength = index - 1) ∧
    ∀ (world : World) (index : Int), index < 0 ∨ world.journalLength < index →
      revert index world =
        .error (if world.snapshots.isEmpty then .noSnapshots
          else .snapshotOutOfBounds index world.journalLength) world := by
  refine ⟨fun world started after index taken operations => ?_, fun world index outside =>
    revert_of_outside outside⟩
  rw [snapshot_eq, EStateM.Result.ok.injEq] at taken
  obtain ⟨rfl, rfl⟩ := taken
  have retained := (retains_backup world).above_all operations
  exact ⟨_, retained.revert_eq, rfl, rfl⟩

/-- An account appears above a snapshot, another snapshot is taken and gone back to; the first one
still restores the empty ledger. -/
theorem revert_above_nested :
    ∃ restored,
      revert 0 (stateAfter (revert 1 (stateAfter (applyChange [] .none (new []).backup)).backup)) =
        .ok () restored ∧
      restored.accounts = (new []).accounts ∧ restored.journalLength = -1 := by
  have appeared : Above 0 (new []).backup (stateAfter (applyChange [] .none (new []).backup)) :=
    .of_keeps (keeps_applyChange [] .none) 0 _
  have another : Above 0 (stateAfter (applyChange [] .none (new []).backup))
      (stateAfter (applyChange [] .none (new []).backup)).backup := .backedUp
  have reverted : Above 0 (stateAfter (applyChange [] .none (new []).backup)).backup
      (stateAfter (revert 1 (stateAfter (applyChange [] .none (new []).backup)).backup)) :=
    .reverted (by decide)
  obtain ⟨restored, ended, rfl, length⟩ :=
    revert_above.1 (new []) (new []).backup _ 0 rfl (.tail (.tail (.single appeared) another) reverted)
  exact ⟨_, ended, rfl, length⟩

end World
end ChainScenario
