import ChainScenario.Bytes.Basic

/-!
# Blocks and words

A list cut into blocks of one size, the last of them possibly shorter, and bytes grouped into
little-endian words. Main statement: `flatten_blocks`, no element is lost or moved.
-/
namespace ChainScenario.Blocks

variable {α : Type}

/-- Consecutive blocks of `size` elements; the last one holds what remains. -/
def blocks (size : Nat) : List α → List (List α)
  | [] => []
  | first :: rest =>
    (first :: rest.take (size - 1)) :: blocks size (rest.drop (size - 1))
termination_by list => list.length
decreasing_by
  simp only [List.length_drop, List.length_cons]
  omega

theorem flatten_blocks (size : Nat) (list : List α) : (blocks size list).flatten = list := by
  fun_induction blocks size list with
  | case1 => rfl
  | case2 first rest ih => simp [ih]

/-- The number of a little-endian byte string. -/
def littleEndian (bytes : Bytes) : Nat :=
  bytes.foldr (fun byte value => value * 256 + byte.toNat) 0

/-- The `width` low bytes of a number, least significant first. -/
def toLittleEndian : Nat → Nat → Bytes
  | 0, _ => []
  | width + 1, value => UInt8.ofNat value :: toLittleEndian width (value / 256)

end ChainScenario.Blocks
