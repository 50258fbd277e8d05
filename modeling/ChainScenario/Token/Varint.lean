import ChainScenario.Bytes.Basic

/-!
# Variable-length numbers

Seven bits a byte, least significant first; all bytes but the last have their top bit set. The last
of several bytes is not zero, and there are at most ten. Main statement: `read_write`.
-/
namespace ChainScenario.Varint

def write (value : Nat) : Bytes :=
  if value < 128 then [UInt8.ofNat value]
  else UInt8.ofNat (value % 128 + 128) :: write (value / 128)
termination_by value
decreasing_by omega

/-- The greatest position of a byte. -/
def lastPosition : Nat := 9

/-- Reads a number whose first byte stands at a position, and the bytes behind it. -/
def readFrom : Nat → Bytes → Option (Nat × Bytes)
  | _, [] => none
  | position, byte :: rest =>
    if byte.toNat < 128 then
      if byte = 0 ∧ position ≠ 0 then none else some (byte.toNat, rest)
    else if position = lastPosition then none
    else (readFrom (position + 1) rest).map fun (high, rest) =>
      (byte.toNat % 128 + 128 * high, rest)

/-- Reads a number of 64 bits; bits beyond them are dropped. -/
def read (bytes : Bytes) : Option (UInt64 × Bytes) :=
  (readFrom 0 bytes).map fun (value, rest) => (UInt64.ofNat value, rest)

theorem readFrom_write (value position : Nat) (suffix : Bytes)
    (positive : position ≠ 0 → value ≠ 0) (room : value < Nat.pow 128 (lastPosition + 1 - position))
    (inside : position ≤ lastPosition) :
    readFrom position (write value ++ suffix) = some (value, suffix) := by
  induction value using Nat.strongRecOn generalizing position with
  | ind value ih =>
    rw [write]
    split
    · rename_i small
      have byte : (UInt8.ofNat value).toNat = value := by
        rw [UInt8.toNat_ofNat']
        omega
      have zero : UInt8.ofNat value = 0 ↔ value = 0 := by
        rw [← UInt8.toNat_inj, byte]
        rfl
      simp only [List.singleton_append, readFrom, byte, small, ↓reduceIte, zero]
      rw [if_neg (fun both => positive both.2 both.1)]
    · rename_i large
      have byte : (UInt8.ofNat (value % 128 + 128)).toNat = value % 128 + 128 := by
        rw [UInt8.toNat_ofNat']
        omega
      have notLast : position ≠ lastPosition := by
        rintro rfl
        simp at room
        omega
      have deeper : lastPosition + 1 - position = lastPosition + 1 - (position + 1) + 1 := by
        omega
      rw [deeper] at room
      change value < Nat.pow 128 (lastPosition + 1 - (position + 1)) * 128 at room
      have rest := ih (value / 128) (by omega) (position + 1) (by omega)
        ((Nat.div_lt_iff_lt_mul (by omega)).2 room) (by omega)
      simp only [List.cons_append, readFrom, byte, notLast, ↓reduceIte, rest, Option.map_some]
      rw [if_neg (by omega)]
      congr 2
      omega

/-- A written number is read back, whatever follows it. -/
theorem read_write (value : UInt64) (suffix : Bytes) :
    read (write value.toNat ++ suffix) = some (value, suffix) := by
  have bound := value.toNat_lt
  rw [read, readFrom_write value.toNat 0 suffix (by simp)
    (Nat.lt_of_lt_of_le bound (by decide)) (by simp [lastPosition])]
  simp

end ChainScenario.Varint
