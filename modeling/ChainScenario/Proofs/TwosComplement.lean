import ChainScenario.Proofs.Codec
import Mathlib.Algebra.Order.Ring.Int
import Mathlib.Data.List.Basic
import Mathlib.Order.Bounds.Basic

/-!
# Two's complement

The bytes of an integer denote it up to a multiple of the numbers that their width can write. `toInt`
reads them back. Main statements: `signedWidth_le_iff`, the width is the least one whose range holds the
integer; `toNat_ofInt`, what its bytes denote as a natural number; and `toInt_ofIntFixed` and
`toInt_ofInt`, what they denote as an integer.
-/
namespace ChainScenario.Bytes

theorem capacity_eq (width : Nat) : capacity width = 256 ^ width := by
  induction width with
  | zero => rfl
  | succ width ih => rw [capacity, ih, Nat.pow_succ']

/-- A width holds the shortest form of a number exactly if it can write the number. -/
theorem length_ofNat_le_iff {value width : Nat} :
    (ofNat value).length ≤ width ↔ value < 256 ^ width := by
  rw [← capacity_eq]
  constructor
  · intro short
    have denoted : value < capacity (ofNat value).length := by
      simpa only [toNat_ofNat] using toNat_lt (ofNat value)
    exact Nat.lt_of_lt_of_le denoted (capacity_mono short)
  · exact length_ofNat_le

/-- The width of an integer is the least one, of at least a byte, whose range holds it. -/
theorem signedWidth_le_iff {value : Int} {width : Nat} :
    signedWidth value ≤ width ↔
      1 ≤ width ∧ -(256 ^ width : Int) ≤ 2 * value ∧ 2 * value < (256 ^ width : Int) := by
  have power : ((256 ^ width : Nat) : Int) = 256 ^ width := Int.natCast_pow 256 width
  rw [signedWidth, Nat.max_le, length_ofNat_le_iff, ← power]
  refine and_congr_right fun _ => ?_
  split <;> omega

/-- What the bytes of an integer denote as a natural number. -/
theorem toNat_ofInt (value : Int) :
    (toNat (ofInt value) : Int) = value % 256 ^ signedWidth value := by
  have power : (capacity (signedWidth value) : Int) = 256 ^ signedWidth value := by
    rw [capacity_eq, Int.natCast_pow]
    rfl
  have positive : 0 < (capacity (signedWidth value) : Int) :=
    Int.natCast_pos.2 (capacity_pos _)
  rw [ofInt]
  split
  · rename_i zero
    rw [zero, Int.zero_emod]
    rfl
  · have least : 0 ≤ value % (capacity (signedWidth value) : Int) :=
      Int.emod_nonneg value (Int.ne_of_gt positive)
    have below := Int.emod_lt_of_pos value positive
    rw [ofIntFixed, toNat_ofNatFixed, Nat.mod_eq_of_lt (by omega), Int.toNat_of_nonneg least, power]

/-- An integer that is not negative is what its bytes denote. -/
theorem toNat_ofInt_of_nonneg {value : Int} (nonneg : 0 ≤ value) :
    (toNat (ofInt value) : Int) = value := by
  obtain ⟨-, -, above⟩ := signedWidth_le_iff.1 (Nat.le_refl (signedWidth value))
  rw [toNat_ofInt]
  exact Int.emod_eq_of_lt nonneg (by omega)

/-- The bytes of a negative integer denote it lifted by the numbers of the least width whose range holds
it. -/
theorem toNat_ofInt_of_neg {value : Int} (negative : value < 0) :
    IsLeast {width : Nat | -(256 ^ width : Int) ≤ 2 * value} (signedWidth value) ∧
      (toNat (ofInt value) : Int) = 256 ^ signedWidth value + value := by
  obtain ⟨-, below, -⟩ := signedWidth_le_iff.1 (Nat.le_refl (signedWidth value))
  refine ⟨⟨below, fun width holds => ?_⟩, ?_⟩
  · have holds : -(256 ^ width : Int) ≤ 2 * value := holds
    have positive : 0 < (256 ^ width : Int) := Int.pow_pos (by decide)
    refine signedWidth_le_iff.2 ⟨?_, holds, by omega⟩
    -- A width of no bytes would leave room for zero only.
    cases width with
    | zero => omega
    | succ width => exact Nat.le_add_left 1 width
  · rw [toNat_ofInt, ← Int.add_emod_left (256 ^ signedWidth value : Int) value]
    exact Int.emod_eq_of_lt (by omega) (by omega)

/-! ## Reading -/

/-- The integer that a byte string denotes in two's complement: the upper half of the numbers of its
length stands for the negative ones. -/
def toInt (bytes : Bytes) : Int :=
  if 2 * toNat bytes < 256 ^ bytes.length then toNat bytes else toNat bytes - 256 ^ bytes.length

theorem toInt_nil : toInt [] = 0 := rfl

theorem toNat_lt_pow (bytes : Bytes) : toNat bytes < 256 ^ bytes.length := by
  rw [← capacity_eq]
  exact toNat_lt bytes

/-- A length leaves half of its numbers for negative integers. -/
theorem toInt_bounds (bytes : Bytes) :
    -(256 ^ bytes.length : Int) ≤ 2 * toInt bytes ∧ 2 * toInt bytes < (256 ^ bytes.length : Int) := by
  have power : ((256 ^ bytes.length : Nat) : Int) = 256 ^ bytes.length := Int.natCast_pow 256 _
  have below := toNat_lt_pow bytes
  rw [toInt, ← power]
  split <;> omega

/-- Byte strings of one length denote different numbers. -/
theorem toNat_inj {bytes others : Bytes} (length : bytes.length = others.length)
    (same : toNat bytes = toNat others) : bytes = others := by
  induction bytes using List.reverseRecOn generalizing others with
  | nil => exact (List.length_eq_zero_iff.1 length.symm).symm
  | append_singleton front last ih =>
    rcases List.eq_nil_or_concat' others with rfl | ⟨rest, other, rfl⟩
    · simp at length
    · rw [toNat_append_singleton, toNat_append_singleton] at same
      have one := last.toNat_lt
      have two := other.toNat_lt
      simp only [List.length_append, List.length_singleton, Nat.add_right_cancel_iff] at length
      rw [ih length (by omega), UInt8.toNat_inj.1 (show last.toNat = other.toNat by omega)]

theorem toInt_inj {bytes others : Bytes} (length : bytes.length = others.length)
    (same : toInt bytes = toInt others) : bytes = others := by
  have power : ((256 ^ others.length : Nat) : Int) = 256 ^ others.length := Int.natCast_pow 256 _
  have below := toNat_lt_pow bytes
  have under := toNat_lt_pow others
  refine toNat_inj length ?_
  rw [toInt, toInt, length, ← power] at same
  rw [length] at below
  split at same <;> split at same <;> omega

theorem toInt_ofIntFixed {value : Int} {width : Nat} (low : -(256 ^ width : Int) ≤ 2 * value)
    (high : 2 * value < (256 ^ width : Int)) : toInt (ofIntFixed width value) = value := by
  have power : ((256 ^ width : Nat) : Int) = 256 ^ width := Int.natCast_pow 256 width
  have positive : 0 < 256 ^ width := Nat.pow_pos (by decide)
  have denoted : toNat (ofIntFixed width value) = (value % ((256 ^ width : Nat) : Int)).toNat := by
    have below := Int.emod_lt_of_pos value (Int.natCast_pos.2 positive)
    rw [ofIntFixed, toNat_ofNatFixed, capacity_eq]
    exact Nat.mod_eq_of_lt (by omega)
  rw [toInt, denoted, length_ofIntFixed, ← power]
  rw [← power] at low high
  rcases Int.lt_or_le value 0 with negative | natural
  · -- a negative integer is lifted into the upper half
    have lifted : value % ((256 ^ width : Nat) : Int) = ((256 ^ width : Nat) : Int) + value := by
      rw [← Int.add_emod_left]
      exact Int.emod_eq_of_lt (by omega) (by omega)
    rw [lifted]
    split <;> omega
  · rw [Int.emod_eq_of_lt natural (by omega)]
    split <;> omega

theorem toInt_ofInt (value : Int) : toInt (ofInt value) = value := by
  rw [ofInt]
  split
  · rename_i zero
    rw [zero, toInt_nil]
  · obtain ⟨-, low, high⟩ := signedWidth_le_iff.1 (Nat.le_refl (signedWidth value))
    exact toInt_ofIntFixed low high

/-- No byte string that denotes an integer is shorter than the one that is written for it. -/
theorem length_ofInt_toInt (bytes : Bytes) : (ofInt (toInt bytes)).length ≤ bytes.length := by
  rw [ofInt]
  split
  · exact Nat.zero_le _
  · rename_i other
    have filled : bytes ≠ [] := by
      rintro rfl
      exact other toInt_nil
    rw [length_ofIntFixed]
    exact signedWidth_le_iff.2 ⟨List.length_pos_iff.2 filled, toInt_bounds bytes⟩

/-! ## What a width can write -/

/-- The numbers that bytes of a width denote. -/
theorem exists_toNat_iff {width : Nat} {value : Int} :
    (∃ bytes : Bytes, bytes.length = width ∧ (toNat bytes : Int) = value) ↔
      0 ≤ value ∧ value < 2 ^ (8 * width) := by
  have power : (2 ^ (8 * width) : Int) = ((256 ^ width : Nat) : Int) :=
    Int.pow_mul.trans (Int.natCast_pow 256 width).symm
  rw [power]
  constructor
  · rintro ⟨bytes, rfl, rfl⟩
    have below := toNat_lt_pow bytes
    omega
  · rintro ⟨natural, below⟩
    refine ⟨ofNatFixed width value.toNat, length_ofNatFixed _ _, ?_⟩
    rw [toNat_ofNatFixed, capacity_eq, Nat.mod_eq_of_lt (by omega), Int.toNat_of_nonneg natural]

/-- The integers that bytes of a width denote in two's complement. -/
theorem exists_toInt_iff {width : Nat} {value : Int} (filled : 0 < width) :
    (∃ bytes : Bytes, bytes.length = width ∧ toInt bytes = value) ↔
      -2 ^ (8 * width - 1) ≤ value ∧ value < 2 ^ (8 * width - 1) := by
  have bits : 8 * width = 8 * width - 1 + 1 := by omega
  have halves : (256 ^ width : Int) = 2 ^ (8 * width - 1) * 2 :=
    calc (256 ^ width : Int) = (2 ^ 8) ^ width := rfl
      _ = 2 ^ (8 * width) := Int.pow_mul.symm
      _ = 2 ^ (8 * width - 1 + 1) := by rw [← bits]
      _ = 2 ^ (8 * width - 1) * 2 := Int.pow_succ 2 _
  constructor
  · rintro ⟨bytes, rfl, rfl⟩
    obtain ⟨low, high⟩ := toInt_bounds bytes
    omega
  · rintro ⟨low, high⟩
    exact ⟨ofIntFixed width value, length_ofIntFixed _ _,
      toInt_ofIntFixed (by omega) (by omega)⟩

end ChainScenario.Bytes
