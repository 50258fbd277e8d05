/-!
# Byte strings

Byte strings are lists of octets. A byte string denotes a natural number, most
significant byte first; `ofNat` writes a number with no leading zero byte, so zero is the empty
string, and `ofNatFixed` and `ofIntFixed` write a number on a given width. Main statements:
`toNat_ofNat`, `toNat_ofNatFixed` and `length_fit`.
-/
namespace ChainScenario

abbrev Bytes := List UInt8

namespace Bytes

/-- The string cut or padded with `fill` to exactly `length` bytes. -/
def fit (length : Nat) (fill : UInt8) (bytes : Bytes) : Bytes :=
  bytes.take length ++ List.replicate (length - bytes.length) fill

theorem length_fit (length : Nat) (fill : UInt8) (bytes : Bytes) :
    (fit length fill bytes).length = length := by
  simp only [fit, List.length_append, List.length_take, List.length_replicate]
  omega

/-- The natural number a byte string denotes, most significant byte first. -/
def toNat (bytes : Bytes) : Nat :=
  bytes.foldl (fun value byte => value * 256 + byte.toNat) 0

/-- The shortest byte string that denotes a number; zero is the empty string. -/
def ofNat (value : Nat) : Bytes :=
  if value = 0 then [] else ofNat (value / 256) ++ [UInt8.ofNat value]
termination_by value
decreasing_by omega

/-- The last `width` bytes of a number. -/
def ofNatFixed : Nat → Nat → Bytes
  | 0, _ => []
  | width + 1, value => ofNatFixed width (value / 256) ++ [UInt8.ofNat value]

/-- How many numbers `width` bytes can write. -/
def capacity : Nat → Nat
  | 0 => 1
  | width + 1 => 256 * capacity width

/-- Two's complement of a number on `width` bytes. -/
def ofIntFixed (width : Nat) (value : Int) : Bytes :=
  ofNatFixed width (value % (capacity width : Int)).toNat

/-- The least number of bytes, at least one, whose two's complement range holds `value`. -/
def signedWidth (value : Int) : Nat :=
  max 1 (ofNat (if 0 ≤ value then 2 * value else -2 * value - 1).toNat).length

/-- Shortest two's complement of a number; zero is the empty string. -/
def ofInt (value : Int) : Bytes :=
  if value = 0 then [] else ofIntFixed (signedWidth value) value

/-- Bytes after the leading zeros. -/
def significant (bytes : Bytes) : Bytes :=
  bytes.dropWhile (· == 0)

theorem toNat_nil : toNat [] = 0 := rfl

theorem toNat_append_singleton (bytes : Bytes) (byte : UInt8) :
    toNat (bytes ++ [byte]) = toNat bytes * 256 + byte.toNat := by
  simp [toNat]

theorem toNat_ofNat (value : Nat) : toNat (ofNat value) = value := by
  induction value using Nat.strongRecOn with
  | ind value ih =>
    rw [ofNat]
    split
    · simp_all [toNat]
    · rw [toNat_append_singleton, ih _ (by omega), UInt8.toNat_ofNat']
      omega

theorem length_ofNatFixed (width value : Nat) : (ofNatFixed width value).length = width := by
  induction width generalizing value with
  | zero => rfl
  | succ width ih => simp [ofNatFixed, ih]

theorem toNat_ofNatFixed (width value : Nat) :
    toNat (ofNatFixed width value) = value % capacity width := by
  induction width generalizing value with
  | zero => simp [ofNatFixed, toNat, capacity, Nat.mod_one]
  | succ width ih =>
    rw [ofNatFixed, toNat_append_singleton, ih, UInt8.toNat_ofNat', capacity, Nat.mod_mul,
      Nat.mul_comm (value / 256 % capacity width) 256]
    omega

theorem length_ofIntFixed (width : Nat) (value : Int) :
    (ofIntFixed width value).length = width :=
  length_ofNatFixed _ _

end Bytes
end ChainScenario
