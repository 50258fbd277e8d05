/-!
# Character classes

The classes of characters that a rendered text spells out instead of showing.
-/
namespace ChainScenario.CharClass

/-- Control characters: general category Cc. -/
def isControl (c : Char) : Bool :=
  c.toNat < 0x20 || (0x7F ≤ c.toNat && c.toNat < 0xA0)

/-- White space: the property White_Space. -/
def isBlank (c : Char) : Bool :=
  let n := c.toNat
  (9 ≤ n && n ≤ 13) || n == 0x20 || n == 0x85 || n == 0xA0 || n == 0x1680 ||
    (0x2000 ≤ n && n ≤ 0x200A) || n == 0x2028 || n == 0x2029 || n == 0x202F || n == 0x205F ||
    n == 0x3000

def isPrintable (byte : UInt8) : Bool :=
  32 ≤ byte && byte ≤ 126

/-- Whether a number lies in one of the ranges, whose ends belong to them. -/
def lies (n : Nat) (ranges : List (Nat × Nat)) : Bool :=
  ranges.any fun (first, last) => first ≤ n && n ≤ last

theorem lies_iff {n : Nat} {ranges : List (Nat × Nat)} :
    lies n ranges = true ↔ ∃ range ∈ ranges, range.1 ≤ n ∧ n ≤ range.2 := by
  simp [lies]

end ChainScenario.CharClass
