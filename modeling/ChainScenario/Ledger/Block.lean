import ChainScenario.Bytes.Basic

/-!
# Blocks

What contracts see of a block.
-/
namespace ChainScenario

/-- A block. -/
structure Block where
  timestamp : UInt64
  nonce : UInt64
  round : UInt64
  epoch : UInt32
  randomSeed : Bytes
  deriving DecidableEq, Repr, Inhabited

namespace Block

def seedLength : Nat := 48

/-- A random seed on its exact length, cut or filled with zeros. -/
def seed (bytes : Bytes) : Bytes := bytes.fit seedLength 0

/-- The block before any was set. -/
def zero : Block := ⟨0, 0, 0, 0, seed []⟩

def withSeed (block : Block) (bytes : Bytes) : Block := { block with randomSeed := seed bytes }

end Block
end ChainScenario
