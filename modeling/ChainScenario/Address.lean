import ChainScenario.Bytes.Basic
import ChainScenario.Text.Utf8

/-!
# Addresses

An account address has 32 bytes. The address of a contract starts with eight zero bytes and the two
bytes of its virtual machine type. Main statement: `length_mock`, generated addresses are addresses.
-/
namespace ChainScenario.Address

def length : Nat := 32

def contractZeros : Nat := 8

def vmTypeLength : Nat := 2

/-- The account that keeps metadata of tokens for all others; state checks pass over it. -/
def systemAccount : Bytes := List.replicate length 0xFF

/-- The contract that grants and revokes token roles. -/
def tokenSystem : Bytes :=
  [0, 0, 0, 0, 0, 0, 0, 0, 0, 1] ++ List.replicate 19 0 ++ [2, 0xFF, 0xFF]

/-- Storage keys that start with these bytes belong to the protocol. -/
def protectedKey : Bytes := Utf8.ofString "ELROND"

/-- Where validator rewards accumulate. -/
def rewardKey : Bytes := Utf8.ofString "ELRONDreward"

def isProtected (key : Bytes) : Bool := protectedKey.isPrefixOf key

def isContract (address : Bytes) : Bool :=
  address.length == length && (address.take contractZeros).all (· == 0)

/-- The virtual machine type on exactly two bytes. -/
def vmTag (vmType : Bytes) : Bytes := Bytes.fit vmTypeLength 0 vmType

/-- The address of a contract deployed by `creator` at a nonce: zeros, the machine type, a marker,
the head of the creator, the low byte of the nonce and the last two bytes of the creator. -/
def mock (creator : Bytes) (nonce : UInt64) (vmType : Bytes) : Bytes :=
  let shard := if length ≤ creator.length then (creator.drop 30).take 2 else [0, 0]
  List.replicate contractZeros 0 ++ vmTag vmType ++ List.replicate 4 0x11 ++
    Bytes.fit 15 0 creator ++ [nonce.toUInt8] ++ shard

theorem length_mock (creator : Bytes) (nonce : UInt64) (vmType : Bytes) :
    (mock creator nonce vmType).length = length := by
  simp only [mock, List.length_append, vmTag, Bytes.length_fit, List.length_replicate,
    List.length_singleton]
  split
  · rename_i long
    simp only [length] at long
    simp only [List.length_take, List.length_drop, contractZeros, vmTypeLength, length]
    omega
  · simp [contractZeros, vmTypeLength, length]

theorem isContract_mock (creator : Bytes) (nonce : UInt64) (vmType : Bytes) :
    isContract (mock creator nonce vmType) = true := by
  have zeros : (mock creator nonce vmType).take contractZeros = List.replicate contractZeros 0 := by
    simp [mock, contractZeros]
  rw [isContract, length_mock, zeros]
  decide

/-- The address of a contract is an address. -/
theorem length_of_isContract {address : Bytes} (contract : isContract address = true) :
    address.length = length := by
  simp only [isContract, Bool.and_eq_true, beq_iff_eq] at contract
  exact contract.1

end ChainScenario.Address
