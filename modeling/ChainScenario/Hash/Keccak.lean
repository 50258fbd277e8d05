import ChainScenario.Bytes.Blocks

/-!
# Keccak-256

The sponge over the permutation of 25 lanes of 64 bits, with a rate of 136 bytes and the padding
that starts with the byte 1.
-/
namespace ChainScenario.Keccak

/-- The 25 lanes of the permutation; lane `(x, y)` stands at `x + 5 * y`. -/
abbrev State := Vector UInt64 25

/-- The lane at a position, counted around. -/
def lane (state : State) (x y : Nat) : UInt64 :=
  state.get ⟨(x % 5 + 5 * (y % 5)) % 25, Nat.mod_lt _ (by decide)⟩

/-- A state given lane by lane. -/
def build (f : Nat → Nat → UInt64) : State :=
  Vector.ofFn fun i => f (i.val % 5) (i.val / 5)

def rotateLeft (word : UInt64) (count : Nat) : UInt64 :=
  (word <<< UInt64.ofNat count) ||| (word >>> UInt64.ofNat (64 - count))

/-- The rotation of every lane. -/
def rotations : List (List Nat) :=
  [[0, 1, 62, 28, 27], [36, 44, 6, 55, 20], [3, 10, 43, 25, 39], [41, 45, 15, 21, 8],
    [18, 2, 61, 56, 14]]

def roundConstants : List UInt64 :=
  [0x0000000000000001, 0x0000000000008082, 0x800000000000808A, 0x8000000080008000,
    0x000000000000808B, 0x0000000080000001, 0x8000000080008081, 0x8000000000008009,
    0x000000000000008A, 0x0000000000000088, 0x0000000080008009, 0x000000008000000A,
    0x000000008000808B, 0x800000000000008B, 0x8000000000008089, 0x8000000000008003,
    0x8000000000008002, 0x8000000000000080, 0x000000000000800A, 0x800000008000000A,
    0x8000000080008081, 0x8000000000008080, 0x0000000080000001, 0x8000000080008008]

/-- Adds to every lane the parities of two columns. -/
def theta (state : State) : State :=
  let parity := Vector.ofFn fun (x : Fin 5) =>
    lane state x 0 ^^^ lane state x 1 ^^^ lane state x 2 ^^^ lane state x 3 ^^^ lane state x 4
  let column (x : Nat) : UInt64 := parity.get ⟨x % 5, Nat.mod_lt _ (by decide)⟩
  build fun x y => lane state x y ^^^ column (x + 4) ^^^ rotateLeft (column (x + 1)) 1

/-- Rotates every lane and moves it to its new place. -/
def rhoPi (state : State) : State :=
  build fun x y =>
    let source := x + 3 * y
    rotateLeft (lane state source x) (((rotations[x % 5]?.getD [])[source % 5]?).getD 0)

/-- Mixes every row. -/
def chi (state : State) : State :=
  build fun x y => lane state x y ^^^ (~~~lane state (x + 1) y &&& lane state (x + 2) y)

def round (state : State) (constant : UInt64) : State :=
  let mixed := chi (rhoPi (theta state))
  mixed.set 0 (mixed[0] ^^^ constant)

def permute (state : State) : State :=
  roundConstants.foldl round state

/-- Bytes absorbed between two permutations. -/
def rate : Nat := 136

/-- The message filled up to whole blocks. -/
def padded (message : Bytes) : Bytes :=
  let room := rate - message.length % rate
  -- a single free byte takes both ends of the padding
  if room = 1 then message ++ [0x81]
  else message ++ 0x01 :: (List.replicate (room - 2) 0 ++ [0x80])

def absorb (state : State) (block : Bytes) : State :=
  let words := (Blocks.blocks 8 block).map fun bytes => UInt64.ofNat (Blocks.littleEndian bytes)
  permute (build fun x y => lane state x y ^^^ (words[x + 5 * y]?).getD 0)

/-- The 32-byte digest of a message. -/
def digest (message : Bytes) : Bytes :=
  let state := (Blocks.blocks rate (padded message)).foldl absorb (Vector.replicate 25 0)
  (List.range 4).flatMap fun x => Blocks.toLittleEndian 8 (lane state x 0).toNat

end ChainScenario.Keccak
