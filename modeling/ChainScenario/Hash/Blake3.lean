import ChainScenario.Bytes.Blocks

/-!
# BLAKE3

The digest of a message is the root of a binary tree over its chunks of 1024 bytes. Every node is
compressed from eight chaining words and a block of sixteen message words.
-/
namespace ChainScenario.Blake3

abbrev Words := List UInt32

def initial : Words :=
  [0x6A09E667, 0xBB67AE85, 0x3C6EF372, 0xA54FF53A, 0x510E527F, 0x9B05688C, 0x1F83D9AB, 0x5BE0CD19]

/-- The order of message words from one round to the next. -/
def schedule : List Nat := [2, 6, 3, 10, 7, 0, 4, 13, 1, 11, 12, 5, 9, 14, 15, 8]

/-- The first block of a chunk. -/
def chunkStart : UInt32 := 1

/-- The last block of a chunk. -/
def chunkEnd : UInt32 := 2

/-- A node above the chunks. -/
def parent : UInt32 := 4

def root : UInt32 := 8

def rotateRight (word count : UInt32) : UInt32 :=
  (word >>> count) ||| (word <<< (32 - count))

/-- The sixteen words of the compression state. -/
abbrev State := Vector UInt32 16

/-- Mixes two message words into four words of the state. -/
def mix (state : State) (a b c d : Fin 16) (x y : UInt32) : State :=
  let wa := state.get a + state.get b + x
  let wd := rotateRight (state.get d ^^^ wa) 16
  let wc := state.get c + wd
  let wb := rotateRight (state.get b ^^^ wc) 12
  let wa := wa + wb + y
  let wd := rotateRight (wd ^^^ wa) 8
  let wc := wc + wd
  let wb := rotateRight (wb ^^^ wc) 7
  (((state.set a wa).set b wb).set c wc).set d wd

/-- The message word at a position. -/
def word (words : Words) (index : Nat) : UInt32 := (words[index]?).getD 0

/-- One round: the columns, then the diagonals. -/
def round (state : State) (m : Words) : State :=
  -- columns
  let state := mix state 0 4 8 12 (word m 0) (word m 1)
  let state := mix state 1 5 9 13 (word m 2) (word m 3)
  let state := mix state 2 6 10 14 (word m 4) (word m 5)
  let state := mix state 3 7 11 15 (word m 6) (word m 7)
  -- diagonals
  let state := mix state 0 5 10 15 (word m 8) (word m 9)
  let state := mix state 1 6 11 12 (word m 10) (word m 11)
  let state := mix state 2 7 8 13 (word m 12) (word m 13)
  mix state 3 4 9 14 (word m 14) (word m 15)

/-- A number of rounds, the message words reordered between them. -/
def rounds : Nat → State → Words → State
  | 0, state, _ => state
  | count + 1, state, m => rounds count (round state m) (schedule.map (word m))

/-- What a node is compressed from. -/
structure Node where
  chaining : Words
  message : Words
  counter : Nat
  length : Nat
  flags : UInt32

/-- The eight words of a node, with further flags. -/
def Node.compress (node : Node) (flags : UInt32) : Words :=
  let high := UInt32.ofNat (node.counter / 0x100000000)
  let start := node.chaining ++ initial.take 4 ++
    [UInt32.ofNat node.counter, high, UInt32.ofNat node.length, node.flags ||| flags]
  let state := rounds 7 (Vector.ofFn fun i => word start i.val) node.message
  (List.range 8).map fun i => word state.toList i ^^^ word state.toList (i + 8)

/-- The message words of a block, filled up with zeros. -/
def messageWords (block : Bytes) : Words :=
  (Blocks.blocks 4 (Bytes.fit 64 0 block)).map fun bytes => UInt32.ofNat (Blocks.littleEndian bytes)

/-- The node of a chunk: its blocks are compressed one after another, all but the last. -/
def chunkNode (counter : Nat) : Words → UInt32 → List Bytes → Node
  | chaining, flags, [] => ⟨chaining, messageWords [], counter, 0, flags ||| chunkEnd⟩
  | chaining, flags, [block] =>
    ⟨chaining, messageWords block, counter, block.length, flags ||| chunkEnd⟩
  | chaining, flags, block :: next :: blocks =>
    let node : Node := ⟨chaining, messageWords block, counter, block.length, flags⟩
    -- only the first block of a chunk is marked as its start
    chunkNode counter (node.compress 0) 0 (next :: blocks)

/-- The number of chunks on the left: the greatest power of two below the number of chunks. -/
def leftChunks (count : Nat) : Nat := Nat.pow 2 (count - 1).log2

/-- The node over a list of chunks, the first of them numbered `counter`. -/
def treeNode (counter : Nat) (chunks : List Bytes) : Node :=
  if _ : 2 ≤ chunks.length then
    let left := leftChunks chunks.length
    let first := treeNode counter (chunks.take left)
    let second := treeNode (counter + left) (chunks.drop left)
    -- chunks are numbered, the nodes above them are not
    ⟨initial, first.compress 0 ++ second.compress 0, 0, 64, parent⟩
  else chunkNode counter initial chunkStart (Blocks.blocks 64 (chunks.headD []))
termination_by chunks.length
decreasing_by
  all_goals
    have positive : 0 < leftChunks chunks.length := Nat.two_pow_pos _
    have below : leftChunks chunks.length ≤ chunks.length - 1 :=
      Nat.log2_self_le (by omega)
    simp only [List.length_take, List.length_drop]
    omega

/-- The 32-byte digest of a message. -/
def digest (message : Bytes) : Bytes :=
  ((treeNode 0 (Blocks.blocks 1024 message)).compress root).flatMap fun word =>
    Blocks.toLittleEndian 4 word.toNat

end ChainScenario.Blake3
