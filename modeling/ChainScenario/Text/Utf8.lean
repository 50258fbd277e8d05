import ChainScenario.Bytes.Basic

/-!
# UTF-8

A byte string splits into pieces: characters, and the longest parts that start a character but do
not finish it. Main statement: `bytes_pieces`, the pieces written one after another are the byte
string, when every character is written as it was read.
-/
namespace ChainScenario.Utf8

def encode (text : List Char) : Bytes :=
  text.flatMap String.utf8EncodeChar

def ofString (text : String) : Bytes :=
  encode text.toList

/-- The ranges the bytes after a lead byte must lie in; `none` for a byte that starts nothing. -/
def followers (lead : UInt8) : Option (List (UInt8 × UInt8)) :=
  if lead < 0x80 then some []
  -- 0xC0 and 0xC1 would only start over-long forms, as would 0xE0 and 0xF0 before low bytes
  else if lead < 0xC2 then none
  else if lead < 0xE0 then some [(0x80, 0xBF)]
  else if lead = 0xE0 then some [(0xA0, 0xBF), (0x80, 0xBF)]
  -- surrogates are no characters
  else if lead = 0xED then some [(0x80, 0x9F), (0x80, 0xBF)]
  else if lead < 0xF0 then some [(0x80, 0xBF), (0x80, 0xBF)]
  else if lead = 0xF0 then some [(0x90, 0xBF), (0x80, 0xBF), (0x80, 0xBF)]
  else if lead < 0xF4 then some [(0x80, 0xBF), (0x80, 0xBF), (0x80, 0xBF)]
  -- the last code point is 0x10FFFF
  else if lead = 0xF4 then some [(0x80, 0x8F), (0x80, 0xBF), (0x80, 0xBF)]
  else none

/-- The leading bytes that lie in the ranges one by one, whether all ranges were met, and the
remaining bytes. -/
def takeFollowers : List (UInt8 × UInt8) → Bytes → Bytes × Bool × Bytes
  | [], bytes => ([], true, bytes)
  | _ :: _, [] => ([], false, [])
  | (low, high) :: ranges, byte :: bytes =>
    if low ≤ byte ∧ byte ≤ high then
      let (taken, complete, rest) := takeFollowers ranges bytes
      (byte :: taken, complete, rest)
    else ([], false, byte :: bytes)

theorem takeFollowers_append (ranges : List (UInt8 × UInt8)) (bytes : Bytes) :
    (takeFollowers ranges bytes).1 ++ (takeFollowers ranges bytes).2.2 = bytes := by
  fun_induction takeFollowers ranges bytes <;> simp_all

theorem length_takeFollowers_le (ranges : List (UInt8 × UInt8)) (bytes : Bytes) :
    (takeFollowers ranges bytes).2.2.length ≤ bytes.length := by
  have whole := congrArg List.length (takeFollowers_append ranges bytes)
  rw [List.length_append] at whole
  omega

def codePoint (lead : UInt8) (follow : Bytes) : Nat :=
  let head := match follow.length with
    | 0 => lead.toNat
    | 1 => lead.toNat % 32
    | 2 => lead.toNat % 16
    | _ => lead.toNat % 8
  follow.foldl (fun value byte => value * 64 + byte.toNat % 64) head

/-- A part of a byte string read as text. -/
inductive Piece where
  | character (value : Char) (bytes : Bytes)
  /-- A longest part that starts a character and does not finish it. -/
  | broken (bytes : Bytes)
  deriving Repr, DecidableEq

def Piece.bytes : Piece → Bytes
  | .character _ bytes => bytes
  | .broken bytes => bytes

/-- The first piece of a non-empty byte string and the remaining bytes. -/
def firstPiece (lead : UInt8) (rest : Bytes) : Piece × Bytes :=
  match followers lead with
  | none => (.broken [lead], rest)
  | some ranges =>
    match takeFollowers ranges rest with
    | (follow, true, rest) =>
      (.character (Char.ofNat (codePoint lead follow)) (lead :: follow), rest)
    | (follow, false, rest) => (.broken (lead :: follow), rest)

theorem firstPiece_append (lead : UInt8) (rest : Bytes) :
    (firstPiece lead rest).1.bytes ++ (firstPiece lead rest).2 = lead :: rest := by
  unfold firstPiece
  split
  · rfl
  · rename_i ranges _
    have whole := takeFollowers_append ranges rest
    split <;> simp_all [Piece.bytes]

theorem length_firstPiece_le (lead : UInt8) (rest : Bytes) :
    (firstPiece lead rest).2.length ≤ rest.length := by
  unfold firstPiece
  split
  · simp
  · rename_i ranges _
    have shorter := length_takeFollowers_le ranges rest
    split <;> simp_all

/-- The pieces of a byte string, in order. -/
def pieces : Bytes → List Piece
  | [] => []
  | lead :: rest => (firstPiece lead rest).1 :: pieces (firstPiece lead rest).2
termination_by bytes => bytes.length
decreasing_by
  have := length_firstPiece_le lead rest
  simp only [List.length_cons]
  omega

theorem bytes_pieces (bytes : Bytes) : (pieces bytes).flatMap Piece.bytes = bytes := by
  fun_induction pieces bytes with
  | case1 => rfl
  | case2 lead rest ih => rw [List.flatMap_cons, ih, firstPiece_append]

/-- The text of a byte string that is well formed throughout. -/
def decode? (bytes : Bytes) : Option (List Char) :=
  (pieces bytes).mapM fun
    | .character value _ => some value
    | .broken _ => none

/-- The text of a byte string with one replacement character for every broken part. -/
def decodeLossy (bytes : Bytes) : String :=
  String.ofList ((pieces bytes).map fun
    | .character value _ => value
    | .broken _ => Char.ofNat 0xFFFD)

end ChainScenario.Utf8
