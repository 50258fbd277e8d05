import ChainScenario.Bytes.Basic

/-!
# Hexadecimal text

Two lower-case digits per byte. Reading accepts both cases and reports the first byte that is not
a digit with its position.
-/
namespace ChainScenario.Hex

/-- Why a text is not hexadecimal. -/
inductive Fault where
  /-- A digit has no partner. -/
  | oddLength
  /-- A byte of the text is no digit. -/
  | notADigit (byte : UInt8) (position : Nat)
  deriving Repr, DecidableEq

/-- The digit of a half byte. -/
def digit (value : Nat) : Char :=
  if value < 10 then Char.ofNat (48 + value) else Char.ofNat (87 + value)

def byteDigits (byte : UInt8) : List Char :=
  [digit (byte.toNat / 16), digit (byte.toNat % 16)]

/-- The digits of a byte string. -/
def encodeChars (bytes : Bytes) : List Char :=
  bytes.flatMap byteDigits

def encode (bytes : Bytes) : String :=
  String.ofList (encodeChars bytes)

def digitValue? (byte : UInt8) : Option UInt8 :=
  if 48 ≤ byte ∧ byte ≤ 57 then some (byte - 48)
  else if 97 ≤ byte ∧ byte ≤ 102 then some (byte - 87)
  else if 65 ≤ byte ∧ byte ≤ 70 then some (byte - 55)
  else none

def digitAt (byte : UInt8) (position : Nat) : Except Fault UInt8 :=
  match digitValue? byte with
  | some value => .ok value
  | none => .error (.notADigit byte position)

/-- Reads digits in pairs, the first of them at `position`. -/
def decodeFrom : Nat → Bytes → Except Fault Bytes
  | _, [] => .ok []
  | _, [_] => .error .oddLength
  | position, high :: low :: rest => do
    let high ← digitAt high position
    let low ← digitAt low (position + 1)
    let bytes ← decodeFrom (position + 2) rest
    return (high * 16 + low) :: bytes

/-- Reads the bytes of a text as hexadecimal; an odd number of digits is refused first. -/
def decode (text : Bytes) : Except Fault Bytes :=
  if text.length % 2 = 0 then decodeFrom 0 text else .error .oddLength

/-- A number in lower-case hexadecimal with at least `width` digits. -/
def natDigits (width value : Nat) : List Char :=
  let digits := Nat.toDigits 16 value
  List.replicate (width - digits.length) '0' ++ digits

/-- Magnitude in hexadecimal without leading zeros. -/
def ofNat (value : Nat) : String :=
  String.ofList (Nat.toDigits 16 value)

end ChainScenario.Hex
