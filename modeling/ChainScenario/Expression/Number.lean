import ChainScenario.Expression.Fault

/-!
# Number expressions

Numbers are decimal, hexadecimal after `0x` or binary after `0b`, with underscores and commas anywhere
among the digits. Hexadecimal digits stand for bytes, so their leading zeros count; all other numbers
are written with the fewest bytes.
-/
namespace ChainScenario.Expression

/-- The rest of a text after a given beginning. -/
def after? : List Char → List Char → Option (List Char)
  | [], text => some text
  | _ :: _, [] => none
  | c :: start, d :: text => if c = d then after? start text else none

/-- The rest of a text after a given beginning. -/
def behind? (start : String) (text : List Char) : Option (List Char) :=
  after? start.toList text

theorem after?_eq_some {start text rest : List Char} (found : after? start text = some rest) :
    text = start ++ rest := by
  fun_induction after? start text <;> simp_all

theorem length_behind? {start : String} {text rest : List Char}
    (found : behind? start text = some rest) : text.length = start.toList.length + rest.length := by
  rw [after?_eq_some found, List.length_append]

/-- A number without its separators. -/
def withoutSeparators (text : List Char) : List Char :=
  text.filter fun c => c != '_' && c != ','

/-- The value of an ASCII digit in a base up to ten. -/
def digitBelow? (base : Nat) (c : Char) : Option Nat :=
  if c.isDigit && c.toNat - 48 < base then some (c.toNat - 48) else none

/-- The number a list of digits denotes, most significant first. -/
def ofDigits? (base : Nat) (digits : List Char) : Option Nat :=
  digits.foldlM (fun value c => (digitBelow? base c).map (value * base + ·)) 0

/-- The number a text denotes in a base up to ten; one plus sign may stand in front. -/
def natural? (base : Nat) (text : List Char) : Option Nat :=
  let digits := match text with
    | '+' :: '+' :: _ => text
    | '+' :: digits => digits
    | _ => text
  if digits.isEmpty then none else ofDigits? base digits

/-- The digits after one of two beginnings. -/
def afterEither? (first second : String) (text : List Char) : Option (List Char) :=
  (behind? first text).orElse fun _ => behind? second text

/-- The bytes of a number without a sign of its own. -/
def unsignedNumber (text : List Char) : Except Fault Bytes :=
  let shown := String.ofList text
  let cleaned := withoutSeparators text
  match afterEither? "0x" "0X" cleaned with
  | some digits =>
    let bytes := Utf8.encode digits
    let padded := if bytes.length % 2 = 1 then 48 :: bytes else bytes
    (Hex.decode padded).mapError (.notHex shown)
  | none =>
    match afterEither? "0b" "0B" cleaned with
    | some digits =>
      match natural? 2 digits with
      | some value => .ok (Bytes.ofNat value)
      | none => .error (.notBinary shown)
    | none =>
      match natural? 10 cleaned with
      | some value => .ok (Bytes.ofNat value)
      | none => .error (.notDecimal shown)

def integer (text : List Char) : Except Fault Int :=
  let magnitude (digits : List Char) : Except Fault Int :=
    (unsignedNumber digits).map fun bytes => (Bytes.toNat bytes : Int)
  match text with
  | '-' :: digits => (magnitude digits).map (- ·)
  | '+' :: digits => magnitude digits
  | digits => magnitude digits

/-- A number as the fewest bytes; with a sign in front, in two's complement. -/
def number (text : List Char) : Except Fault Bytes :=
  match text with
  | '-' :: _ | '+' :: _ => (integer text).map Bytes.ofInt
  | _ => unsignedNumber text

/-- A number on exactly `width` bytes. -/
def sizedUnsigned (width : Nat) (text : List Char) : Except Fault Bytes := do
  let value ← integer text
  if value < 0 then throw (.negative (String.ofList text))
  else if Bytes.capacity width ≤ value.toNat then throw (.tooWide (String.ofList text) width)
  else return Bytes.ofNatFixed width value.toNat

/-- A number in two's complement on exactly `width` bytes. -/
def sizedSigned (width : Nat) (text : List Char) : Except Fault Bytes := do
  let value ← integer text
  if width < Bytes.signedWidth value then throw (.tooWide (String.ofList text) width)
  else return Bytes.ofIntFixed width value

end ChainScenario.Expression
