import ChainScenario.Settings.Toml.Reader
import ChainScenario.Settings.Value

/-!
# TOML numbers

A number may be spread over several tokens: a sign, words, and a point or a sign inside. Underscores
stand between digits.
-/
namespace ChainScenario.Settings.Toml

/-- How digits may be written. -/
structure Digits where
  base : Nat := 10
  /-- Whether a sign may stand in front. -/
  signed : Bool := false
  /-- Whether further digits may follow a zero in front. -/
  padded : Bool := false

/-- What was read of digits. -/
structure DigitsSoFar where
  /-- Whether no digit was read. -/
  first : Bool := true
  /-- Whether the first digit was a zero. -/
  startsWithZero : Bool := false
  /-- Whether the last character was an underscore. -/
  underscore : Bool := false

def Digits.isDigit (digits : Digits) (c : Char) : Bool :=
  isHexDigit c && hexValue c < digits.base

/-- Splits a word behind its digits; `offset` is that of the word, `place` that of what remains. -/
def Digits.splitFrom (digits : Digits) (offset : Nat) (place : Nat) (soFar : DigitsSoFar) :
    List Char → Except Fault (List Char × List Char)
  | [] => finish []
  | c :: text =>
    let wrong : Fault := ⟨.badNumber, place, []⟩
    let continued (soFar : DigitsSoFar) := do
      let (taken, rest) ← digits.splitFrom offset (place + 1) soFar text
      return (c :: taken, rest)
    if c == '0' && soFar.first then continued { soFar with first := false, startsWithZero := true }
    else if digits.isDigit c then
      if !soFar.first && soFar.startsWithZero && !digits.padded then .error wrong
      else continued { soFar with first := false, underscore := false }
    else if c == '_' && soFar.first then .error wrong
    else if c == '_' && !soFar.underscore then continued { soFar with underscore := true }
    else finish (c :: text)
where
  /-- Ends the digits. -/
  finish (rest : List Char) : Except Fault (List Char × List Char) :=
    if soFar.first || soFar.underscore then .error ⟨.badNumber, offset, []⟩ else .ok ([], rest)

/-- Splits a word behind its digits. -/
def Digits.split (digits : Digits) (offset : Nat) (word : List Char) :
    Except Fault (List Char × List Char) :=
  match digits.signed, word with
  | true, '-' :: text => do
    let (taken, rest) ← digits.splitFrom offset (offset + 1) {} text
    return ('-' :: taken, rest)
  | _, word => digits.splitFrom offset offset {} word

/-- The number that digits denote, without their sign. -/
def magnitude (base : Nat) (digits : List Char) : Nat :=
  (digits.filter isHexDigit).foldl (fun value digit => value * base + hexValue digit) 0

def integer (digits : Digits) (offset : Nat) (word : List Char) : Except Fault Scalar := do
  let wrong : Fault := ⟨.badNumber, offset, []⟩
  let (taken, rest) ← digits.split offset word
  if !rest.isEmpty then throw wrong
  let negative := taken.head? == some '-'
  let size := magnitude digits.base taken
  if negative then
    if size ≤ signedLimit then return .integer (-(size : Int)) else throw wrong
  else if size < signedLimit then return .integer size
  else throw wrong

/-- The digits of an exponent that follow its mark; if nothing follows it in its word, they are the
word behind a plus sign. -/
def exponentDigits (offset markOffset : Nat) (text : List Char) : Reader (List Char) := do
  let wrong : Fault := ⟨.badNumber, offset, []⟩
  let (taken, rest) ←
    if text.isEmpty then do
      let _ ← eat .plus
      match ← next with
      | ⟨place, .word text⟩ => Digits.split { padded := true } place text
      | _ => throw wrong
    else Digits.split { signed := true, padded := true } (markOffset + 1) text
  if rest.isEmpty then return taken else throw wrong

/-- A floating point number whose whole part starts a word; `fraction` is the word behind its
point. -/
def float (offset : Nat) (word : List Char) (fraction : Option (Nat × List Char)) :
    Reader Scalar := do
  let wrong : Fault := ⟨.badNumber, offset, []⟩
  let (whole, rest) ← Digits.split { signed := true } offset word
  let (decimals, place, rest) ← match fraction with
    | none => pure ([], offset + whole.length, rest)
    | some (place, text) => do
      if !rest.isEmpty then throw wrong
      let (decimals, rest) ← Digits.split { padded := true } place text
      pure (decimals, place + decimals.length, rest)
  let exponent ← match rest with
    | [] => pure []
    | mark :: text =>
      if mark == 'e' || mark == 'E' then exponentDigits offset place text else throw wrong
  let decimals := decimals.filter Char.isDigit
  let digits := magnitude 10 (whole ++ decimals)
  let order := magnitude 10 exponent
  let order : Int := if exponent.head? == some '-' then -(order : Int) else order
  match Extended.ofDecimal (whole.head? == some '-') digits (order - decimals.length) with
  | .finite value => return .float (.finite value)
  | _ => throw wrong

/-- The number that starts with a word, and its place: `start`, which may be that of a sign in front
of the word, or where its fraction starts if it has one behind a point. -/
def number (start offset : Nat) (word : List Char) : Reader (Nat × Scalar) := do
  match word with
  | '0' :: 'x' :: text =>
    return (start, ← integer { base := 16, padded := true } (offset + 2) text)
  | '0' :: 'o' :: text =>
    return (start, ← integer { base := 8, padded := true } (offset + 2) text)
  | '0' :: 'b' :: text =>
    return (start, ← integer { base := 2, padded := true } (offset + 2) text)
  | word =>
    if word.contains 'e' || word.contains 'E' then return (start, ← float offset word none)
    else if ← eat .period then
      match ← next with
      | ⟨place, .word fraction⟩ => return (place, ← float offset word (some (place, fraction)))
      | ⟨place, _⟩ => throw ⟨.badNumber, place, []⟩
    else match String.ofList word with
      | "inf" => return (start, .float (.infinite false))
      | "-inf" => return (start, .float (.infinite true))
      | "nan" | "-nan" => return (start, .float .undefined)
      | _ => return (start, ← integer { signed := true } offset word)

end ChainScenario.Settings.Toml
