import ChainScenario.Bytes.Hex
import ChainScenario.Text.Shapeless

/-!
# Shown text

Characters and texts as messages show them: between quotes, with escapes for what has no shape.
-/
namespace ChainScenario.Shown

/-- The number of a character in braces after `\u`. -/
def numbered (c : Char) : List Char :=
  '\\' :: 'u' :: Char.ofNat 0x7B :: (Hex.natDigits 1 c.toNat ++ [Char.ofNat 0x7D])

/-- A character between the given quotes. -/
def character (quote c : Char) : List Char :=
  match c.toNat with
  | 0x00 => ['\\', '0']
  | 0x09 => ['\\', 't']
  | 0x0A => ['\\', 'n']
  | 0x0D => ['\\', 'r']
  | 0x5C => ['\\', c]
  | _ =>
    if c == quote then ['\\', c]
    else if CharClass.isShapeless c then numbered c
    else [c]

/-- A character between apostrophes. -/
def single (c : Char) : String :=
  let apostrophe := Char.ofNat 0x27
  String.ofList (apostrophe :: (character apostrophe c ++ [apostrophe]))

/-- A text between double quotes. -/
def double (text : String) : String :=
  String.ofList ('"' :: (text.toList.flatMap (character '"') ++ ['"']))

/-- A character in printable ASCII, without quotes. -/
def ascii (c : Char) : String :=
  String.ofList <| match c.toNat with
    | 0x09 => ['\\', 't']
    | 0x0A => ['\\', 'n']
    | 0x0D => ['\\', 'r']
    | 0x22 | 0x27 | 0x5C => ['\\', c]
    | code => if 0x20 ≤ code ∧ code ≤ 0x7E then [c] else numbered c

end ChainScenario.Shown
