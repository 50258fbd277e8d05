import ChainScenario.Bytes.Hex
import ChainScenario.Text.CharClass
import ChainScenario.Text.Utf8

/-!
# Quoted text

A byte string between double quotes, on one line. Characters without a shape are written as
escapes, and so is every byte that is no part of a character.
-/
namespace ChainScenario.Quoted

/-- The one-letter escape of a character, if it has one. -/
def letterEscape? (c : Char) : Option Char :=
  match c.toNat with
  | 0x22 => some '"'
  | 0x5C => some '\\'
  | 0x07 => some 'a'
  | 0x08 => some 'b'
  | 0x0C => some 'f'
  | 0x0A => some 'n'
  | 0x0D => some 'r'
  | 0x09 => some 't'
  | 0x0B => some 'v'
  | _ => none

/-- Two hexadecimal digits after `\x`. -/
def byteEscape (value : Nat) : List Char :=
  '\\' :: 'x' :: Hex.natDigits 2 value

/-- A character of quoted text; `spelled` tells which characters beyond ASCII are written as
escapes. -/
def character (spelled : Char → Bool) (c : Char) : List Char :=
  match letterEscape? c with
  | some letter => ['\\', letter]
  | none =>
    if 0x20 ≤ c.toNat ∧ c.toNat ≤ 0x7E then [c]
    else if c.toNat < 0x80 then byteEscape c.toNat
    else if spelled c then
      if c.toNat < 0x10000 then '\\' :: 'u' :: Hex.natDigits 4 c.toNat
      else '\\' :: 'U' :: Hex.natDigits 8 c.toNat
    else [c]

def piece (spelled : Char → Bool) : Utf8.Piece → List Char
  | .character value _ => character spelled value
  | .broken bytes => bytes.flatMap fun byte => byteEscape byte.toNat

def chars (spelled : Char → Bool) (bytes : Bytes) : List Char :=
  '"' :: ((Utf8.pieces bytes).flatMap (piece spelled) ++ ['"'])

/-- Quoted text with controls and white space spelled out. -/
def render (bytes : Bytes) : String :=
  String.ofList (chars (fun c => CharClass.isControl c || CharClass.isBlank c) bytes)

end ChainScenario.Quoted
