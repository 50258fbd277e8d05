import ChainScenario.Bytes.Hex
import ChainScenario.Files.Tree
import ChainScenario.Json.Reader
import ChainScenario.Json.Writer
import ChainScenario.Text.Shown

/-!
# Faults of value expressions

What can be wrong with the text of a value, with the wording that a test author reads.
-/
namespace ChainScenario

/-- A byte as the character of the same number, between apostrophes. -/
def Hex.describeByte (byte : UInt8) : String := Shown.single (Char.ofNat byte.toNat)

/-- Why a text is not hexadecimal, in words. -/
def Hex.Fault.message : Hex.Fault → String
  | .oddLength => "Odd number of digits"
  | .notADigit byte position => s!"Invalid character {describeByte byte} at position {position}"

namespace Expression

/-- What is wrong with an expression. -/
inductive Fault where
  /-- The shard of an address is not hexadecimal. -/
  | shardNotHex (shard : String) (cause : Hex.Fault)
  /-- The shard of an address is not one byte. -/
  | shardNotOneByte (name : String)
  | severalShards (name : String)
  /-- The name of an address does not fit. -/
  | nameTooLong (name : String)
  /-- A number does not fit its width. -/
  | tooWide (number : String) (width : Nat)
  /-- A negative number where none may stand. -/
  | negative (number : String)
  /-- The digits after `0x` are not hexadecimal. -/
  | notHex (number : String) (cause : Hex.Fault)
  /-- The digits after `0b` are not binary. -/
  | notBinary (number : String)
  /-- The digits are not decimal. -/
  | notDecimal (number : String)
  /-- A JSON value that stands for no bytes. -/
  | notAValue (value : Json)
  /-- A file cannot be read. -/
  | unreadable (path : String) (cause : Files.Fault)
  /-- A contract file is not JSON. -/
  | contractNotJson (reference : String) (cause : Json.Fault)
  /-- A contract file holds no code. -/
  | contractWithoutCode (reference : String)
  /-- The code of a contract file is not hexadecimal. -/
  | contractCodeNotHex (reference : String) (cause : Hex.Fault)

/-- What is wrong with an expression, in words. -/
def Fault.message : Fault → String
  | .shardNotHex shard cause => s!"invalid address shard id {shard}: {cause.message}"
  | .shardNotOneByte name => s!"invalid address shard id in {name}"
  | .severalShards name =>
    s!"only one shard id separator allowed in address expression: {name}"
  | .nameTooLong name => s!"address name too long: {name}"
  | .tooWide number width => s!"representation of {number} does not fit in {width} bytes"
  | .negative number => s!"negative value not allowed: {number}"
  | .notHex number cause => s!"could not parse hex value {number}: {cause.message}"
  | .notBinary number => s!"could not parse binary value: {number}"
  | .notDecimal number => s!"could not parse base 10 value: {number}"
  | .notAValue value => s!"cannot interpret given JSON subtree as value: {value.compact}"
  | .unreadable path cause => s!"error loading file {path}: {cause.message}"
  | .contractNotJson reference cause => s!"invalid contract file {reference}: {cause.message}"
  | .contractWithoutCode reference => s!"missing contract code in {reference}"
  | .contractCodeNotHex reference cause =>
    s!"invalid contract code in {reference}: {cause.message}"

end Expression
end ChainScenario
