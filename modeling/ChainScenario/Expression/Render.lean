import ChainScenario.Address
import ChainScenario.Text.Quoted

/-!
# Rendered values

Bytes as the expression a test author would have written for them.
-/
namespace ChainScenario.Expression

/-- What bytes are expected to stand for. -/
inductive Hint where
  /-- Nothing known: hexadecimal and text. -/
  | unknown
  /-- An unsigned number. -/
  | number
  | text
  /-- An account address. -/
  | address
  /-- Contract code, of which the start is shown. -/
  | code
  deriving Repr, DecidableEq

def shownCode : Nat := 10

/-- Bytes in hexadecimal, and as text in parentheses. -/
def renderUnknown (value : Bytes) : String :=
  if value.isEmpty then ""
  else if value.all CharClass.isPrintable then
    s!"0x{Hex.encode value} (str:{Utf8.decodeLossy value})"
  else s!"0x{Hex.encode value} (str:{Quoted.render value})"

/-- Code in hexadecimal, cut after the first bytes. -/
def renderCode (value : Bytes) : String :=
  if shownCode < value.length then s!"0x{Hex.encode (value.take shownCode)}..."
  else s!"0x{Hex.encode value}"

/-- The name in an address, without the underscores that fill it up. -/
def addressName (padded : Bytes) : Bytes :=
  (padded.reverse.dropWhile (· == 0x5F)).reverse

/-- An address by its name, with a last byte other than an underscore as its shard; an address
without a printable name like unknown bytes. -/
def renderAddress (value : Bytes) : String :=
  if value.length ≠ Address.length then renderUnknown value
  else
    let ofContract := (value.take Address.contractZeros).all (· == 0)
    let mark := if ofContract then "sc" else "address"
    let body := if ofContract then value.drop (Address.contractZeros + Address.vmTypeLength)
      else value
    let last := value.getLastD 0
    -- an underscore at the end fills up the name, any other last byte is a shard
    let name := addressName (if last = 0x5F then body else body.dropLast)
    if name.isEmpty || !name.all CharClass.isPrintable then renderUnknown value
    else
      let shard := if last = 0x5F then "" else "#" ++ Hex.encode [last]
      mark ++ ":" ++ Utf8.decodeLossy name ++ shard

def render (hint : Hint) (value : Bytes) : String :=
  match hint with
  | .unknown => renderUnknown value
  | .number => toString (Bytes.toNat value)
  | .text => "str:" ++ Utf8.decodeLossy value
  | .address => renderAddress value
  | .code => renderCode value

/-- Several values in quotes, between brackets. -/
def renderList (hint : Hint) (values : List Bytes) : String :=
  "[" ++ ", ".intercalate (values.map fun value => "\"" ++ render hint value ++ "\"") ++ "]"

end ChainScenario.Expression
