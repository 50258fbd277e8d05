import ChainScenario.OrdMap
import ChainScenario.Text.Utf8

/-!
# Tokens

A token has numbered instances; an account holds an amount of an instance. Instance zero is the
fungible one, the others carry metadata.
-/
namespace ChainScenario

/-- The kinds of tokens. -/
inductive Token.Kind where
  | fungible
  | nonFungible
  deriving DecidableEq, Repr, Inhabited

namespace Token

def Kind.code : Kind → Nat
  | fungible => 0
  | nonFungible => 1

def Kind.ofCode? : Nat → Option Kind
  | 0 => some .fungible
  | 1 => some .nonFungible
  | _ => none

/-- What is known of an instance of a non-fungible token. -/
structure Metadata where
  nonce : UInt64
  name : Bytes
  creator : Bytes
  royalties : UInt32
  hash : Bytes
  uris : List Bytes
  attributes : Bytes
  deriving DecidableEq, Repr, Inhabited

/-- What an account holds of an instance of a token. -/
structure Holding where
  kind : Kind
  value : Nat
  /-- Flags; the lowest bit of the first byte freezes the holding. -/
  properties : Bytes
  metadata : Option Metadata
  deriving DecidableEq, Repr, Inhabited

/-- An amount of a fungible token. -/
def Holding.fungible (value : Nat) : Holding := ⟨.fungible, value, [], none⟩

/-- Whether a holding cannot be sent. -/
def Holding.isFrozen (holding : Holding) : Bool :=
  match holding.properties with
  | flags :: _ => flags % 2 == 1
  | [] => false

/-- All that an account holds of a token. -/
structure Record where
  instances : OrdMap UInt64 Holding
  lastNonce : UInt64
  roles : List Bytes
  frozen : Bool
  deriving Inhabited

/-- The record of a token of which an account holds nothing. -/
def Record.blank : Record := ⟨.empty, 0, [], false⟩

/-- The identifier that stands for currency among tokens. -/
def currency : Bytes := Utf8.ofString "EGLD-000000"

end Token
end ChainScenario
