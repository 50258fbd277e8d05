import ChainScenario.Token.Basic
import ChainScenario.Token.Varint

/-!
# Stored tokens

Holdings and role lists as bytes: numbers are variable-length, byte strings stand behind their
length, amounts are the shortest big-endian bytes. A stored value is read as a whole.
-/
namespace ChainScenario.Token

/-- Why stored bytes are no value. -/
inductive Fault where
  /-- The bytes do not have the form of the value. -/
  | malformed
  /-- Bytes are left over behind the value. -/
  | trailing (count : Nat)
  deriving DecidableEq, Repr

/-- Why stored bytes are no value, in words. -/
def Fault.message : Fault → String
  | .malformed => "malformed value"
  | .trailing count => s!"{count} trailing bytes"

namespace Codec

/-- Reads a value from the front of a byte string. -/
abbrev Reader (α : Type) := StateT Bytes Option α

/-- A byte string behind its length. -/
def writeBytes (bytes : Bytes) : Bytes := Varint.write bytes.length ++ bytes

/-- Byte strings behind their number. -/
def writeList (items : List Bytes) : Bytes :=
  Varint.write items.length ++ items.flatMap writeBytes

def number : Reader UInt64 := Varint.read

/-- A number that is at most the number of bytes behind it. -/
def length : Reader Nat := do
  let length ← number
  let rest ← get
  -- every item takes up a byte at least, so a greater number cannot be met
  if length.toNat ≤ rest.length then return length.toNat else failure

def bytes : Reader Bytes := do
  let length ← length
  modifyGet fun rest => (rest.take length, rest.drop length)

def byteStrings : Nat → Reader (List Bytes)
  | 0 => return []
  | count + 1 => return (← bytes) :: (← byteStrings count)

def byteList : Reader (List Bytes) := do
  byteStrings (← length)

end Codec

open Codec

def Metadata.write (metadata : Metadata) : Bytes :=
  Varint.write metadata.nonce.toNat ++ writeBytes metadata.name ++ writeBytes metadata.creator ++
    Varint.write metadata.royalties.toNat ++ writeBytes metadata.hash ++
    writeList metadata.uris ++ writeBytes metadata.attributes

/-- Metadata; royalties beyond 32 bits count as the greatest number of 32 bits. -/
def Metadata.reader : Reader Metadata := do
  let nonce ← number
  let name ← bytes
  let creator ← bytes
  let royalties ← number
  let hash ← bytes
  let uris ← byteList
  let attributes ← bytes
  return ⟨nonce, name, creator, UInt32.ofNat (min royalties.toNat (UInt32.size - 1)), hash, uris,
    attributes⟩

def Holding.write (holding : Holding) : Bytes :=
  Varint.write holding.kind.code ++ writeBytes (Bytes.ofNat holding.value) ++
    writeBytes holding.properties ++
    match holding.metadata with
    | none => Varint.write 0
    | some metadata => Varint.write 1 ++ metadata.write

def Holding.reader : Reader Holding := do
  let kind ← Kind.ofCode? (← number).toNat
  let value ← bytes
  let properties ← bytes
  let metadata ← match (← number).toNat with
    | 0 => pure none
    | 1 => some <$> Metadata.reader
    | _ => failure
  return ⟨kind, Bytes.toNat value, properties, metadata⟩

def writeRoles (roles : List Bytes) : Bytes := writeList roles

def rolesReader : Reader (List Bytes) := byteList

/-- Reads a value that takes up all bytes. -/
def readAll (reader : Reader α) (stored : Bytes) : Except Fault α :=
  match reader stored with
  | none => .error .malformed
  | some (value, []) => .ok value
  | some (_, rest) => .error (.trailing rest.length)

end ChainScenario.Token
