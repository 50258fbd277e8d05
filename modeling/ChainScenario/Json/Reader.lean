import ChainScenario.Json.Token
import ChainScenario.Text.Utf8

/-!
# JSON documents

A document is one value in UTF-8, with at most 127 arrays and objects within each other. The value
is built token by token; the arrays and objects that are still open are kept innermost first.
-/
namespace ChainScenario.Json

/-- The greatest number of arrays and objects within each other. -/
def maxDepth : Nat := 127

/-- An array or object that is still open, its parts last first. -/
inductive Frame where
  | items (reversed : List Json)
  | fields (reversed : List (String × Json)) (key : String)

/-- What may follow. -/
inductive Expectation where
  | value
  /-- The first item of an array, or its end. -/
  | firstItem
  /-- A comma, or the end of the innermost frame. -/
  | separator
  /-- The first key of an object, or its end. -/
  | firstKey
  | key
  | colon
  /-- Nothing: the value is complete. -/
  | nothing (result : Json)

/-- The open frames, innermost first, and what may follow. -/
structure Construction where
  frames : List Frame
  expectation : Expectation

namespace Construction

def deliver (frames : List Frame) (value : Json) : Construction :=
  match frames with
  | [] => ⟨[], .nothing value⟩
  | .items reversed :: frames => ⟨.items (value :: reversed) :: frames, .separator⟩
  | .fields reversed key :: frames => ⟨.fields ((key, value) :: reversed) key :: frames, .separator⟩

/-- Opens a frame, if there is room for it. -/
def nest (frames : List Frame) (frame : Frame) (expectation : Expectation) :
    Except Fault Construction :=
  if maxDepth ≤ frames.length then .error .tooDeep else .ok ⟨frame :: frames, expectation⟩

/-- Reads one token. -/
def step (construction : Construction) (token : Token) : Except Fault Construction :=
  match construction.expectation, token, construction.frames with
  | .value, .scalar value, frames => .ok (deliver frames value)
  | .value, .openArray, frames => nest frames (.items []) .firstItem
  | .value, .openObject, frames => nest frames (.fields [] "") .firstKey
  | .firstItem, .scalar value, frames => .ok (deliver frames value)
  | .firstItem, .openArray, frames => nest frames (.items []) .firstItem
  | .firstItem, .openObject, frames => nest frames (.fields [] "") .firstKey
  | .firstItem, .closeArray, .items reversed :: frames =>
    .ok (deliver frames (.array reversed.reverse))
  | .separator, .comma, .items reversed :: frames => .ok ⟨.items reversed :: frames, .value⟩
  | .separator, .comma, .fields reversed key :: frames =>
    .ok ⟨.fields reversed key :: frames, .key⟩
  | .separator, .closeArray, .items reversed :: frames =>
    .ok (deliver frames (.array reversed.reverse))
  | .separator, .closeObject, .fields reversed _ :: frames =>
    .ok (deliver frames (Json.ofFields reversed.reverse))
  | .firstKey, .closeObject, .fields reversed _ :: frames =>
    .ok (deliver frames (Json.ofFields reversed.reverse))
  | .firstKey, .scalar (.string key), .fields reversed _ :: frames =>
    .ok ⟨.fields reversed key :: frames, .colon⟩
  | .key, .scalar (.string key), .fields reversed _ :: frames =>
    .ok ⟨.fields reversed key :: frames, .colon⟩
  | .colon, .colon, frames => .ok ⟨frames, .value⟩
  | _, _, _ => .error .misplaced

end Construction

def ofTokens (tokens : List Token) : Except Fault Json := do
  let construction ← tokens.foldlM Construction.step ⟨[], .value⟩
  match construction.expectation with
  | .nothing result => return result
  | _ => throw .unfinished

def read (document : Bytes) : Except Fault Json := do
  match Utf8.decode? document with
  | some text => ofTokens (← Token.scan text)
  | none => throw .notText

end ChainScenario.Json
