import ChainScenario.Number.Binary64

/-!
# JSON values

Objects keep their keys in the order of first insertion; setting a key again replaces its value in
place. Whole numbers of 64 bits stay whole, all others are floating point.
-/
namespace ChainScenario

/-- A number of a JSON document. -/
inductive Json.Number where
  /-- A whole number that fits 64 bits, signed or unsigned. -/
  | whole (value : Int)
  /-- Any other number. -/
  | real (value : Binary64)
  deriving Repr, DecidableEq

/-- A JSON value. -/
inductive Json where
  | null
  | bool (value : Bool)
  | number (value : Json.Number)
  | string (value : String)
  | array (items : List Json)
  | object (fields : List (String × Json))
  deriving Repr, Inhabited

namespace Json

/-- Fields with a key set: in place if it was there, else at the end. -/
def setField (key : String) (value : Json) : List (String × Json) → List (String × Json)
  | [] => [(key, value)]
  | (k, v) :: fields => if k = key then (k, value) :: fields else (k, v) :: setField key value fields

/-- The object with a list of fields set one after another. -/
def ofFields (fields : List (String × Json)) : Json :=
  .object (fields.foldl (fun set field => setField field.1 field.2 set) [])

def field? (key : String) : List (String × Json) → Option Json
  | [] => none
  | (k, v) :: fields => if k = key then some v else field? key fields

def asString? : Json → Option String
  | .string text => some text
  | _ => none

def asObject? : Json → Option (List (String × Json))
  | .object fields => some fields
  | _ => none

def asArray? : Json → Option (List Json)
  | .array items => some items
  | _ => none

def asBool? : Json → Option Bool
  | .bool value => some value
  | _ => none

end Json
end ChainScenario
