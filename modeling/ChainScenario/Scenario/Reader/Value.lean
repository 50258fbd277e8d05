import ChainScenario.Expression.Interpret
import ChainScenario.Scenario.Fault

/-!
# Reading values of a scenario

Values become bytes, numbers and checks that keep their source. An object is read field by field;
`readFields_unknown` says that a field without a reader is never passed over.
-/
namespace ChainScenario.Scenario.Reader

open Expression (Context)

/-- Names the part of the scenario in which a fault lies. -/
def within (part : String) (result : Except Fault α) : Except Fault α :=
  result.mapError (.within part)

/-- The readers of the fields of an object, by name. -/
abbrev FieldReaders (α : Type) := String → Option (Json → α → Except Fault α)

/-- Reads one field into what was read before. -/
def readField (record : Record) (readers : FieldReaders α) (read : α) (field : String × Json) :
    Except Fault α :=
  match readers field.1 with
  | some reader => reader field.2 read
  | none => throw (.unknownField record field.1)

/-- Reads the fields of an object one after another. -/
def readFields (record : Record) (readers : FieldReaders α) (blank : α)
    (fields : List (String × Json)) : Except Fault α :=
  fields.foldlM (readField record readers) blank

/-- An object with a field that has no reader is refused. -/
theorem readFields_unknown {record : Record} {readers : FieldReaders α} {blank : α}
    {fields : List (String × Json)} {key : String} {value : Json}
    (member : (key, value) ∈ fields) (unknown : readers key = none) :
    ∃ fault, readFields record readers blank fields = .error fault := by
  induction fields generalizing blank with
  | nil => cases member
  | cons field rest ih =>
    rcases List.mem_cons.1 member with here | there
    · subst here
      exact ⟨.unknownField record key, by simp [readFields, readField, unknown]; rfl⟩
    · cases step : readField record readers blank field with
      | error fault => exact ⟨fault, by simp [readFields, step]; rfl⟩
      | ok next =>
        obtain ⟨fault, failed⟩ := @ih next there
        exact ⟨fault, by rw [readFields, List.foldlM_cons, step]; exact failed⟩

/-- A reader that sets a field. -/
def setting (read : Json → Except Fault β) (set : β → α → α) :
    Option (Json → α → Except Fault α) :=
  some fun value target => (read value).map fun result => set result target

/-- The fields of an object of the scenario. -/
def fieldsOf (record : Record) (value : Json) : Except Fault (List (String × Json)) :=
  (value.asObject?).elim (.error (.notARecord record)) .ok

/-- The entries of a map of the scenario. -/
def entriesOf (collection : Collection) (value : Json) : Except Fault (List (String × Json)) :=
  (value.asObject?).elim (.error (.notACollection collection)) .ok

def itemsOf (collection : Collection) (value : Json) : Except Fault (List Json) :=
  (value.asArray?).elim (.error (.notACollection collection)) .ok

def string (value : Json) : Except Fault String :=
  (value.asString?).elim (.error .notAString) .ok

def bool (value : Json) : Except Fault Bool :=
  (value.asBool?).elim (.error .notABool) .ok

def strings (value : Json) : Except Fault (List String) := do
  (← itemsOf .plainList value).mapM string

/-- The text of a number; numbers of JSON stand for their own text. -/
def numberText : Json → Except Fault String
  | .string text => .ok text
  | .number number => .ok number.text
  | _ => .error .notAString

def expressed (context : Context) (text : String) : Except Fault Bytes :=
  (Expression.interpret context text).mapError .expression

def bytes (context : Context) (value : Json) : Except Fault (Written Bytes) := do
  return ⟨← expressed context (← string value), value⟩

/-- The bytes of any value. -/
def treeBytes (context : Context) (value : Json) : Except Fault (Written Bytes) := do
  return ⟨← (Expression.interpretTree context value).mapError .expression, value⟩

def natural (context : Context) (value : Json) : Except Fault (Written Nat) := do
  return ⟨Bytes.toNat (← expressed context (← numberText value)), value⟩

/-- A number of 64 bits. -/
def word (context : Context) (value : Json) : Except Fault (Written UInt64) := do
  let text ← numberText value
  let number := Bytes.toNat (← expressed context text)
  if number < UInt64.size then return ⟨UInt64.ofNat number, value⟩
  else throw (.tooLarge text)

def address (context : Context) (value : Json) : Except Fault (Written Bytes) := do
  let read ← bytes context value
  if read.value.length = Address.length then return read else throw .addressLength

def treeList (context : Context) (value : Json) : Except Fault (List (Written Bytes)) := do
  (← itemsOf .plainList value).mapM (treeBytes context)

def isStar (value : Json) : Bool := value.asString? == some "*"

/-- A check whose exact value is read by `read`. -/
def check (read : Json → Except Fault (Written α)) (value : Json) : Except Fault (Check α) :=
  if isStar value then .ok .any else (read value).map .exactly

def bytesCheck (context : Context) : Json → Except Fault (Check Bytes) :=
  check (treeBytes context)

def naturalCheck (context : Context) : Json → Except Fault (Check Nat) :=
  check (natural context)

/-- A check of a number of 64 bits. -/
def wordCheck (context : Context) : Json → Except Fault (Check UInt64) :=
  check (word context)

/-- A check of a list: a list of checks or a single one; the empty text is the empty list. -/
def listCheck (context : Context) (value : Json) : Except Fault ListCheck :=
  if isStar value then .ok .any
  else
    match value with
    | .array items => (items.mapM (bytesCheck context)).map fun checks => .exactly ⟨checks, value⟩
    | .string "" => .ok (.exactly ⟨[], value⟩)
    | _ => (bytesCheck context value).map fun single => .exactly ⟨[single], value⟩

end ChainScenario.Scenario.Reader
