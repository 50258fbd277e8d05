import ChainScenario.Number.Decimal
import ChainScenario.Settings.Value

/-!
# Keys of settings

The key of a setting is a name and the way from there on: an entry of a table behind a dot, or an
item of a list in brackets. A text that cannot be read so is a name as it stands.
-/
namespace ChainScenario.Settings

/-- A step from a setting to one that it holds. -/
inductive Step where
  | entry (name : String)
  /-- To an item of a list, which is counted from the end if the index is negative. -/
  | item (index : Int)
  deriving Repr, DecidableEq

/-- Where a setting stands. -/
structure Key where
  name : String
  steps : List Step := []
  deriving Repr, DecidableEq

namespace Key

/-- Whether a character may stand in a name of a key. -/
def isNameCharacter (c : Char) : Bool :=
  c.isAlphanum || c == ' ' || c == '_' || c == '-'

/-- The longest name in front of a text, and the text behind it. -/
def splitName (text : List Char) : List Char × List Char :=
  (text.takeWhile isNameCharacter, text.dropWhile isNameCharacter)

theorem length_splitName_le (text : List Char) : (splitName text).2.length ≤ text.length :=
  (List.dropWhile_sublist _).length_le

/-- The index that stands between brackets, perhaps among blanks. -/
def index? (text : List Char) : Option Int :=
  let isBlank (c : Char) := c == ' ' || c == '\t'
  let text := ((text.dropWhile isBlank).reverse.dropWhile isBlank).reverse
  if text.head? == some '+' then none
  else (Decimal.signed? text).filter fitsWord

/-- The steps that a text denotes. -/
def steps? : List Char → Option (List Step)
  | [] => some []
  | '.' :: text =>
    match h : splitName text with
    | ([], _) => none
    | (name, rest) =>
      have : rest.length ≤ text.length := by simpa [h] using length_splitName_le text
      (steps? rest).map (.entry (String.ofList name) :: ·)
  | '[' :: text =>
    match h : text.dropWhile (· != ']') with
    | [] => none
    | _ :: rest =>
      have : rest.length < text.length := by
        have := (List.dropWhile_sublist (l := text) (· != ']')).length_le
        rw [h] at this
        exact this
      match index? (text.takeWhile (· != ']')) with
      | none => none
      | some index => (steps? rest).map (.item index :: ·)
  | _ => none
termination_by text => text.length

def ofText (text : String) : Key :=
  match splitName text.toList with
  -- what is no way to a setting names one that nobody asks for
  | ([], _) => ⟨text, []⟩
  | (name, rest) =>
    match steps? rest with
    | none => ⟨text, []⟩
    | some steps => ⟨String.ofList name, steps⟩

end Key
end ChainScenario.Settings
