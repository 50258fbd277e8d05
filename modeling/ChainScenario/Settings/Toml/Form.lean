import ChainScenario.Settings.Toml.Date
import ChainScenario.Settings.Toml.Number

/-!
# Forms of TOML values

A value as it stands in a document: tables are still lists of written keys, in which a key may be
repeated. The nesting of a document is bounded by its number of tokens, which bounds the recursion.
-/
namespace ChainScenario.Settings.Toml

/-- A value as it stands in a document, with the places of its parts. -/
inductive Form where
  | plain (value : Scalar)
  /-- What is written as a date. -/
  | date (text : List Char)
  | list (items : List (Nat × Form))
  /-- A table in braces, or one that dotted keys make. -/
  | table (dotted : Bool) (entries : List (String × Nat × Form))

/-- Written keys with their values and the places of these. -/
abbrev Entries := List (String × Nat × Form)

def keyName : Reader String := do
  let ⟨offset, found⟩ ← next
  match found with
  | .word text | .string text false => return String.ofList text
  | .string _ true => throw ⟨.severalLinesInKey, offset, []⟩
  | found => throw ⟨.unexpected "a table key" found.describe, offset, []⟩

/-- At most `count` names behind points. -/
def moreNames : Nat → Reader (List String)
  | 0 => return []
  | count + 1 => do
    eatBlanks
    if ← eat .period then
      eatBlanks
      let name ← keyName
      return name :: (← moreNames count)
    else return []

/-- A key: names between points. -/
def key : Reader (String × List String) := do
  let name ← keyName
  return (name, ← moreNames (← get).length)

/-- Adds a value under a key to written entries. -/
def addEntry (name : String) (names : List String) (offset : Nat) (form : Form)
    (entries : Entries) : Except Fault Entries :=
  match names with
  | [] => .ok (entries ++ [(name, offset, form)])
  | second :: names => do
    match entryNamed? name entries with
    | none =>
      let inner ← addEntry second names offset form []
      return entries ++ [(name, offset, .table true inner)]
    -- only a table that dotted keys made can be written further
    | some (place, .table true inner) =>
      let inner ← addEntry second names offset form inner
      return setEntry name (place, .table true inner) entries
    | some (place, _) => throw ⟨.keyInsideValue, place, []⟩

/-- A number and its place; `start` is that of its sign or of its first word. -/
def numberForm (start offset : Nat) (word : List Char) : Reader (Nat × Form) := do
  let (place, value) ← number start offset word
  return (place, .plain value)

/-- The value that starts with a word, and its place. -/
def wordForm (offset : Nat) (word : List Char) : Reader (Nat × Form) := do
  let named := word == "inf".toList || word == "nan".toList
  let numeric := match word with
    | c :: _ => c.isDigit || c == '-'
    | [] => false
  match String.ofList word with
  | "true" => return (offset, .plain (.boolean true))
  | "false" => return (offset, .plain (.boolean false))
  | _ =>
    if !named && !numeric then throw ⟨.unquotedText, offset, []⟩
    else if isDateLike word then return (offset, .date (← dateText offset word false))
    else if ← eat .colon then return (offset, .date (← dateText offset word true))
    else numberForm offset offset word

mutual

/-- A value and its place, within so many levels. -/
def valueWithin : Nat → Reader (Nat × Form)
  | 0 => do throw ⟨.unfinished, (← peek).offset, []⟩
  | levels + 1 => do
    let ⟨offset, found⟩ ← next
    match found with
    | .string text _ => return (offset, .plain (.text (String.ofList text)))
    | .word text => wordForm offset text
    | .plus => do
      match ← next with
      | ⟨place, .word text⟩ => numberForm offset place text
      | ⟨place, _⟩ => throw ⟨.badNumber, place, []⟩
    | .leftBrace => do
      eatBlanks
      if ← eat .rightBrace then return (offset, .table false [])
      else return (offset, .table false (← fieldsWithin levels []))
    | .leftBracket => do return (offset, .list (← itemsWithin levels))
    | .ending => throw ⟨.unfinished, offset, []⟩
    | found => throw ⟨.unexpected "a value" found.describe, offset, []⟩

/-- The fields of a table in braces, up to the right brace. -/
def fieldsWithin : Nat → Entries → Reader Entries
  | 0, _ => do throw ⟨.unfinished, (← peek).offset, []⟩
  | levels + 1, entries => do
    let (name, names) ← key
    eatBlanks
    expect .equals
    eatBlanks
    let (offset, form) ← valueWithin levels
    let entries ← addEntry name names offset form entries
    eatBlanks
    if ← eat .rightBrace then return entries
    expect .comma
    eatBlanks
    fieldsWithin levels entries

/-- The items of a list, up to the right bracket. -/
def itemsWithin : Nat → Reader (List (Nat × Form))
  | 0 => do throw ⟨.unfinished, (← peek).offset, []⟩
  | levels + 1 => do
    eatSpace
    if ← eat .rightBracket then return []
    let item ← valueWithin levels
    eatSpace
    if ← eat .comma then return item :: (← itemsWithin levels)
    eatSpace
    expect .rightBracket
    return [item]

end

def value : Reader (Nat × Form) := do
  valueWithin (2 * (← get).length + 1)

/-- What a form is, in words. -/
def Form.describe : Form → String
  | .plain value => value.describe
  | .list _ => "sequence"
  | .date _ | .table .. => "map"

/-- The value of a date that starts at an offset: its text. -/
def dateValue (offset : Nat) (text : List Char) : Except Fault Value :=
  match Date.ofText? text with
  | some date => .ok (.scalar (.text date.text))
  | none => .error ⟨.noDate, offset, []⟩

/-- A table in which this name comes first is the date whose text stands under it. -/
def dateName : String := "$__toml_private_datetime"

/-- The date whose text a form must be. -/
def Form.toDate (offset : Nat) : Form → Except Fault Value
  | .plain (.text text) => dateValue offset text.toList
  | form => .error ⟨.noDateText form.describe, offset, []⟩

mutual

/-- The value of a form at a place, in which no key is repeated. -/
def Form.resolve (offset : Nat) : Form → Except Fault Value
  | .plain value => .ok (.scalar value)
  | .date text => dateValue offset text
  | .list items => do return .list (← resolveItems items)
  | .table _ entries =>
    match entries with
    | (name, place, form) :: rest =>
      if name = dateName then form.toDate place
      else do
        let value ← form.resolve place
        return .table ((name, value) :: (← resolveEntries offset [name] rest))
    | [] => .ok (.table [])

def resolveItems : List (Nat × Form) → Except Fault (List Value)
  | [] => .ok []
  | (offset, form) :: items => do
    let value ← form.resolve offset
    return value :: (← resolveItems items)

/-- The values of written entries, whose names must differ from each other and from those seen
before. -/
def resolveEntries (offset : Nat) (seen : List String) :
    List (String × Nat × Form) → Except Fault (List (String × Value))
  | [] => .ok []
  | (name, place, form) :: entries => do
    if seen.contains name then throw ⟨.repeatedKey name, offset, []⟩
    let value ← form.resolve place
    return (name, value) :: (← resolveEntries offset (name :: seen) entries)

end

end ChainScenario.Settings.Toml
