import ChainScenario.Text.Shown
import ChainScenario.Text.Utf8

/-!
# Faults of TOML documents

What is wrong with a document, where, and under which key.
-/
namespace ChainScenario.Settings.Toml

/-- What is wrong with a document. -/
inductive Cause where
  /-- A character that starts no token. -/
  | strayCharacter (c : Char)
  /-- A character that may not stand in a string. -/
  | strayInString (c : Char)
  /-- A character that is no escape. -/
  | noEscape (c : Char)
  /-- A character that is no hexadecimal digit in an escape. -/
  | noHexDigit (c : Char)
  /-- The number of an escape is not that of a character. -/
  | noCharacter (value : Nat)
  | newlineInString
  | unterminatedString
  | severalLinesInKey
  /-- Another token stands where one is wanted. -/
  | unexpected (wanted found : String)
  | badNumber
  | badDate
  /-- A text is written as a date but is none. -/
  | noDate
  /-- What should be the text of a date is no text. -/
  | noDateText (found : String)
  | unquotedText
  | unfinished
  | repeatedKey (name : String)
  | repeatedTable (path : List String)
  /-- A table is defined again as a list of tables. -/
  | tableAsList
  /-- A dotted key goes on inside a value that is no table. -/
  | keyInsideValue
  deriving Repr, DecidableEq

/-- What is wrong with a document, in words. -/
def Cause.message : Cause → String
  | strayCharacter c => s!"unexpected character found: `{Shown.ascii c}`"
  | strayInString c => s!"invalid character in string: `{Shown.ascii c}`"
  | noEscape c => s!"invalid escape character in string: `{Shown.ascii c}`"
  | noHexDigit c => s!"invalid hex escape character in string: `{Shown.ascii c}`"
  | noCharacter value => s!"invalid escape value: `{value}`"
  | newlineInString => "newline in string found"
  | unterminatedString => "unterminated string"
  | severalLinesInKey => "multiline strings are not allowed for key"
  | unexpected wanted found => s!"expected {wanted}, found {found}"
  | badNumber => "invalid number"
  | badDate => "invalid date"
  | noDate => "failed to parse datetime"
  | noDateText found => s!"invalid type: {found}, expected string containing a datetime"
  | unquotedText => "invalid TOML value, did you mean to use a quoted string?"
  | unfinished => "unexpected eof encountered"
  | repeatedKey name => s!"duplicate key: `{name}`"
  | repeatedTable path =>
    let name := ".".intercalate path
    s!"redefinition of table `{name}`"
  | tableAsList => "table redefined as array"
  | keyInsideValue => "dotted key attempted to extend non-table type"

/-- What is wrong at a byte offset of a document, and the key under which it stands. -/
structure Fault where
  cause : Cause
  offset : Nat
  key : List String := []
  deriving Repr, DecidableEq

/-- The line and the column of a byte offset in the lines of a document, counted from zero. -/
def lineColumn (offset : Nat) (line : Nat) : List (List Char) → Nat × Nat
  | [] => (line, 0)
  | text :: lines =>
    let length := (Utf8.encode text).length + 1
    if offset < length then (line, offset) else lineColumn (offset - length) (line + 1) lines

/-- The lines of a document; a newline at its end starts no further line. -/
def lines (document : List Char) : List (List Char) :=
  let lines := document.splitOn '\n'
  if lines.getLast? == some [] then lines.dropLast else lines

/-- What is wrong with a document, with its key and place. -/
def Fault.message (document : List Char) (fault : Fault) : String :=
  let (line, column) := lineColumn fault.offset 0 (lines document)
  let key := ".".intercalate fault.key
  let key := if fault.key.isEmpty then "" else s!" for key `{key}`"
  s!"{fault.cause.message}{key} at line {line + 1} column {column + 1}"

end ChainScenario.Settings.Toml
