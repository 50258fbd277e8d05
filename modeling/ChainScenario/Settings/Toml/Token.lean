import ChainScenario.Number.Decimal
import ChainScenario.Settings.Toml.Fault

/-!
# TOML tokens

A document as a list of tokens with their places. The first thing that is no token ends the list, so
that what stands before it is read first; `tokens` of a document always ends with a token that says
how it ends.
-/
namespace ChainScenario.Settings.Toml

/-- A token of a document. -/
inductive Token where
  | blank (text : List Char)
  | newline
  | comment
  | equals
  | period
  | comma
  | colon
  | plus
  | leftBrace
  | rightBrace
  | leftBracket
  | rightBracket
  /-- A run of letters, digits, underscores and hyphens. -/
  | word (text : List Char)
  | string (value : List Char) (multiline : Bool)
  /-- The end of the document. -/
  | ending
  /-- The document goes on with something that is no token. -/
  | bad (fault : Fault)
  deriving DecidableEq

/-- What a token is, in words. -/
def Token.describe : Token → String
  | blank _ => "whitespace"
  | newline => "a newline"
  | comment => "a comment"
  | equals => "an equals"
  | period => "a period"
  | comma => "a comma"
  | colon => "a colon"
  | plus => "a plus"
  | leftBrace => "a left brace"
  | rightBrace => "a right brace"
  | leftBracket => "a left bracket"
  | rightBracket => "a right bracket"
  | word _ => "an identifier"
  | string _ true => "a multiline string"
  | string _ false => "a string"
  | ending => "eof"
  | bad _ => "nothing"

/-- A token and the byte offset at which it starts. -/
structure Lexeme where
  offset : Nat
  token : Token

/-- Characters with their byte offsets. -/
abbrev Located := List (Nat × Char)

/-- The characters of a document from a byte offset on; a carriage return and the newline behind it
count as one newline. -/
def locate (offset : Nat) : List Char → Located
  | [] => []
  | '\r' :: '\n' :: text => (offset, '\n') :: locate (offset + 2) text
  | c :: text => (offset, c) :: locate (offset + c.utf8Size) text

def isBlank (c : Char) : Bool := c == ' ' || c == '\t'

def isWordCharacter (c : Char) : Bool := c.isAlphanum || c == '-' || c == '_'

/-- Whether a character may stand in a comment. -/
def isCommentCharacter (c : Char) : Bool := c == '\t' || 0x20 ≤ c.toNat

/-- Whether a character may stand in a string. -/
def isStringCharacter (c : Char) : Bool := isCommentCharacter c && c.toNat != 0x7F

/-- The character that an escape of one letter stands for. -/
def letterEscape? (c : Char) : Option Char :=
  match c with
  | '"' => some '"'
  | '\\' => some '\\'
  | 'b' => some (Char.ofNat 8)
  | 'f' => some (Char.ofNat 12)
  | 'n' => some '\n'
  | 'r' => some '\r'
  | 't' => some '\t'
  | _ => none

/-- The value of a hexadecimal digit. -/
def hexValue (c : Char) : Nat :=
  if c.isDigit then c.toNat - 48 else c.toLower.toNat - 87

def isHexDigit (c : Char) : Bool :=
  c.isDigit || ('a'.toNat ≤ c.toLower.toNat && c.toLower.toNat ≤ 'f'.toNat)

def numberedEscape (start offset digits : Nat) (text : Located) : Except Fault Char :=
  let written := text.take digits
  match written.find? fun (_, c) => !isHexDigit c with
  | some (place, c) => .error ⟨.noHexDigit c, place, []⟩
  | none =>
    if written.length < digits then .error ⟨.unterminatedString, start, []⟩
    else
      let value := written.foldl (fun value (_, c) => value * 16 + hexValue c) 0
      if value.isValidChar then .ok (Char.ofNat value)
      else .error ⟨.noCharacter value, offset, []⟩

/-- How many characters a line ending in a backslash leaves out, from the one behind the backslash
on. -/
def continuation (offset : Nat) (first : Char) (text : Located) : Except Fault Nat :=
  let blanks := if first == '\n' then [] else
    text.takeWhile fun (_, c) => isBlank c
  let space (text : Located) := (text.takeWhile fun (_, c) => isBlank c || c == '\n').length
  if first == '\n' then .ok (space text)
  else match text.drop blanks.length with
    | [] => .ok blanks.length
    | (_, '\n') :: text => .ok (blanks.length + 1 + space text)
    | _ => .error ⟨.noEscape first, offset, []⟩

/-- What an escape stands for, and how many characters it has behind the one after its backslash. -/
def escape (start : Nat) (multiline : Bool) (offset : Nat) (first : Char) (text : Located) :
    Except Fault (List Char × Nat) :=
  match letterEscape? first with
  | some c => .ok ([c], 0)
  | none =>
    if first == 'u' then do return ([← numberedEscape start offset 4 text], 4)
    else if first == 'U' then do return ([← numberedEscape start offset 8 text], 8)
    else if multiline && (isBlank first || first == '\n') then do
      return ([], ← continuation offset first text)
    else .error ⟨.noEscape first, offset, []⟩

/-- The kind of a string. -/
structure Quoting where
  mark : Char
  multiline : Bool

/-- Whether escapes mean something. -/
def Quoting.escapes (quoting : Quoting) : Bool := quoting.mark == '"'

/-- Reads a string that starts at `start` up to its last mark; `reversed` is what was read of it. -/
def stringRest (quoting : Quoting) (start : Nat) (reversed : List Char) :
    Located → Except Fault (List Char × Located)
  | [] => .error ⟨.unterminatedString, start, []⟩
  | (offset, c) :: text =>
    if c == '\n' then
      if quoting.multiline then stringRest quoting start (c :: reversed) text
      else .error ⟨.newlineInString, offset, []⟩
    else if c == quoting.mark then
      if quoting.multiline then
        let marks := (text.takeWhile fun (_, c) => c == quoting.mark).length
        if marks < 2 then stringRest quoting start (c :: reversed) text
        else
          -- up to two marks may stand right before the three that end the string
          let kept := min marks 4 - 2
          .ok (reversed.reverse ++ List.replicate kept c, text.drop (kept + 2))
      else .ok (reversed.reverse, text)
    else if quoting.escapes && c == '\\' then
      match text with
      | [] => .error ⟨.unterminatedString, start, []⟩
      | (place, first) :: text =>
        match escape start quoting.multiline place first text with
        | .error fault => .error fault
        | .ok (meant, length) =>
          stringRest quoting start (meant.reverse ++ reversed) (text.drop length)
    else if isStringCharacter c then stringRest quoting start (c :: reversed) text
    else .error ⟨.strayInString c, offset, []⟩
termination_by text => text.length

/-- Reads a string behind its first mark. Three marks start a string of several lines; a newline
right behind them does not belong to it. -/
def string (mark : Char) (start : Nat) (text : Located) : Except Fault (Token × Located) :=
  match (text.takeWhile fun (_, c) => c == mark).length with
  | 0 => read false text
  | 1 => .ok (.string [] false, text.drop 1)
  | _ =>
    match text.drop 2 with
    | (_, '\n') :: text => read true text
    | text => read true text
where
  /-- Reads the string up to its last mark. -/
  read (multiline : Bool) (text : Located) : Except Fault (Token × Located) :=
    (stringRest ⟨mark, multiline⟩ start [] text).map fun (value, rest) =>
      (.string value multiline, rest)

/-- The token of a character that is one by itself. -/
def sign? (c : Char) : Option Token :=
  match c.toNat with
  | 0x0A => some .newline
  | 0x3D => some .equals
  | 0x2E => some .period
  | 0x2C => some .comma
  | 0x3A => some .colon
  | 0x2B => some .plus
  | 0x7B => some .leftBrace
  | 0x7D => some .rightBrace
  | 0x5B => some .leftBracket
  | 0x5D => some .rightBracket
  | _ => none

/-- The token that starts with a character, and the text behind it. -/
def token (offset : Nat) (c : Char) (text : Located) : Except Fault (Token × Located) :=
  let behind (belongs : Char → Bool) := text.dropWhile fun (_, c) => belongs c
  match sign? c with
  | some token => .ok (token, text)
  | none =>
    if isBlank c then
      let more := (text.takeWhile fun (_, c) => isBlank c).map Prod.snd
      .ok (.blank (c :: more), behind isBlank)
    else if c == '#' then .ok (.comment, behind isCommentCharacter)
    else if c == '"' || c.toNat == 0x27 then string c offset text
    else if isWordCharacter c then
      let more := (text.takeWhile fun (_, c) => isWordCharacter c).map Prod.snd
      .ok (.word (c :: more), behind isWordCharacter)
    else .error ⟨.strayCharacter c, offset, []⟩

/-- At most `count` tokens of a text that ends at `size`, and how it ends. -/
def tokensWithin (size : Nat) : Nat → Located → List Lexeme
  | 0, _ | _ + 1, [] => [⟨size, .ending⟩]
  | count + 1, (offset, c) :: text =>
    match token offset c text with
    | .ok (token, rest) => ⟨offset, token⟩ :: tokensWithin size count rest
    | .error fault => [⟨offset, .bad fault⟩]

/-- The tokens of a document and how it ends. A byte order mark at its start is passed over. -/
def tokens (document : List Char) : List Lexeme :=
  let text := match locate 0 document with
    | (_, first) :: rest => if first.toNat == 0xFEFF then rest else (0, first) :: rest
    | [] => []
  tokensWithin (Utf8.encode document).length text.length text

end ChainScenario.Settings.Toml
