import ChainScenario.Bytes.Hex
import ChainScenario.Json.Number

/-!
# JSON tokens

A document is read character by character. A run of letters or of the characters of numbers ends
where the next character belongs to no such run.
-/
namespace ChainScenario.Json

/-- Why a document is not JSON. -/
inductive Fault where
  /-- The document is not UTF-8. -/
  | notText
  /-- A character that starts no token. -/
  | strayCharacter (c : Char)
  /-- A word other than `null`, `true` and `false`. -/
  | unknownWord (word : String)
  /-- A number that is badly written or beyond the finite numbers. -/
  | badNumber (text : String)
  /-- A control character or a bad escape in a string. -/
  | badString
  /-- The document ends too early. -/
  | unfinished
  /-- A token out of place. -/
  | misplaced
  /-- Too many arrays and objects within each other. -/
  | tooDeep
  deriving Repr, DecidableEq

/-- Why a document is not JSON, in words. -/
def Fault.message : Fault → String
  | .notText => "not a UTF-8 text"
  | .strayCharacter c => s!"unexpected character {c}"
  | .unknownWord word => s!"unknown word {word}"
  | .badNumber text => s!"bad number {text}"
  | .badString => "bad string"
  | .unfinished => "unexpected end"
  | .misplaced => "unexpected token"
  | .tooDeep => "nested too deeply"

/-- A token of a document. -/
inductive Token where
  | openArray
  | closeArray
  | openObject
  | closeObject
  | comma
  | colon
  | scalar (value : Json)

namespace Token

/-- How much of an escape has been read. -/
inductive Escape where
  /-- No escape is open. -/
  | closed
  /-- After a backslash. -/
  | opened
  /-- Hexadecimal digits of a UTF-16 unit, the leading unit of the pair it may end. -/
  | unit (missing : Nat) (value : Nat) (leading : Option Nat)
  /-- The second unit of a pair must follow. -/
  | trailing (leading : Nat)
  /-- The second unit of a pair has its backslash. -/
  | trailingMark (leading : Nat)

/-- What the character before was part of. -/
inductive Mode where
  | between
  | word (reversed : List Char)
  | number (reversed : List Char)
  | string (reversed : List Char) (escape : Escape)

/-- The tokens read, last first, and what is being read. -/
structure Progress where
  reversed : List Token
  mode : Mode

/-- Whether a character belongs to the text of a number. -/
def isNumeric (c : Char) : Bool :=
  c.isDigit || c == '-' || c == '+' || c == '.' || c == 'e' || c == 'E'

def start (reversed : List Token) (c : Char) : Except Fault Progress :=
  let single (token : Token) : Except Fault Progress := .ok ⟨token :: reversed, .between⟩
  match c with
  | ' ' | '\n' | '\t' | '\r' => .ok ⟨reversed, .between⟩
  | '[' => single .openArray
  | ']' => single .closeArray
  | ',' => single .comma
  | ':' => single .colon
  | '"' => .ok ⟨reversed, .string [] .closed⟩
  | c =>
    if c.toNat == 0x7B then single .openObject
    else if c.toNat == 0x7D then single .closeObject
    else if c.isDigit || c == '-' then .ok ⟨reversed, .number [c]⟩
    else if c.isLower then .ok ⟨reversed, .word [c]⟩
    else .error (.strayCharacter c)

/-- Ends the token that is being read. -/
def finish (progress : Progress) : Except Fault (List Token) :=
  match progress.mode with
  | .between => .ok progress.reversed
  | .word reversed =>
    match String.ofList reversed.reverse with
    | "null" => .ok (.scalar .null :: progress.reversed)
    | "true" => .ok (.scalar (.bool true) :: progress.reversed)
    | "false" => .ok (.scalar (.bool false) :: progress.reversed)
    | word => .error (.unknownWord word)
  | .number reversed =>
    match Number.ofText? reversed.reverse with
    | some value => .ok (.scalar (.number value) :: progress.reversed)
    | none => .error (.badNumber (String.ofList reversed.reverse))
  | .string _ _ => .error .unfinished

/-- Reads one character of a string. -/
def stringStep (reversed : List Token) (text : List Char) (escape : Escape) (c : Char) :
    Except Fault Progress :=
  let continued (text : List Char) (escape : Escape) : Except Fault Progress :=
    .ok ⟨reversed, .string text escape⟩
  match escape with
  | .closed =>
    if c == '"' then
      .ok ⟨.scalar (.string (String.ofList text.reverse)) :: reversed, .between⟩
    else if c == '\\' then continued text .opened
    else if c.toNat < 0x20 then .error .badString
    else continued (c :: text) .closed
  | .opened =>
    match c with
    | '"' | '\\' | '/' => continued (c :: text) .closed
    | 'b' => continued ('\x08' :: text) .closed
    | 'f' => continued ('\x0c' :: text) .closed
    | 'n' => continued ('\n' :: text) .closed
    | 'r' => continued ('\r' :: text) .closed
    | 't' => continued ('\t' :: text) .closed
    | 'u' => continued text (.unit 4 0 none)
    | _ => .error .badString
  | .unit missing value leading =>
    match Hex.digitValue? (if c.toNat < 128 then UInt8.ofNat c.toNat else 0) with
    | none => .error .badString
    | some digit =>
      let value := value * 16 + digit.toNat
      if missing > 1 then continued text (.unit (missing - 1) value leading)
      else
        let isTrailing := 0xDC00 ≤ value && value < 0xE000
        match leading with
        | some high =>
          if isTrailing then
            let code := 0x10000 + (high - 0xD800) * 0x400 + (value - 0xDC00)
            continued (Char.ofNat code :: text) .closed
          else .error .badString
        | none =>
          if isTrailing then .error .badString
          else if 0xD800 ≤ value && value < 0xDC00 then continued text (.trailing value)
          else continued (Char.ofNat value :: text) .closed
  | .trailing leading =>
    if c == '\\' then continued text (.trailingMark leading) else .error .badString
  | .trailingMark leading =>
    if c == 'u' then continued text (.unit 4 0 (some leading)) else .error .badString

/-- Reads one character. -/
def step (progress : Progress) (c : Char) : Except Fault Progress :=
  match progress.mode with
  | .between => start progress.reversed c
  | .word reversed =>
    if c.isLower then .ok { progress with mode := .word (c :: reversed) }
    -- the character that ends a run starts the next token
    else do start (← finish progress) c
  | .number reversed =>
    if isNumeric c then .ok { progress with mode := .number (c :: reversed) }
    else do start (← finish progress) c
  | .string text escape => stringStep progress.reversed text escape c

def scan (text : List Char) : Except Fault (List Token) := do
  let progress ← text.foldlM step ⟨[], .between⟩
  return (← finish progress).reverse

end Token
end ChainScenario.Json
