import ChainScenario.Settings.Toml.Token

/-!
# Reading TOML tokens

Readers take tokens from the front of a list. What is no token is a fault as soon as it is looked
at, and not before.
-/
namespace ChainScenario.Settings.Toml

/-- Reads a value from the front of a list of tokens. -/
abbrev Reader := StateT (List Lexeme) (Except Fault)

/-- The next token, which stays. -/
def peek : Reader Lexeme := fun lexemes =>
  match lexemes with
  | ⟨_, .bad fault⟩ :: _ => .error fault
  | lexeme :: _ => .ok (lexeme, lexemes)
  | [] => .ok (⟨0, .ending⟩, [])

/-- The next token. The end is never passed. -/
def next : Reader Lexeme := do
  let lexeme ← peek
  if lexeme.token ≠ .ending then modify List.tail
  return lexeme

/-- Passes over a token if it comes next. -/
def eat (token : Token) : Reader Bool := do
  if (← peek).token = token then
    modify List.tail
    return true
  else return false

/-- Passes over a token, which must come next. -/
def expect (token : Token) : Reader Unit := do
  let ⟨offset, found⟩ ← next
  if found ≠ token then throw ⟨.unexpected token.describe found.describe, offset, []⟩

/-- Passes over blanks. -/
def eatBlanks : Reader Unit := do
  if let ⟨_, .blank _⟩ ← peek then modify List.tail

def endLine : Reader Unit := do
  let ⟨offset, found⟩ ← next
  if found ≠ .newline ∧ found ≠ .ending then
    throw ⟨.unexpected "newline" found.describe, offset, []⟩

/-- Passes over a comment and the end of its line, if a comment comes next. -/
def eatComment : Reader Bool := do
  if ← eat .comment then
    endLine
    return true
  else return false

/-- Passes over at most `count` blanks, comments and ends of lines. -/
def eatSpaceWithin : Nat → Reader Unit
  | 0 => return
  | count + 1 => do
    eatBlanks
    if (← eat .newline) || (← eatComment) then eatSpaceWithin count

/-- Passes over blanks, comments and ends of lines. -/
def eatSpace : Reader Unit := do
  eatSpaceWithin ((← get).length + 1)

end ChainScenario.Settings.Toml
