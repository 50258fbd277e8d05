import ChainScenario.Settings.Toml.Form

/-!
# Sections of TOML documents

A document is a list of sections: a header and the keys behind it.
-/
namespace ChainScenario.Settings.Toml

/-- A section of a document. The keys before the first header form a section without a path. -/
structure Section where
  offset : Nat
  path : List String
  /-- Whether the header adds a table to a list. -/
  many : Bool
  entries : Entries
  /-- Whether the entries belong to no table yet. -/
  free : Bool := true

/-- A header behind its first bracket. -/
def header : Reader (Bool × List String) := do
  let many ← eat .leftBracket
  eatBlanks
  let (name, names) ← key
  eatBlanks
  expect .rightBracket
  if many then expect .rightBracket
  eatBlanks
  if !(← eatComment) then endLine
  return (many, name :: names)

/-- A key with its value, up to the end of the line. -/
def field (entries : Entries) : Reader Entries := do
  let (name, names) ← key
  eatBlanks
  expect .equals
  eatBlanks
  let (offset, form) ← value
  eatBlanks
  if !(← eatComment) then endLine
  addEntry name names offset form entries

/-- At most `count` lines, which belong to the given section or start others. -/
def sectionsWithin : Nat → Section → Reader (List Section)
  | 0, current => return [current]
  | count + 1, current => do
    eatSpace
    match ← peek with
    | ⟨_, .ending⟩ => return [current]
    | ⟨offset, .leftBracket⟩ =>
      let _ ← next
      let (many, path) ← header
      return current :: (← sectionsWithin count { offset, path, many, entries := [] })
    | _ =>
      let entries ← field current.entries
      sectionsWithin count { current with entries := entries }

/-- The sections of a document; one without a path has at least one entry. -/
def sections : Reader (List Section) := do
  let all ← sectionsWithin (← get).length { offset := 0, path := [], many := false, entries := [] }
  return all.filter fun part => !part.path.isEmpty || !part.entries.isEmpty

end ChainScenario.Settings.Toml
