import ChainScenario.Settings.Toml.Section

/-!
# TOML documents

The sections of a document are put together to one table. A table is put together from the sections
whose paths lead to it or through it, in their order, before the table around it goes on; that order
decides which of several faults is found. A table may be headed once, and a list of tables grows by
one with every header.
-/
namespace ChainScenario.Settings.Toml

/-- Works on the sections of a document while their entries are put into tables. -/
abbrev Assembly := StateT (Array Section) (Except Fault)

/-- Marks the entries of a section as belonging to a table. -/
def occupy (index : Nat) : Assembly Unit :=
  modify fun sections => sections.modify index fun part => { part with free := false }

/-- Works on what stands under a name, which faults mention. -/
def underName (name : String) (action : Assembly α) : Assembly α := fun sections =>
  (action sections).mapError fun fault => { fault with key := name :: fault.key }

/-- The offset of faults that belong to no section in particular: that of the last one. -/
def lastOffset : Assembly Nat :=
  return ((← get).back?.map Section.offset).getD 0

def refuseTaken (name : String) (taken : List (String × Value)) : Assembly Unit := do
  if (taken.map Prod.fst).contains name then throw ⟨.repeatedKey name, ← lastOffset, []⟩

/-- Where in a document a table is put together. -/
structure Place where
  /-- How many names lead to the table. -/
  depth : Nat
  /-- The section whose path leads there. -/
  owner : Nat
  /-- The first section that is looked at. -/
  first : Nat
  /-- The section before which the table ends. -/
  limit : Nat

def Place.ownerPath (place : Place) (sections : Array Section) : List String :=
  (sections[place.owner]?.map Section.path).getD []

/-- The next section that has to do with a table: the first free one whose path leads to the table or
through it. -/
def Place.next? (place : Place) (sections : Array Section) : Option (Section × Nat) :=
  let path := (place.ownerPath sections).take place.depth
  ((sections.toList.take place.limit).zipIdx.drop place.first).find? fun (part, _) =>
    part.free && path.isPrefixOf part.path

/-- The owner of a table once a section was found to belong to it. A shorter path takes the place of
a longer one, so that the table is not headed again after that. -/
def Place.ownerAfter (place : Place) (part : Section) (index : Nat) : Assembly Nat := do
  let path := place.ownerPath (← get)
  if index = place.owner then return index
  else if part.path = path then throw ⟨.repeatedTable path, part.offset, []⟩
  else if part.path.length < path.length then return index
  else return place.owner

/-- The next section that adds a table to the list to which a section adds one. -/
def nextOfList (part : Section) (index limit : Nat) (sections : Array Section) : Nat :=
  let found := ((sections.toList.take limit).zipIdx.drop (index + 1)).find? fun (other, _) =>
    other.many && other.path == part.path
  (found.map Prod.snd).getD limit

mutual

/-- A table put together within so many steps, from entries that are still to be added and from
those that it has. -/
def tableWithin : Nat → Place → Entries → List (String × Value) → Assembly Value
  | 0, _, _, taken => return .table taken
  | steps + 1, place, (name, offset, form) :: entries, taken => do
    if taken.isEmpty && name == dateName then
      underName name (liftM (form.toDate offset))
    else
      refuseTaken name taken
      let value ← underName name (liftM (form.resolve offset))
      tableWithin steps place entries (taken ++ [(name, value)])
  | steps + 1, place, [], taken => do
    match place.next? (← get) with
    | none => return .table taken
    | some (part, index) =>
      let owner ← place.ownerAfter part index
      match part.path[place.depth]? with
      | some name =>
        let many := part.many && place.depth + 1 == part.path.length
        let offset ← lastOffset
        if taken.isEmpty && name == dateName then
          throw ⟨.noDateText (if many then "sequence" else "map"), offset, [name]⟩
        refuseTaken name taken
        let value ← underName name <|
          if many then do return .list (← listWithin steps place.depth index place.limit)
          else tableWithin steps ⟨place.depth + 1, index, 0, place.limit⟩ [] []
        tableWithin steps { place with owner, first := index + 1 } [] (taken ++ [(name, value)])
      | none =>
        if part.many then throw ⟨.tableAsList, part.offset, []⟩
        occupy index
        tableWithin steps { place with owner, first := index } part.entries taken

/-- The tables of a list put together within so many steps; the section at `index` adds the first
one. -/
def listWithin : Nat → Nat → Nat → Nat → Assembly (List Value)
  | 0, _, _, _ => return []
  | steps + 1, depth, index, limit => do
    match ((← get).toList.take limit)[index]? with
    | none => return []
    | some part =>
      let following := nextOfList part index limit (← get)
      occupy index
      let item ← tableWithin steps ⟨depth + 1, index, 0, following⟩ part.entries []
      return item :: (← listWithin steps depth following limit)

end

/-- Enough steps for the sections of a document: on every level of nesting, each name of a path and
each entry is come across once, and each section twice. -/
def enoughSteps (sections : List Section) : Nat :=
  let size := sections.foldl
    (fun size part => size + 2 * part.path.length + part.entries.length + 2) 2
  size * size

/-- The table that sections make up. -/
def assemble (sections : List Section) : Except Fault Value := do
  let whole : Place := ⟨0, 0, 0, sections.length⟩
  return (← (tableWithin (enoughSteps sections) whole [] []).run sections.toArray).1

/-- The table of a document. A document that is a date gives none. -/
def read (document : List Char) : Except String (List (String × Value)) :=
  let table := do
    let (parts, _) ← sections.run (tokens document)
    match ← assemble parts with
    | .table entries => return entries
    | _ => return []
  table.mapError (Fault.message document)

end ChainScenario.Settings.Toml
