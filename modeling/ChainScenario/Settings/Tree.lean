import ChainScenario.Settings.Key

/-!
# Merged settings

Settings from several sources laid over each other. Tables are merged entry by entry; of any other
two values the later one stands. A value keeps the name of the source it comes from; what is put
together from several sources has no source of its own.
-/
namespace ChainScenario.Settings

/-- Merged settings. -/
inductive Tree where
  /-- Nothing: an item that stands before the items that sources give. -/
  | gap
  | leaf (value : Scalar) (origin : Option String)
  | list (items : List Tree) (origin : Option String)
  | branch (entries : List (String × Tree)) (origin : Option String)
  deriving Inhabited

namespace Tree

/-- Settings without entries. -/
def empty : Tree := .branch [] none

def entries : Tree → List (String × Tree)
  | .branch entries _ => entries
  | _ => []

def items : Tree → List Tree
  | .list items _ => items
  | _ => []

/-- The source that a value comes from. -/
def origin? : Tree → Option String
  | .gap => none
  | .leaf _ origin | .list _ origin | .branch _ origin => origin

mutual

def ofValue (origin : Option String) : Value → Tree
  | .scalar value => .leaf value origin
  | .list items => .list (ofItems origin items) origin
  | .table entries => .branch (ofEntries origin entries) origin

def ofItems (origin : Option String) : List Value → List Tree
  | [] => []
  | item :: items => ofValue origin item :: ofItems origin items

/-- The entries of a table of a source. -/
def ofEntries (origin : Option String) : List (String × Value) → List (String × Tree)
  | [] => []
  | (name, value) :: entries => (name, ofValue origin value) :: ofEntries origin entries

end

def under (base : Tree) (name : String) : Tree :=
  (entryNamed? name base.entries).getD .gap

/-- The settings with one entry replaced; what is no table becomes one. -/
def setEntry (base : Tree) (name : String) (tree : Tree) : Tree :=
  match base with
  | .branch entries origin => .branch (Settings.setEntry name tree entries) origin
  | _ => .branch [(name, tree)] none

theorem under_setEntry (base : Tree) (name other : String) (tree : Tree) :
    (base.setEntry name tree).under other = if other = name then tree else base.under other := by
  cases base with
  | branch entries origin =>
    simp only [setEntry, under, Tree.entries, entryNamed?_setEntry]
    split <;> rfl
  | _ =>
    simp only [setEntry, under, Tree.entries, entryNamed?, eq_comm]
    split <;> rfl

/-- Lists do not grow up to this many items. -/
def itemLimit : Nat := 0x1000000

/-- The place that an index denotes in a list of the given length, or behind it. -/
def place? (length : Nat) (index : Int) : Option Nat :=
  if index < 0 then
    if index.natAbs ≤ length then some (length - index.natAbs) else none
  else if index < itemLimit then some index.toNat
  else none

/-- The settings with one item replaced; what is no list becomes one, and a list grows up to the
item. -/
def setItem (base : Tree) (place : Nat) (tree : Tree) : Tree :=
  let items := base.items ++ List.replicate (place + 1 - base.items.length) .gap
  match base with
  | .list _ origin => .list (items.set place tree) origin
  | _ => .list (items.set place tree) none

mutual

/-- Lays something over something else. -/
def lay (base : Tree) : Tree → Tree
  | .branch entries _ =>
    match base with
    | .gap => layAll empty entries
    | base => layAll base entries
  | tree => tree

/-- Lays entries over settings. -/
def layAll (base : Tree) : List (String × Tree) → Tree
  | [] => base
  | (name, tree) :: entries => layAll (base.setEntry name (lay (base.under name) tree)) entries

end

/-- Lays something over what some steps lead to; `none` if there is no such item. An item is
replaced as a whole. -/
def layAt (base tree : Tree) : List Step → Option Tree
  | [] => some tree
  | [.entry name] => some (base.setEntry name ((base.under name).lay tree))
  | .entry name :: steps => do
    return base.setEntry name (← (base.under name).layAt tree steps)
  | .item index :: steps => do
    let place ← place? base.items.length index
    return base.setItem place (← ((base.items[place]?).getD .gap).layAt tree steps)

/-- Lays a source over settings; `none` if one of its keys leads to no item. -/
def laySource (base : Tree) (source : List (String × Tree)) : Option Tree :=
  source.foldlM (fun base (text, tree) =>
    let key := Key.ofText text
    base.layAt tree (.entry key.name :: key.steps)) base

end Tree
end ChainScenario.Settings
