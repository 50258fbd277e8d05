/-!
# Ordered maps

A finite map is its list of entries in strictly increasing order of keys, so two maps with the same
bindings are equal (`ext_get?`) and a sum over the entries is a sum over the bindings. The laws
`get?_insert` and `get?_erase` say what an operation does to every binding.
-/
namespace ChainScenario

/-- Entries in strictly increasing order of keys. -/
def Ascending {α β : Type} [Ord α] (entries : List (α × β)) : Prop :=
  entries.Pairwise fun left right => compare left.1 right.1 = .lt

/-- A finite map, kept as its entries in increasing order of keys. -/
structure OrdMap (α β : Type) [Ord α] where
  /-- The bindings, by increasing key. -/
  toList : List (α × β)
  /-- No key stands twice, and every key stands in its place. -/
  ascending : Ascending toList

namespace OrdMap

variable {α β γ : Type} [Ord α]

/-- The map without bindings. -/
def empty : OrdMap α β := ⟨[], List.Pairwise.nil⟩

instance : EmptyCollection (OrdMap α β) := ⟨empty⟩
instance : Inhabited (OrdMap α β) := ⟨empty⟩

/-- The value of the first entry with a key. -/
def find? [DecidableEq α] (key : α) : List (α × β) → Option β
  | [] => none
  | (k, v) :: entries => if key = k then some v else find? key entries

/-- Entries with a binding set. -/
def put (key : α) (value : β) : List (α × β) → List (α × β)
  | [] => [(key, value)]
  | (k, v) :: entries =>
    match compare key k with
    | .lt => (key, value) :: (k, v) :: entries
    | .eq => (key, value) :: entries
    | .gt => (k, v) :: put key value entries

/-- Entries with a binding removed. -/
def drop [DecidableEq α] (key : α) (entries : List (α × β)) : List (α × β) :=
  entries.filter fun entry => decide (key ≠ entry.1)

theorem mem_put {key : α} {value : β} {entries : List (α × β)} {entry : α × β}
    (member : entry ∈ put key value entries) : entry = (key, value) ∨ entry ∈ entries := by
  induction entries with
  | nil => simpa [put] using member
  | cons head rest ih =>
    obtain ⟨k, v⟩ := head
    simp only [put] at member
    split at member
    · simpa using member
    · rcases List.mem_cons.1 member with here | there
      · exact .inl here
      · exact .inr (List.mem_cons_of_mem _ there)
    · rcases List.mem_cons.1 member with here | there
      · exact .inr (by simp [here])
      · rcases ih there with same | old
        · exact .inl same
        · exact .inr (List.mem_cons_of_mem _ old)

theorem ascending_drop [DecidableEq α] {entries : List (α × β)} (sorted : Ascending entries) (key : α) :
    Ascending (drop key entries) :=
  List.Pairwise.filter _ sorted

theorem ascending_map {entries : List (α × β)} (sorted : Ascending entries) (f : α → β → γ) :
    Ascending (entries.map fun entry => (entry.1, f entry.1 entry.2)) :=
  List.pairwise_map.2 sorted

section Order

variable [Std.TransOrd α] [Std.LawfulEqOrd α]

theorem ascending_put {entries : List (α × β)} (sorted : Ascending entries) (key : α)
    (value : β) : Ascending (put key value entries) := by
  induction entries with
  | nil => simp [put, Ascending]
  | cons head rest ih =>
    obtain ⟨k, v⟩ := head
    obtain ⟨above, tail⟩ := List.pairwise_cons.1 sorted
    simp only [put]
    split
    · rename_i below
      refine List.pairwise_cons.2 ⟨fun entry member => ?_, sorted⟩
      rcases List.mem_cons.1 member with rfl | old
      · exact below
      · exact Std.TransCmp.lt_trans below (above entry old)
    · rename_i same
      have equal : key = k := Std.LawfulEqOrd.eq_of_compare same
      subst equal
      exact List.pairwise_cons.2 ⟨above, tail⟩
    · rename_i greater
      refine List.pairwise_cons.2 ⟨fun entry member => ?_, ih tail⟩
      rcases mem_put member with rfl | old
      · exact Std.OrientedCmp.lt_of_gt greater
      · exact above entry old

omit [Std.LawfulEqOrd α] in
private theorem ne_of_lt {key other : α} (below : compare key other = .lt) : key ≠ other := by
  rintro rfl
  simp at below

omit [Std.LawfulEqOrd α] in
private theorem ne_of_gt {key other : α} (greater : compare key other = .gt) : key ≠ other :=
  fun same => ne_of_lt (Std.OrientedCmp.lt_of_gt greater) same.symm

def insert (map : OrdMap α β) (key : α) (value : β) : OrdMap α β :=
  ⟨put key value map.toList, ascending_put map.ascending key value⟩

/-- The map with the bindings of a list set one after another. -/
def insertAll (map : OrdMap α β) (entries : List (α × β)) : OrdMap α β :=
  entries.foldl (fun map entry => map.insert entry.1 entry.2) map

/-- The map of a list of bindings; a later binding of a key replaces an earlier one. -/
def ofList (entries : List (α × β)) : OrdMap α β := empty.insertAll entries

/-- The map with every value replaced by the result of an action on the binding. -/
def mapValuesM [Monad m] (map : OrdMap α β) (action : α → β → m γ) : m (OrdMap α γ) := do
  return ofList (← map.toList.mapM fun entry => return (entry.1, ← action entry.1 entry.2))

end Order

/-- The map with every value replaced by a function of the binding. -/
def mapValues (map : OrdMap α β) (f : α → β → γ) : OrdMap α γ :=
  ⟨map.toList.map fun entry => (entry.1, f entry.1 entry.2), ascending_map map.ascending f⟩

/-- The keys in increasing order. -/
def keys (map : OrdMap α β) : List α := map.toList.map Prod.fst

/-- The values by increasing key. -/
def values (map : OrdMap α β) : List β := map.toList.map Prod.snd

def size (map : OrdMap α β) : Nat := map.toList.length

/-- Whether nothing is bound. -/
def isEmpty (map : OrdMap α β) : Bool := map.toList.isEmpty

/-- A list of keys in increasing order, each once. -/
def sortedKeys [Std.TransOrd α] [Std.LawfulEqOrd α] (keys : List α) : List α :=
  (ofList (keys.map fun key => (key, ()))).keys

section Lookup

variable [DecidableEq α]

/-- The value bound to a key. -/
def get? (map : OrdMap α β) (key : α) : Option β := find? key map.toList

def contains (map : OrdMap α β) (key : α) : Bool := (map.get? key).isSome

/-- The value bound to a key, or `fallback`. -/
def getD (map : OrdMap α β) (key : α) (fallback : β) : β := (map.get? key).getD fallback

def erase (map : OrdMap α β) (key : α) : OrdMap α β :=
  ⟨drop key map.toList, ascending_drop map.ascending key⟩

@[simp] theorem get?_empty (key : α) : (empty : OrdMap α β).get? key = none := rfl

omit [Ord α] in
theorem find?_drop (key other : α) (entries : List (α × β)) :
    find? other (drop key entries) = if other = key then none else find? other entries := by
  induction entries with
  | nil => simp [drop, find?]
  | cons head rest ih =>
    obtain ⟨k, v⟩ := head
    simp only [drop, List.filter_cons] at ih ⊢
    by_cases gone : key = k
    · subst gone
      simp only [ne_eq, not_true_eq_false, decide_false, Bool.false_eq_true, ↓reduceIte, ih, find?]
      split <;> simp_all
    · simp only [ne_eq, gone, not_false_eq_true, decide_true, ↓reduceIte, find?, ih]
      by_cases here : other = k
      · subst here
        simp [Ne.symm gone]
      · simp [here]

theorem get?_erase (map : OrdMap α β) (key other : α) :
    (map.erase key).get? other = if other = key then none else map.get? other :=
  find?_drop key other map.toList

@[simp] theorem get?_erase_self (map : OrdMap α β) (key : α) :
    (map.erase key).get? key = none := by
  simp [get?_erase]

omit [Ord α] in
private theorem find?_mapped (key : α) (f : α → β → γ) (entries : List (α × β)) :
    find? key (entries.map fun entry => (entry.1, f entry.1 entry.2)) =
      (find? key entries).map (f key) := by
  induction entries with
  | nil => rfl
  | cons head rest ih =>
    simp only [List.map_cons, find?, ih]
    split
    · rename_i same
      simp [same]
    · rfl

theorem get?_mapValues (map : OrdMap α β) (f : α → β → γ) (key : α) :
    (map.mapValues f).get? key = (map.get? key).map (f key) :=
  find?_mapped key f map.toList

variable [Std.TransOrd α] [Std.LawfulEqOrd α]

theorem find?_put (key other : α) (value : β) (entries : List (α × β)) :
    find? other (put key value entries) =
      if other = key then some value else find? other entries := by
  induction entries with
  | nil => rfl
  | cons head rest ih =>
    obtain ⟨k, v⟩ := head
    simp only [put]
    split
    · rfl
    · rename_i same
      have equal : key = k := Std.LawfulEqOrd.eq_of_compare same
      subst equal
      simp only [find?]
      split <;> rfl
    · rename_i greater
      simp only [find?, ih]
      by_cases here : other = k
      · subst here
        simp [Ne.symm (ne_of_gt greater)]
      · simp [here]

theorem get?_insert (map : OrdMap α β) (key other : α) (value : β) :
    (map.insert key value).get? other = if other = key then some value else map.get? other :=
  find?_put key other value map.toList

@[simp] theorem get?_insert_self (map : OrdMap α β) (key : α) (value : β) :
    (map.insert key value).get? key = some value := by
  simp [get?_insert]

omit [Std.LawfulEqOrd α] in
theorem find?_eq_none {key : α} {entries : List (α × β)}
    (above : ∀ entry ∈ entries, compare key entry.1 = .lt) : find? key entries = none := by
  induction entries with
  | nil => rfl
  | cons head rest ih =>
    have apart := ne_of_lt (above head (by simp))
    simp only [find?, if_neg apart]
    exact ih fun entry member => above entry (List.mem_cons_of_mem _ member)

private theorem eq_of_find? {left right : List (α × β)} (sortedLeft : Ascending left)
    (sortedRight : Ascending right) (same : ∀ key, find? key left = find? key right) :
    left = right := by
  induction left generalizing right with
  | nil =>
    cases right with
    | nil => rfl
    | cons head rest => simpa [find?] using same head.1
  | cons head rest ih =>
    obtain ⟨k, v⟩ := head
    obtain ⟨above, tail⟩ := List.pairwise_cons.1 sortedLeft
    cases right with
    | nil => simpa [find?] using same k
    | cons head' rest' =>
      obtain ⟨k', v'⟩ := head'
      obtain ⟨above', tail'⟩ := List.pairwise_cons.1 sortedRight
      have keys : k = k' := by
        cases order : compare k k' with
        | eq => exact Std.LawfulEqOrd.eq_of_compare order
        | lt =>
          have absent : find? k ((k', v') :: rest') = none := find?_eq_none fun entry member => by
            rcases List.mem_cons.1 member with rfl | old
            · exact order
            · exact Std.TransCmp.lt_trans order (above' entry old)
          have bound := same k
          rw [absent] at bound
          simp [find?] at bound
        | gt =>
          have below := Std.OrientedCmp.lt_of_gt order
          have absent : find? k' ((k, v) :: rest) = none := find?_eq_none fun entry member => by
            rcases List.mem_cons.1 member with rfl | old
            · exact below
            · exact Std.TransCmp.lt_trans below (above entry old)
          have bound := same k'
          rw [absent] at bound
          simp [find?] at bound
      subst keys
      have value := same k
      simp only [find?, ↓reduceIte, Option.some.injEq] at value
      subst value
      congr 1
      apply ih tail tail'
      intro key
      have both := same key
      simp only [find?] at both
      by_cases here : key = k
      · subst here
        rw [find?_eq_none above, find?_eq_none above']
      · simpa [here] using both

/-- A map is determined by its bindings. -/
theorem ext_get? {left right : OrdMap α β} (same : ∀ key, left.get? key = right.get? key) :
    left = right := by
  obtain ⟨entries, sorted⟩ := left
  obtain ⟨entries', sorted'⟩ := right
  have equal : entries = entries' := eq_of_find? sorted sorted' same
  subst equal
  rfl

end Lookup

end OrdMap
end ChainScenario
