import ChainScenario.OrdMap
import Mathlib.Data.List.Pairwise

/-!
# Maps of listed items

A list of named items becomes a map by their names; of several items with one name the last is bound.
Main statements: `get?_named`, what such a map binds, and `mem_sortedKeys`.
-/
namespace ChainScenario

/-! ## Items that count -/

section Decisive

variable {ι α : Type} [DecidableEq α] {name : ι → α}

/-- The items of a list behind which none has the same name. -/
def decisive (name : ι → α) (items : List ι) : List ι :=
  items.pwFilter fun earlier later => name earlier ≠ name later

theorem mem_decisive_cons {item first : ι} {rest : List ι} :
    item ∈ decisive name (first :: rest) ↔
      item ∈ decisive name rest ∨ item = first ∧ ∀ later ∈ rest, name first ≠ name later := by
  -- An item behind that was dropped has the name of one that was kept.
  have kept : (∀ later ∈ decisive name rest, name first ≠ name later) ↔
      ∀ later ∈ rest, name first ≠ name later := by
    refine List.forall_mem_pwFilter (fun {x y z} apart => ?_) first rest
    by_cases same : name x = name y
    · exact .inr (same ▸ apart)
    · exact .inl same
  by_cases apart : ∀ later ∈ decisive name rest, name first ≠ name later
  · have stays : decisive name (first :: rest) = first :: decisive name rest :=
      List.pwFilter_cons_of_pos apart
    rw [stays, List.mem_cons, or_comm, and_iff_left (kept.1 apart)]
  · have goes : decisive name (first :: rest) = decisive name rest :=
      List.pwFilter_cons_of_neg apart
    rw [goes, ← kept, or_iff_left fun both => apart both.2]

/-- An item counts if the list can be parted there so that no later item has its name. -/
theorem mem_decisive_iff {item : ι} {items : List ι} :
    item ∈ decisive name items ↔
      ∃ front back, items = front ++ item :: back ∧ ∀ later ∈ back, name item ≠ name later := by
  induction items with
  | nil => simp [decisive]
  | cons first rest ih =>
    rw [mem_decisive_cons, ih]
    constructor
    · rintro (⟨front, back, rfl, apart⟩ | ⟨rfl, apart⟩)
      · exact ⟨first :: front, back, rfl, apart⟩
      · exact ⟨[], rest, rfl, apart⟩
    · rintro ⟨front, back, parted, apart⟩
      cases front with
      | nil =>
        cases parted
        exact .inr ⟨rfl, apart⟩
      | cons head front =>
        cases parted
        exact .inl ⟨front, back, rfl, apart⟩

theorem mem_of_mem_decisive {item : ι} {items : List ι} (counts : item ∈ decisive name items) :
    item ∈ items :=
  (List.pwFilter_sublist items).subset counts

/-- Items with different names all count. -/
theorem decisive_of_nodup {items : List ι} (distinct : (items.map name).Nodup) :
    decisive name items = items :=
  List.pwFilter_eq_self.2 (List.pairwise_map.1 distinct)

/-- An item that counts among some counts among all if all that have its name are among them. -/
theorem mem_decisive_of_filter {p : ι → Bool} {item : ι} {items : List ι}
    (namesakes : ∀ other ∈ items, name item = name other → p other = true)
    (counts : item ∈ decisive name (items.filter p)) : item ∈ decisive name items := by
  induction items with
  | nil => exact counts
  | cons first rest ih =>
    have inner := ih fun other member => namesakes other (List.mem_cons_of_mem _ member)
    rw [mem_decisive_cons]
    by_cases kept : p first = true
    · rw [List.filter_cons_of_pos kept, mem_decisive_cons] at counts
      rcases counts with behind | ⟨rfl, apart⟩
      · exact .inl (inner behind)
      · refine .inr ⟨rfl, fun later member same => ?_⟩
        have among := namesakes later (List.mem_cons_of_mem _ member) same
        exact apart later (List.mem_filter.2 ⟨member, among⟩) same
    · rw [List.filter_cons_of_neg kept] at counts
      exact .inl (inner counts)

/-- The same items count under names that are told apart in the same way. -/
theorem decisive_comp {β : Type} [DecidableEq β] {f : α → β} (injective : Function.Injective f)
    (items : List ι) : decisive (fun item => f (name item)) items = decisive name items := by
  simp only [decisive, injective.ne_iff]

theorem decisive_map {κ : Type} (f : κ → ι) (items : List κ) :
    decisive name (items.map f) = (decisive (fun item => name (f item)) items).map f :=
  List.pwFilter_map f items

end Decisive

namespace OrdMap

variable {ι α β : Type} [Ord α] [Std.TransOrd α] [Std.LawfulEqOrd α] [DecidableEq α]

/-! ## Maps of lists -/

/-- A binding that is set later hides those from before. -/
theorem get?_insertAll (map : OrdMap α β) (entries : List (α × β)) (key : α) :
    (map.insertAll entries).get? key = ((ofList entries).get? key).or (map.get? key) := by
  -- By induction on the entries, for every map they are set in.
  induction entries generalizing map with
  | nil => rfl
  | cons entry rest ih =>
    have first : map.insertAll (entry :: rest) = (map.insert entry.1 entry.2).insertAll rest := rfl
    have alone : ofList (entry :: rest) = (empty.insert entry.1 entry.2).insertAll rest := rfl
    rw [first, alone, ih, ih (empty.insert entry.1 entry.2), Option.or_assoc, get?_insert, get?_insert]
    split
    · rfl
    · rw [get?_empty, Option.none_or]

theorem get?_ofList_cons (entry : α × β) (rest : List (α × β)) (key : α) :
    (ofList (entry :: rest)).get? key =
      ((ofList rest).get? key).or (if key = entry.1 then some entry.2 else none) := by
  have alone : ofList (entry :: rest) = (empty.insert entry.1 entry.2).insertAll rest := rfl
  rw [alone, get?_insertAll, get?_insert, get?_empty]

/-- Nothing is bound to what no item is named. -/
theorem get?_named_eq_none {name : ι → α} {content : ι → β} {items : List ι} {key : α} :
    (ofList (items.map fun item => (name item, content item))).get? key = none ↔
      ∀ item ∈ items, name item ≠ key := by
  induction items with
  | nil => simp [ofList, insertAll]
  | cons first rest ih =>
    rw [List.map_cons, get?_ofList_cons, Option.or_eq_none_iff, ih, List.forall_mem_cons, and_comm]
    simp [eq_comm]

/-- A map of named items binds those that count. -/
theorem get?_named {name : ι → α} {content : ι → β} {items : List ι} {key : α} {value : β} :
    (ofList (items.map fun item => (name item, content item))).get? key = some value ↔
      ∃ item ∈ decisive name items, name item = key ∧ content item = value := by
  induction items with
  | nil => simp [ofList, insertAll, decisive]
  | cons first rest ih =>
    rw [List.map_cons, get?_ofList_cons, Option.or_eq_some_iff, ih, get?_named_eq_none]
    simp only [mem_decisive_cons]
    -- The first item is bound exactly if no later one has its name.
    constructor
    · rintro (⟨item, counts, named⟩ | ⟨apart, bound⟩)
      · exact ⟨item, .inl counts, named⟩
      · obtain ⟨rfl, same⟩ := Option.ite_none_right_eq_some.1 bound
        exact ⟨first, .inr ⟨rfl, fun later behind => (apart later behind).symm⟩, rfl,
          Option.some.inj same⟩
    · rintro ⟨item, counts | ⟨rfl, apart⟩, rfl, rfl⟩
      · exact .inl ⟨item, counts, rfl, rfl⟩
      · exact .inr ⟨fun later behind => (apart later behind).symm, if_pos rfl⟩

omit [Std.TransOrd α] [Std.LawfulEqOrd α] in
theorem mem_keys {map : OrdMap α β} {key : α} : key ∈ map.keys ↔ (map.get? key).isSome := by
  simp only [keys, get?]
  induction map.toList with
  | nil => simp [find?]
  | cons entry rest ih =>
    simp only [List.map_cons, List.mem_cons, find?, ih]
    by_cases here : key = entry.1
    · simp [here]
    · simp [here]

/-- A key occurs in increasing order exactly if it occurs. -/
theorem mem_sortedKeys {keys : List α} {key : α} : key ∈ sortedKeys keys ↔ key ∈ keys := by
  have unbound : (ofList (keys.map fun key => (key, ()))).get? key = none ↔
      ∀ other ∈ keys, other ≠ key := get?_named_eq_none
  rw [sortedKeys, mem_keys, Option.isSome_iff_ne_none, ne_eq, unbound]
  simp

/-- What is demanded of all keys that are listed or there is demanded of the items that count, and of
all keys that are not listed; a key that is neither listed nor there must meet the demand anyway. -/
theorem forall_listed_iff (name : ι → α) (content : ι → β) {items : List ι} {present : List α}
    (demand : α → Option β → Prop) (absent : ∀ key, key ∉ present → demand key none) :
    (∀ key ∈ sortedKeys
        ((ofList (items.map fun item => (name item, content item))).keys ++ present),
      demand key ((ofList (items.map fun item => (name item, content item))).get? key)) ↔
      (∀ item ∈ decisive name items, demand (name item) (some (content item))) ∧
        ∀ key, (∀ item ∈ decisive name items, name item ≠ key) → demand key none := by
  have binds : ∀ key value, (ofList (items.map fun item => (name item, content item))).get? key =
      some value ↔ ∃ item ∈ decisive name items, name item = key ∧ content item = value :=
    fun _ _ => get?_named
  -- From here on only what the map binds is used.
  generalize ofList (items.map fun item => (name item, content item)) = listed at binds ⊢
  simp only [mem_sortedKeys, List.mem_append, mem_keys]
  constructor
  · intro each
    constructor
    · intro item counts
      have bound := (binds (name item) (content item)).2 ⟨item, counts, rfl, rfl⟩
      have met := each (name item) (.inl (by rw [bound]; rfl))
      rwa [bound] at met
    · intro key unlisted
      have free : listed.get? key = none := by
        refine Option.eq_none_iff_forall_ne_some.2 fun value bound => ?_
        obtain ⟨item, counts, same, -⟩ := (binds key value).1 bound
        exact unlisted item counts same
      by_cases there : key ∈ present
      · have met := each key (.inr there)
        rwa [free] at met
      · exact absent key there
  · rintro ⟨given, unlisted⟩ key -
    cases bound : listed.get? key with
    | none =>
      refine unlisted key fun item counts same => ?_
      rw [(binds key (content item)).2 ⟨item, counts, same, rfl⟩] at bound
      cases bound
    | some value =>
      obtain ⟨item, counts, rfl, rfl⟩ := (binds key value).1 bound
      exact given item counts

end OrdMap
end ChainScenario
