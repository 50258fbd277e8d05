import ChainScenario.Proofs.Accounts

/-!
# Sums over the ledger

The sum of a measure over all values of an ordered map, and over all accounts of a ledger. Main
statements: `total_insert` and `sum_setAccount`, what one write does to a sum.
-/
namespace ChainScenario

namespace OrdMap

variable {α β γ : Type} [Ord α]

/-- The sum of a measure over all values. -/
def total (map : OrdMap α β) (measure : β → Nat) : Nat :=
  map.values.foldr (fun value sum => measure value + sum) 0

theorem total_mapValues (map : OrdMap α β) (f : α → β → γ) (measure : γ → Nat) (before : β → Nat)
    (same : ∀ key value, measure (f key value) = before value) :
    (map.mapValues f).total measure = map.total before := by
  simp only [total, values, mapValues]
  induction map.toList with
  | nil => rfl
  | cons entry rest ih =>
    simp only [List.map_cons, List.foldr_cons, same]
    rw [ih]

theorem total_le {map : OrdMap α β} {measure : β → Nat} {bound : Nat}
    (small : ∀ value ∈ map.values, measure value ≤ bound) :
    map.total measure ≤ map.size * bound := by
  have counted : map.size = map.values.length := (List.length_map _).symm
  rw [counted, total]
  -- The order of the keys does not matter here, so the induction is on the bare list of values.
  generalize map.values = listed at small ⊢
  induction listed with
  | nil => simp
  | cons value rest ih =>
    have first := small value List.mem_cons_self
    have others := ih fun other member => small other (List.mem_cons_of_mem _ member)
    rw [List.foldr_cons, List.length_cons, Nat.succ_mul]
    omega

section Lookup

variable [DecidableEq α]

omit [Ord α] in
theorem mem_of_find? {key : α} {value : β} {entries : List (α × β)}
    (found : find? key entries = some value) : (key, value) ∈ entries := by
  induction entries with
  | nil => simp [find?] at found
  | cons head rest ih =>
    obtain ⟨k, v⟩ := head
    simp only [find?] at found
    split at found
    · rename_i same
      simp_all
    · exact List.mem_cons_of_mem _ (ih found)

theorem mem_values_of_get? {map : OrdMap α β} {key : α} {value : β}
    (found : map.get? key = some value) : value ∈ map.values :=
  List.mem_map.2 ⟨(key, value), mem_of_find? found, rfl⟩

theorem le_total {map : OrdMap α β} {key : α} {value : β} (measure : β → Nat)
    (found : map.get? key = some value) : measure value ≤ map.total measure := by
  have member := mem_values_of_get? found
  rw [total]
  generalize map.values = listed at member ⊢
  induction listed with
  | nil => cases member
  | cons first rest ih =>
    rw [List.foldr_cons]
    rcases List.mem_cons.1 member with rfl | behind
    · omega
    · have others := ih behind
      omega

variable [Std.TransOrd α] [Std.LawfulEqOrd α]

private theorem sum_put (measure : β → Nat) (key : α) (value : β) {entries : List (α × β)}
    (sorted : Ascending entries) :
    ((put key value entries).map Prod.snd).foldr (fun value sum => measure value + sum) 0 +
        ((find? key entries).map measure).getD 0 =
      (entries.map Prod.snd).foldr (fun value sum => measure value + sum) 0 + measure value := by
  induction entries with
  | nil => simp [put, find?]
  | cons head rest ih =>
    obtain ⟨k, v⟩ := head
    obtain ⟨above, tail⟩ := List.pairwise_cons.1 sorted
    simp only [put]
    split
    · rename_i below
      -- the key comes before all others, so that nothing is replaced
      have absent : find? key ((k, v) :: rest) = none := find?_eq_none fun entry member => by
        rcases List.mem_cons.1 member with rfl | old
        · exact below
        · exact Std.TransCmp.lt_trans below (above entry old)
      rw [absent]
      simp only [List.map_cons, List.foldr_cons, Option.map_none, Option.getD_none]
      omega
    · rename_i same
      obtain rfl : key = k := Std.LawfulEqOrd.eq_of_compare same
      simp only [find?, ↓reduceIte, List.map_cons, List.foldr_cons, Option.map_some,
        Option.getD_some]
      omega
    · rename_i greater
      have apart : key ≠ k := by
        rintro rfl
        simp at greater
      -- the key belongs further back, so the head counts on both sides
      have rest := ih tail
      simp only [find?, if_neg apart, List.map_cons, List.foldr_cons]
      omega

/-- A write adds the new value to a sum and takes the replaced one away. -/
theorem total_insert (map : OrdMap α β) (key : α) (value : β) (measure : β → Nat) :
    (map.insert key value).total measure + ((map.get? key).map measure).getD 0 =
      map.total measure + measure value :=
  sum_put measure key value map.ascending

end Lookup
end OrdMap

namespace World

/-! ## Sums over all accounts -/

/-- The sum of a measure over all accounts. -/
def sum (world : World) (measure : Account → Nat) : Nat := world.accounts.total measure

/-- A write adds the new account to a sum and takes the old one away; an account that was not there
counts as blank. -/
theorem sum_setAccount (world : World) (address : Bytes) (account : Account)
    {measure : Account → Nat} (blank : measure (.blank address) = 0) :
    (world.setAccount address account).sum measure + measure (world.accountOrBlank address) =
      world.sum measure + measure account := by
  have write := world.accounts.total_insert address account measure
  have old : ((world.accounts.get? address).map measure).getD 0 =
      measure (world.accountOrBlank address) := by
    change _ = measure ((world.accounts.get? address).getD _)
    cases world.accounts.get? address with
    | none => simpa using blank.symm
    | some found => rfl
  rw [old] at write
  exact write

/-- A write that leaves the measure of its account alone leaves the sum alone. -/
theorem sum_setAccount_same (world : World) (address : Bytes) (account : Account)
    {measure : Account → Nat} (blank : measure (.blank address) = 0)
    (same : measure account = measure (world.accountOrBlank address)) :
    (world.setAccount address account).sum measure = world.sum measure := by
  have write := world.sum_setAccount address account blank
  omega

theorem le_sum {world : World} {address : Bytes} {account : Account} (measure : Account → Nat)
    (found : world.account? address = some account) : measure account ≤ world.sum measure :=
  OrdMap.le_total measure found

end World
end ChainScenario
