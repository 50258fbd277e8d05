import ChainScenario.Proofs.Gathering
import ChainScenario.Proofs.SetState

/-!
# What the records of an account list

If the storage of an account can be read at all, nothing in it is passed over. Main statement:
`World.listed_of_tokens`, the records that are read list every token of which something is stored, and
each instance of it that has a slot.
-/
namespace ChainScenario

/-! ## Maps of results -/

namespace OrdMap

theorem find?_forall₂ {α β γ : Type} [DecidableEq α] {related : α → β → γ → Prop}
    {entries : List (α × β)} {others : List (α × γ)}
    (alike : List.Forall₂ (fun entry other => other.1 = entry.1 ∧ related entry.1 entry.2 other.2)
      entries others) (key : α) :
    ((find? key others).isSome ↔ (find? key entries).isSome) ∧
      ∀ result, find? key others = some result →
        ∃ value, find? key entries = some value ∧ related key value result := by
  induction alike with
  | nil => exact ⟨.rfl, nofun⟩
  | @cons entry other entries others first rest ih =>
    obtain ⟨same, relates⟩ := first
    by_cases here : key = entry.1
    · subst here
      rw [find?, find?, if_pos rfl, if_pos same.symm]
      refine ⟨.rfl, fun result found => ⟨entry.2, rfl, ?_⟩⟩
      exact Option.some.inj found ▸ relates
    · rw [find?, find?, if_neg here, if_neg (same ▸ here)]
      exact ih

variable {α β γ ε : Type} [Ord α] [Std.TransOrd α] [Std.LawfulEqOrd α] [DecidableEq α]

/-- A map of results has the keys of the map, and under each the result of the action there. -/
theorem get?_mapValuesM {map : OrdMap α β} {action : α → β → Except ε γ} {results : OrdMap α γ}
    (ran : map.mapValuesM action = .ok results) (key : α) :
    ((results.get? key).isSome ↔ (map.get? key).isSome) ∧
      ∀ result, results.get? key = some result →
        ∃ value, map.get? key = some value ∧ action key value = .ok result := by
  obtain ⟨entries, mapped, ended⟩ := except_bind.1 ran
  have alike : List.Forall₂
      (fun entry other => other.1 = entry.1 ∧ action entry.1 entry.2 = .ok other.2)
      map.toList entries := by
    refine (mapM_ok_iff.1 mapped).imp fun entry other done => ?_
    obtain ⟨result, acted, ended⟩ := except_bind.1 done
    cases ended
    exact ⟨rfl, acted⟩
  -- the keys stay as they are, so the entries ascend and no later one hides another
  have keys : entries.map Prod.fst = map.toList.map Prod.fst := by
    rw [← List.forall₂_eq_eq_eq, List.forall₂_map_left_iff, List.forall₂_map_right_iff]
    exact (alike.imp fun _ _ both => both.1).flip
  have sorted : Ascending entries := by
    have before : (map.toList.map Prod.fst).Pairwise fun left right => compare left right = .lt :=
      List.pairwise_map.2 map.ascending
    rw [← keys] at before
    exact List.pairwise_map.1 before
  have whole : results = ⟨entries, sorted⟩ := by
    rw [← ofList_toList ⟨entries, sorted⟩]
    exact (Except.ok.inj ended).symm
  rw [whole]
  exact @find?_forall₂ _ _ _ _ (fun key value result => action key value = .ok result) _ _ alike key

end OrdMap

/-! ## Entries that were read -/

namespace Token

theorem include_ok {records after : Records} {entry : Bytes × Bytes}
    (included : records.include entry = .ok after) :
    after = records.tell (newsOf entry) ∧ Told entry := by
  unfold Records.include at included
  unfold Told newsOf placeOf
  dsimp only at included
  -- first the value, then the marks of a key in the order in which they are looked for
  split at included
  · rename_i empty
    cases included
    rw [if_pos empty]
    exact ⟨rfl, fun filled => absurd (List.isEmpty_iff.1 empty) filled⟩
  · rename_i filled
    rw [if_neg filled]
    cases held : behind? holdingMark entry.1 with
    | some rest =>
      simp only [held] at included
      obtain ⟨holding, read, ended⟩ := except_bind.1 included
      cases ended
      simp only [read]
      exact ⟨rfl, fun _ => rfl⟩
    | none =>
      simp only [held] at included
      cases named : behind? rolesMark entry.1 with
      | some token =>
        simp only [named] at included
        obtain ⟨roles, read, ended⟩ := except_bind.1 included
        cases ended
        simp only [read]
        exact ⟨rfl, fun _ => rfl⟩
      | none =>
        simp only [named] at included
        cases numbered : behind? nonceMark entry.1 <;>
        · simp only [numbered] at included
          cases included
          exact ⟨rfl, fun _ => rfl⟩

/-- What a slot with a value tells, once it is told, is the holding that its value encodes. -/
theorem Told.holding {key value token : Bytes} {nonce : UInt64} (told : Told (key, value))
    (filled : value ≠ []) (slot : placeOf key = .holding token nonce) :
    ∃ held, newsOf (key, value) = .holding token nonce held := by
  have about := told filled
  simp only [newsOf, if_neg (mt List.isEmpty_iff.1 filled), slot] at about ⊢
  split
  · exact ⟨_, rfl⟩
  · rename_i unread
    rw [unread] at about
    cases about

/-- A holding is told of by a slot whose value encodes it. -/
theorem slot_of_newsOf {key value token : Bytes} {nonce : UInt64} {held : Holding}
    (news : newsOf (key, value) = .holding token nonce held) :
    value ≠ [] ∧ placeOf key = .holding token nonce ∧ readAll Holding.reader value = .ok held := by
  unfold newsOf at news
  split at news
  · cases news
  · rename_i filled
    refine ⟨fun empty => filled (List.isEmpty_iff.2 empty), ?_⟩
    split at news
    · cases news
    · rename_i slot
      split at news
      · rename_i read
        cases news
        exact ⟨slot, read⟩
      · cases news
    · split at news <;> cases news
    · cases news

theorem isSome_update (records : Records) (token other : Bytes) (change : Record → Record) :
    ((records.update token change).get? other).isSome ↔
      some token = some other ∨ (records.get? other).isSome := by
  rw [Records.update, OrdMap.get?_insert, Option.some.injEq]
  split
  · rename_i here
    exact iff_of_true rfl (.inl here.symm)
  · rename_i apart
    rw [or_iff_right (Ne.symm apart)]

theorem isSome_tell (records : Records) (one : News) (token : Bytes) :
    ((records.tell one).get? token).isSome ↔
      one.token? = some token ∨ (records.get? token).isSome := by
  cases one with
  | nothing => exact ⟨.inr, fun either => either.resolve_left nofun⟩
  | _ => exact isSome_update ..

theorem isSome_gathered (news : List News) (token : Bytes) :
    ((gathered news).get? token).isSome ↔ ∃ one ∈ news, one.token? = some token := by
  -- by induction on the news, for every start, since each leaves the records of all others
  have folds : ∀ start : Records, ((news.foldl Records.tell start).get? token).isSome ↔
      (∃ one ∈ news, one.token? = some token) ∨ (start.get? token).isSome := by
    induction news with
    | nil => simp
    | cons first rest ih =>
      intro start
      rw [List.foldl_cons, ih, isSome_tell, List.exists_mem_cons_iff, or_assoc, or_left_comm]
  rw [gathered, folds]
  simp

end Token

/-! ## Accounts -/

open Token

namespace Account

/-- Something of a token is stored. -/
def Holds (account : Account) (token : Bytes) : Prop :=
  ∃ key, account.stored key ≠ [] ∧ (placeOf key).token? = some token

/-- Something is stored in a slot of an instance of a token. -/
def HasInstance (account : Account) (token : Bytes) (nonce : UInt64) : Prop :=
  ∃ key, account.stored key ≠ [] ∧ placeOf key = .holding token nonce

/-- A holding is stored in a slot of an instance of a token. -/
def KeepsHolding (account : Account) (token : Bytes) (nonce : UInt64) (held : Holding) : Prop :=
  ∃ key, placeOf key = .holding token nonce ∧
    readAll Holding.reader (account.stored key) = .ok held

variable {account : Account} {records : Records}

theorem told_of_tokens (read : account.tokens = .ok records) :
    records = gathered account.news ∧ ∀ key, Told (key, account.stored key) := by
  constructor
  · unfold gathered news
    rw [List.foldl_map]
    exact foldlM_eq_foldl (fun _ _ _ included => (include_ok included).1) read
  · intro key filled
    have entry := OrdMap.mem_of_get? (get?_of_stored_ne_nil filled)
    obtain ⟨before, after, included⟩ := ok_of_mem_foldlM read entry
    exact (include_ok included).2 filled

/-- The records of an account list the tokens of which it stores something. -/
theorem isSome_tokens (read : account.tokens = .ok records) (token : Bytes) :
    (records.get? token).isSome ↔ account.Holds token := by
  obtain ⟨rfl, told⟩ := told_of_tokens read
  rw [isSome_gathered]
  constructor
  · rintro ⟨one, member, about⟩
    obtain ⟨key, same⟩ := (mem_news_of_something (by rintro rfl; cases about)).1 member
    have filled : account.stored key ≠ [] := by
      intro empty
      rw [empty, newsOf_nil] at same
      rw [← same] at about
      cases about
    exact ⟨key, filled, by rw [← told key filled, same, about]⟩
  · rintro ⟨key, filled, about⟩
    refine ⟨newsOf (key, account.stored key), ?_, by rw [told key filled, about]⟩
    exact mem_news.2 ⟨key, _, get?_of_stored_ne_nil filled, rfl⟩

/-- A record lists the instances with a slot, each with a holding that is stored in one. -/
theorem instances_tokens (read : account.tokens = .ok records) {token : Bytes} {record : Record}
    (found : records.get? token = some record) (nonce : UInt64) :
    ((record.instances.get? nonce).isSome ↔ account.HasInstance token nonce) ∧
      ∀ held, record.instances.get? nonce = some held → account.KeepsHolding token nonce held := by
  obtain ⟨rfl, told⟩ := told_of_tokens read
  have same : record = (gathered account.news).getD token .blank := by
    rw [OrdMap.getD, found]
    rfl
  rw [same]
  -- either some slot told of the instance, and what the last one told is listed, or none has a value
  rcases instance_gathered token nonce account.news with ⟨held, member, last⟩ | ⟨silent, nothing⟩
  · obtain ⟨key, news⟩ := (mem_news_of_something (by rintro ⟨⟩)).1 member
    obtain ⟨filled, slot, decoded⟩ := slot_of_newsOf news
    rw [last]
    refine ⟨⟨fun _ => ⟨key, filled, slot⟩, fun _ => rfl⟩, ?_⟩
    rintro _ ⟨⟩
    exact ⟨key, slot, decoded⟩
  · rw [nothing]
    constructor
    · refine iff_of_false Bool.false_ne_true ?_
      rintro ⟨key, filled, slot⟩
      obtain ⟨held, news⟩ := (told key).holding filled slot
      exact silent held ((mem_news_of_something (by rintro ⟨⟩)).2 ⟨key, news⟩)
    · intro held holds
      cases holds

end Account

/-! ## Ledgers -/

/-- Records list what an account stores of tokens: each token of which there is something, and each
instance with a slot, with an amount that is stored in one. -/
structure Account.Listed (account : Account) (records : Records) : Prop where
  tokens : ∀ token, (records.get? token).isSome ↔ account.Holds token
  instances : ∀ token record, records.get? token = some record → ∀ nonce,
    (record.instances.get? nonce).isSome ↔ account.HasInstance token nonce
  amounts : ∀ token record, records.get? token = some record → ∀ nonce held,
    record.instances.get? nonce = some held →
      ∃ own, account.KeepsHolding token nonce own ∧ held.value = own.value

namespace World

theorem value_withSharedMetadata {system : Option Account} {token : Bytes} {nonce : UInt64}
    {holding described : Holding}
    (shared : withSharedMetadata system token nonce holding = .ok described) :
    described.value = holding.value := by
  unfold withSharedMetadata at shared
  split at shared
  · split at shared
    · cases shared
      rfl
    · obtain ⟨given, -, ended⟩ := except_bind.1 shared
      cases ended
      rfl
  · cases shared
    rfl

/-- Borrowed metadata changes neither what is listed nor an amount. -/
theorem listed_of_tokens {world : World} {address : Bytes} {account : Account} {records : Records}
    (found : world.account? address = some account) (read : world.tokens address = .ok records) :
    account.Listed records := by
  unfold tokens at read
  simp only [found] at read
  obtain ⟨own, reads, described⟩ := except_bind.1 read
  -- a record that is read is one of the account's own, with metadata added to its instances
  have origin : ∀ token record, records.get? token = some record → ∃ before,
      own.get? token = some before ∧ before.instances.mapValuesM
        (withSharedMetadata (world.account? Address.systemAccount) token) =
          .ok record.instances := by
    intro token record listed
    obtain ⟨before, there, made⟩ := (OrdMap.get?_mapValuesM described token).2 record listed
    obtain ⟨instances, shared, ended⟩ := except_bind.1 made
    cases ended
    exact ⟨before, there, shared⟩
  constructor
  · intro token
    rw [← Account.isSome_tokens reads]
    exact (OrdMap.get?_mapValuesM described token).1
  · intro token record listed nonce
    obtain ⟨before, there, shared⟩ := origin token record listed
    rw [← (Account.instances_tokens reads there nonce).1]
    exact (OrdMap.get?_mapValuesM shared nonce).1
  · intro token record listed nonce held holds
    obtain ⟨before, there, shared⟩ := origin token record listed
    obtain ⟨kept, keeps, made⟩ := (OrdMap.get?_mapValuesM shared nonce).2 held holds
    exact ⟨kept, (Account.instances_tokens reads there nonce).2 kept keeps,
      value_withSharedMetadata made⟩

end World
end ChainScenario
