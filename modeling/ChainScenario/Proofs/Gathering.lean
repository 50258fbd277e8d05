import ChainScenario.Proofs.Entries
import ChainScenario.Proofs.Listed
import ChainScenario.Proofs.Total

/-!
# Gathering the tokens of an account

Each entry of storage tells one thing of one token, or nothing (`newsOf`), and of what is told of a
token the last word counts. Main statements: `tokens_eq`, the records of an account with intact entries, and
`World.tokens_ok`, such accounts can be read as a whole.
-/
namespace ChainScenario

/-! ## Maps of results -/

namespace OrdMap

variable {α β γ ε : Type} [Ord α] [Std.TransOrd α]

theorem get?_of_mem [DecidableEq α] {map : OrdMap α β} {key : α} {value : β}
    (member : (key, value) ∈ map.toList) : map.get? key = some value := by
  obtain ⟨entries, sorted⟩ := map
  induction entries with
  | nil => cases member
  | cons head rest ih =>
    obtain ⟨above, tail⟩ := List.pairwise_cons.1 sorted
    change find? key (head :: rest) = some value
    rcases List.mem_cons.1 member with rfl | behind
    · exact if_pos rfl
    · -- the keys ascend, so the head has a lower one
      have apart : key ≠ head.1 := by
        rintro rfl
        have order := above _ behind
        simp at order
      rw [find?, if_neg apart]
      exact ih tail behind

omit [Std.TransOrd α] in
theorem mem_of_get? [DecidableEq α] {map : OrdMap α β} {key : α} {value : β}
    (found : map.get? key = some value) : (key, value) ∈ map.toList :=
  mem_of_find? found

variable [Std.LawfulEqOrd α]

theorem ofList_toList [DecidableEq α] (map : OrdMap α β) : ofList map.toList = map := by
  have single : (map.toList.map Prod.fst).Nodup := by
    refine List.pairwise_map.2 (map.ascending.imp ?_)
    intro left right below same
    rw [same] at below
    simp at below
  refine ext_get? fun key => Option.ext fun value => ?_
  have binds : (ofList (map.toList.map fun entry => (entry.1, entry.2))).get? key = some value ↔
      ∃ entry ∈ decisive Prod.fst map.toList, entry.1 = key ∧ entry.2 = value := get?_named
  rw [decisive_of_nodup single, List.map_id'] at binds
  rw [binds]
  constructor
  · rintro ⟨⟨_, _⟩, member, rfl, rfl⟩
    exact get?_of_mem member
  · intro found
    exact ⟨(key, value), mem_of_get? found, rfl, rfl⟩

theorem mapValuesM_ok {map : OrdMap α β} {action : α → β → Except ε γ}
    (each : ∀ key value, ∃ result, action key value = .ok result) :
    ∃ results, map.mapValuesM action = .ok results := by
  have mapped : ∀ entries : List (α × β), ∃ results,
      entries.mapM (fun entry => return (entry.1, ← action entry.1 entry.2)) =
        (.ok results : Except ε (List (α × γ))) := by
    intro entries
    induction entries with
    | nil => exact ⟨[], rfl⟩
    | cons entry rest ih =>
      obtain ⟨result, first⟩ := each entry.1 entry.2
      obtain ⟨results, others⟩ := ih
      rw [List.mapM_cons, first, others]
      exact ⟨(entry.1, result) :: results, rfl⟩
  obtain ⟨results, same⟩ := mapped map.toList
  exact ⟨.ofList results, by rw [mapValuesM, same]; rfl⟩

/-- An action that gives every value back gives the map back. -/
theorem mapValuesM_self [DecidableEq α] {map : OrdMap α β} {action : α → β → Except ε β}
    (each : ∀ key value, map.get? key = some value → action key value = .ok value) :
    map.mapValuesM action = .ok map := by
  have mapped : ∀ entries : List (α × β), (∀ entry ∈ entries, action entry.1 entry.2 = .ok entry.2) →
      entries.mapM (fun entry => return (entry.1, ← action entry.1 entry.2)) =
        (.ok entries : Except ε (List (α × β))) := by
    intro entries
    induction entries with
    | nil => exact fun _ => rfl
    | cons entry rest ih =>
      intro gives
      rw [List.mapM_cons, gives entry List.mem_cons_self,
        ih fun other member => gives other (List.mem_cons_of_mem _ member)]
      rfl
  have same := mapped map.toList fun entry member => each entry.1 entry.2 (get?_of_mem member)
  rw [mapValuesM, same]
  exact congrArg Except.ok map.ofList_toList

end OrdMap

/-! ## What entries tell -/

namespace Token

/-- What a storage key is kept for. -/
inductive Place where
  | other
  | holding (token : Bytes) (nonce : UInt64)
  | roles (token : Bytes)
  | lastNonce (token : Bytes)

def Place.token? : Place → Option Bytes
  | .other => none
  | .holding token _ => some token
  | .roles token => some token
  | .lastNonce token => some token

def placeOf (key : Bytes) : Place :=
  match behind? holdingMark key with
  | some rest => .holding (splitKey rest).1 (splitKey rest).2
  | none =>
    match behind? rolesMark key with
    | some token => .roles token
    | none =>
      match behind? nonceMark key with
      | some token => .lastNonce token
      | none => .other

/-- What an entry of storage tells of a token. -/
inductive News where
  | nothing
  | holding (token : Bytes) (nonce : UInt64) (held : Holding)
  | roles (token : Bytes) (roles : List Bytes)
  | lastNonce (token : Bytes) (nonce : UInt64)

/-- The news of an entry; a value that cannot be read tells nothing. -/
def newsOf (entry : Bytes × Bytes) : News :=
  if entry.2.isEmpty then .nothing
  else
    match placeOf entry.1 with
    | .other => .nothing
    | .holding token nonce =>
      match readAll Holding.reader entry.2 with
      | .ok held => .holding token nonce held
      | .error _ => .nothing
    | .roles token =>
      match readAll rolesReader entry.2 with
      | .ok roles => .roles token roles
      | .error _ => .nothing
    | .lastNonce token => .lastNonce token (nonceOfBytes entry.2)

/-- The token that news are about. -/
def News.token? : News → Option Bytes
  | .nothing => none
  | .holding token _ _ => some token
  | .roles token _ => some token
  | .lastNonce token _ => some token

/-- An entry tells something of the token that its key is kept for, if it has a value. -/
def Told (entry : Bytes × Bytes) : Prop :=
  entry.2 ≠ [] → (newsOf entry).token? = (placeOf entry.1).token?

/-- The records with news taken over. -/
def Records.tell (records : Records) : News → Records
  | .nothing => records
  | .holding token nonce held => records.update token fun record =>
      { record with
        instances := record.instances.insert nonce held
        frozen := record.frozen || held.isFrozen }
  | .roles token roles => records.update token fun record => { record with roles := roles }
  | .lastNonce token nonce => records.update token fun record => { record with lastNonce := nonce }

theorem behind?_eq_some {start bytes rest : Bytes} :
    behind? start bytes = some rest ↔ bytes = start ++ rest := by
  unfold behind?
  split
  · rename_i begins
    obtain ⟨rest', rfl⟩ := List.isPrefixOf_iff_prefix.1 begins
    rw [List.drop_left, Option.some.injEq, List.append_cancel_left_eq]
  · rename_i apart
    constructor
    · intro none
      cases none
    · rintro rfl
      exact absurd (List.isPrefixOf_iff_prefix.2 (List.prefix_append start rest)) apart

theorem behind?_eq_none {start bytes : Bytes} (apart : ¬start <+: bytes) :
    behind? start bytes = none := by
  unfold behind?
  rw [if_neg fun begins => apart (List.isPrefixOf_iff_prefix.1 begins)]

/-! ### Places -/

section Places

variable {token key : Bytes}

theorem placeOf_holdingKey (usual : IsIdentifier token) (nonce : UInt64) :
    placeOf (holdingKey token nonce) = .holding token nonce := by
  have behind : behind? holdingMark (holdingKey token nonce) = some (token ++ nonceBytes nonce) :=
    behind?_eq_some.2 (by rw [holdingKey, List.append_assoc])
  simp only [placeOf, behind, splitKey_append usual, nonceOfBytes_nonceBytes]

theorem placeOf_rolesKey (token : Bytes) : placeOf (rolesKey token) = .roles token := by
  have marked : rolesMark <+: rolesKey token := List.prefix_append _ _
  have other : behind? holdingMark (rolesKey token) = none :=
    behind?_eq_none (not_marked marked (by decide) (by decide))
  have behind : behind? rolesMark (rolesKey token) = some token := behind?_eq_some.2 rfl
  simp only [placeOf, other, behind]

theorem placeOf_lastNonceKey (token : Bytes) : placeOf (lastNonceKey token) = .lastNonce token := by
  have marked : nonceMark <+: lastNonceKey token := List.prefix_append _ _
  have other : behind? holdingMark (lastNonceKey token) = none :=
    behind?_eq_none (not_marked marked (by decide) (by decide))
  have another : behind? rolesMark (lastNonceKey token) = none :=
    behind?_eq_none (not_marked marked (by decide) (by decide))
  have behind : behind? nonceMark (lastNonceKey token) = some token := behind?_eq_some.2 rfl
  simp only [placeOf, other, another, behind]

theorem placeOf_unprotected (free : Address.isProtected key = false) : placeOf key = .other := by
  have silent : ∀ mark, Address.protectedKey <+: mark → behind? mark key = none :=
    fun _ inside => behind?_eq_none (unmarked_of_unprotected free inside)
  simp only [placeOf, silent holdingMark (by decide), silent rolesMark (by decide),
    silent nonceMark (by decide)]

end Places

/-! ### News -/

section News

variable {token key value : Bytes}

/-- An entry that tells something, if it must, is taken over with its news. -/
theorem include_of_told {entry : Bytes × Bytes} (told : Told entry) (records : Records) :
    records.include entry = .ok (records.tell (newsOf entry)) := by
  by_cases empty : entry.2.isEmpty
  · simp only [Records.include, newsOf, if_pos empty]
    rfl
  have about := told (mt List.isEmpty_iff.2 empty)
  simp only [newsOf, placeOf, Records.include, if_neg empty] at about ⊢
  cases held : behind? holdingMark entry.1 with
  | some rest =>
    simp only [held] at about ⊢
    cases read : readAll Holding.reader entry.2 with
    | ok holding => rfl
    | error fault =>
      rw [read] at about
      cases about
  | none =>
    simp only [held] at about ⊢
    cases named : behind? rolesMark entry.1 with
    | some token =>
      simp only [named] at about ⊢
      cases read : readAll rolesReader entry.2 with
      | ok roles => rfl
      | error fault =>
        rw [read] at about
        cases about
    | none => cases behind? nonceMark entry.1 <;> rfl

theorem told_of_intact {entry : Bytes × Bytes} (intact : Intact entry.1 entry.2) : Told entry := by
  intro filled
  simp only [newsOf, placeOf, if_neg (mt List.isEmpty_iff.1 filled)]
  cases held : behind? holdingMark entry.1 with
  | some rest =>
    obtain ⟨holding, read, -⟩ := intact.holding ⟨rest, (behind?_eq_some.1 held).symm⟩
    simp only [read]
    rfl
  | none =>
    cases named : behind? rolesMark entry.1 with
    | some token =>
      obtain ⟨roles, read, -⟩ := intact.roles ⟨token, (behind?_eq_some.1 named).symm⟩
      simp only [read]
      rfl
    | none => cases behind? nonceMark entry.1 <;> rfl

theorem newsOf_nil (key : Bytes) : newsOf (key, []) = .nothing := rfl

theorem newsOf_holding (usual : IsIdentifier token) (nonce : UInt64) {held : Holding}
    (filled : value ≠ []) (read : readAll Holding.reader value = .ok held) :
    newsOf (holdingKey token nonce, value) = .holding token nonce held := by
  simp only [newsOf, placeOf_holdingKey usual, read]
  exact if_neg fun empty => filled (List.isEmpty_iff.1 empty)

theorem newsOf_roles {roles : List Bytes} (filled : value ≠ [])
    (read : readAll rolesReader value = .ok roles) :
    newsOf (rolesKey token, value) = .roles token roles := by
  simp only [newsOf, placeOf_rolesKey, read]
  exact if_neg fun empty => filled (List.isEmpty_iff.1 empty)

theorem newsOf_lastNonce (filled : value ≠ []) :
    newsOf (lastNonceKey token, value) = .lastNonce token (nonceOfBytes value) := by
  simp only [newsOf, placeOf_lastNonceKey]
  exact if_neg fun empty => filled (List.isEmpty_iff.1 empty)

theorem newsOf_write (usual : IsIdentifier token) (nonce : UInt64) {held : Holding}
    (short : held.write.length < UInt64.size) :
    newsOf (holdingKey token nonce, held.write) = .holding token nonce held :=
  newsOf_holding usual nonce held.write_ne_nil (readAll_write (Holding.fits_of_short short))

theorem newsOf_writeRoles {roles : List Bytes} (short : (writeRoles roles).length < UInt64.size) :
    newsOf (rolesKey token, writeRoles roles) = .roles token roles := by
  obtain ⟨few, each⟩ := fits_of_short_list short
  exact newsOf_roles (writeRoles_ne_nil roles) (readAll_of_reads (reads_roles few each))

/-- A last nonce of zero is stored as nothing. -/
theorem newsOf_nonceBytes (token : Bytes) (nonce : UInt64) :
    newsOf (lastNonceKey token, nonceBytes nonce) =
      if nonce = 0 then .nothing else .lastNonce token nonce := by
  split
  · rename_i zero
    rw [nonceBytes_eq_nil.2 zero, newsOf_nil]
  · rename_i positive
    rw [newsOf_lastNonce (mt nonceBytes_eq_nil.1 positive), nonceOfBytes_nonceBytes]

theorem newsOf_unprotected (free : Address.isProtected key = false) :
    newsOf (key, value) = .nothing := by
  simp only [newsOf, placeOf_unprotected free]
  split <;> rfl

end News

/-! ## The last word counts -/

section Fold

variable {token : Bytes} {nonce : UInt64} {news : List News}

theorem Records.getD_update (records : Records) (token other : Bytes) (change : Record → Record) :
    (records.update token change).getD other .blank =
      if other = token then change (records.getD token .blank) else records.getD other .blank := by
  simp only [Records.update, OrdMap.getD, OrdMap.get?_insert]
  split <;> rfl

def News.holding? (token : Bytes) (nonce : UInt64) : News → Option Holding
  | .holding other number held => if token = other ∧ nonce = number then some held else none
  | _ => none

def News.roles? (token : Bytes) : News → Option (List Bytes)
  | .roles other given => if token = other then some given else none
  | _ => none

def News.lastNonce? (token : Bytes) : News → Option UInt64
  | .lastNonce other nonce => if token = other then some nonce else none
  | _ => none

theorem News.holding?_eq_some {one : News} {held : Holding} :
    one.holding? token nonce = some held ↔ one = .holding token nonce held := by
  cases one <;> simp [holding?, and_assoc, eq_comm]

theorem News.roles?_eq_some {one : News} {roles : List Bytes} :
    one.roles? token = some roles ↔ one = .roles token roles := by
  cases one <;> simp [roles?, eq_comm]

theorem News.lastNonce?_eq_some {one : News} {nonce : UInt64} :
    one.lastNonce? token = some nonce ↔ one = .lastNonce token nonce := by
  cases one <;> simp [lastNonce?, eq_comm]

theorem instance_tell (records : Records) (one : News) :
    ((records.tell one).getD token .blank).instances.get? nonce =
      (one.holding? token nonce).or ((records.getD token .blank).instances.get? nonce) := by
  cases one with
  | holding other number held =>
    simp only [Records.tell, Records.getD_update, News.holding?]
    by_cases here : token = other
    · subst here
      simp only [if_pos, OrdMap.get?_insert, true_and]
      split <;> rfl
    · simp [here]
  | _ =>
    simp only [Records.tell, Records.getD_update, News.holding?, Option.none_or]
    try split <;> simp_all

theorem roles_tell (records : Records) (one : News) :
    ((records.tell one).getD token .blank).roles =
      (one.roles? token).getD (records.getD token .blank).roles := by
  cases one <;> simp only [Records.tell, Records.getD_update, News.roles?, Option.getD_none] <;>
    split <;> simp_all

theorem lastNonce_tell (records : Records) (one : News) :
    ((records.tell one).getD token .blank).lastNonce =
      (one.lastNonce? token).getD (records.getD token .blank).lastNonce := by
  cases one <;> simp only [Records.tell, Records.getD_update, News.lastNonce?, Option.getD_none] <;>
    split <;> simp_all

/-- What is seen of the records is what was told of it last, or what was seen before. -/
theorem last_word {α β : Type} (view : Records → β) (told? : News → Option α) (shown : α → β)
    (step : ∀ records one, view (records.tell one) = ((told? one).map shown).getD (view records))
    (news : List News) (start : Records) :
    (∃ one ∈ news, ∃ value, told? one = some value ∧
        shown value = view (news.foldl Records.tell start)) ∨
      (∀ one ∈ news, told? one = none) ∧ view (news.foldl Records.tell start) = view start := by
  -- by induction on the news: what the rest does not tell is as the first one left it
  induction news generalizing start with
  | nil => exact .inr ⟨by simp, rfl⟩
  | cons first rest ih =>
    rw [List.foldl_cons]
    rcases ih (start.tell first) with ⟨one, member, last⟩ | ⟨silent, same⟩
    · exact .inl ⟨one, List.mem_cons_of_mem _ member, last⟩
    · rw [step] at same
      cases spoken : told? first with
      | some value =>
        rw [spoken] at same
        exact .inl ⟨first, List.mem_cons_self, value, spoken, same.symm⟩
      | none =>
        rw [spoken] at same
        exact .inr ⟨List.forall_mem_cons.2 ⟨spoken, silent⟩, same⟩

/-- The records that news come to. -/
def gathered (news : List News) : Records := news.foldl Records.tell .empty

theorem instance_gathered (token : Bytes) (nonce : UInt64) (news : List News) :
    (∃ held, .holding token nonce held ∈ news ∧
      ((gathered news).getD token .blank).instances.get? nonce = some held) ∨
      (∀ held, .holding token nonce held ∉ news) ∧
        ((gathered news).getD token .blank).instances.get? nonce = none := by
  have step : ∀ (records : Records) (one : News),
      ((records.tell one).getD token .blank).instances.get? nonce =
        ((one.holding? token nonce).map some).getD
          ((records.getD token .blank).instances.get? nonce) := by
    intro records one
    rw [instance_tell]
    cases one.holding? token nonce <;> rfl
  rcases last_word (fun records => (records.getD token .blank).instances.get? nonce) _ _ step news
    .empty with ⟨one, member, held, told, same⟩ | ⟨silent, same⟩
  · obtain rfl := News.holding?_eq_some.1 told
    exact .inl ⟨held, member, same.symm⟩
  · refine .inr ⟨fun held member => ?_, same⟩
    have quiet := silent _ member
    rw [News.holding?_eq_some.2 rfl] at quiet
    cases quiet

theorem roles_gathered (token : Bytes) (news : List News) :
    .roles token ((gathered news).getD token .blank).roles ∈ news ∨
      (∀ roles, .roles token roles ∉ news) ∧ ((gathered news).getD token .blank).roles = [] := by
  rcases last_word (fun records => (records.getD token .blank).roles) (News.roles? token) id
    (fun records one => by rw [roles_tell, Option.map_id, id]) news
    .empty with ⟨one, member, roles, told, same⟩ | ⟨silent, same⟩
  · obtain rfl := News.roles?_eq_some.1 told
    exact .inl (same ▸ member)
  · refine .inr ⟨fun roles member => ?_, same⟩
    have quiet := silent _ member
    rw [News.roles?_eq_some.2 rfl] at quiet
    cases quiet

theorem lastNonce_gathered (token : Bytes) (news : List News) :
    .lastNonce token ((gathered news).getD token .blank).lastNonce ∈ news ∨
      (∀ nonce, .lastNonce token nonce ∉ news) ∧
        ((gathered news).getD token .blank).lastNonce = 0 := by
  rcases last_word (fun records => (records.getD token .blank).lastNonce) (News.lastNonce? token) id
    (fun records one => by rw [lastNonce_tell, Option.map_id, id]) news
    .empty with ⟨one, member, nonce, told, same⟩ | ⟨silent, same⟩
  · obtain rfl := News.lastNonce?_eq_some.1 told
    exact .inl (same ▸ member)
  · refine .inr ⟨fun nonce member => ?_, same⟩
    have quiet := silent _ member
    rw [News.lastNonce?_eq_some.2 rfl] at quiet
    cases quiet

/-- A token is frozen if any of its instances is. -/
theorem frozen_gathered (token : Bytes) (news : List News) :
    ((gathered news).getD token .blank).frozen = true ↔
      ∃ nonce held, .holding token nonce held ∈ news ∧ held.isFrozen = true := by
  -- the flag is never taken back, so this is a disjunction along the news
  have folds : ∀ start : Records, ((news.foldl Records.tell start).getD token .blank).frozen = true ↔
      (start.getD token .blank).frozen = true ∨
        ∃ nonce held, .holding token nonce held ∈ news ∧ held.isFrozen = true := by
    induction news with
    | nil => simp
    | cons first rest ih =>
      intro start
      rw [List.foldl_cons, ih]
      cases first with
      | holding other number held =>
        simp only [Records.tell, Records.getD_update, List.mem_cons, News.holding.injEq]
        by_cases here : token = other
        · subst here
          simp only [if_pos, Bool.or_eq_true, true_and]
          constructor
          · rintro ((before | now) | ⟨nonce, other, member, frozen⟩)
            · exact .inl before
            · exact .inr ⟨number, held, .inl ⟨rfl, rfl⟩, now⟩
            · exact .inr ⟨nonce, other, .inr member, frozen⟩
          · rintro (before | ⟨nonce, other, ⟨rfl, rfl⟩ | member, frozen⟩)
            · exact .inl (.inl before)
            · exact .inl (.inr frozen)
            · exact .inr ⟨nonce, other, member, frozen⟩
        · simp [here]
      | _ =>
        simp only [Records.tell, Records.getD_update, List.mem_cons, reduceCtorEq, false_or]
        try (split <;> simp_all)
  rw [gathered, folds]
  simp [OrdMap.getD, Record.blank]

end Fold
end Token

/-! ## Accounts -/

open Token

def Account.news (account : Account) : List News := account.storage.toList.map newsOf

theorem Account.mem_news {account : Account} {one : News} :
    one ∈ account.news ↔ ∃ key value, account.storage.get? key = some value ∧
      newsOf (key, value) = one := by
  simp only [Account.news, List.mem_map, Prod.exists]
  constructor
  · rintro ⟨key, value, member, same⟩
    exact ⟨key, value, OrdMap.get?_of_mem member, same⟩
  · rintro ⟨key, value, found, same⟩
    exact ⟨key, value, OrdMap.mem_of_get? found, same⟩

/-- Something is told exactly if it is told of what is stored under some key. -/
theorem Account.mem_news_of_something {account : Account} {one : News} (something : one ≠ .nothing) :
    one ∈ account.news ↔ ∃ key, newsOf (key, account.stored key) = one := by
  rw [mem_news]
  constructor
  · rintro ⟨key, value, found, told⟩
    exact ⟨key, by rw [stored_of_get? found, told]⟩
  · rintro ⟨key, told⟩
    refine ⟨key, account.stored key, get?_of_stored_ne_nil ?_, told⟩
    intro empty
    rw [empty, newsOf_nil] at told
    exact something told.symm

/-- The tokens of an account are what its storage tells, if none of it must be passed over. -/
theorem Account.tokens_of_told {account : Account} (told : ∀ key, Told (key, account.stored key)) :
    account.tokens = .ok (gathered account.news) := by
  have folds : ∀ (entries : List (Bytes × Bytes)) (start : Records), (∀ entry ∈ entries, Told entry) →
      entries.foldlM Records.include start =
        .ok ((entries.map newsOf).foldl Records.tell start) := by
    intro entries
    induction entries with
    | nil => exact fun start _ => rfl
    | cons entry rest ih =>
      intro start each
      rw [List.foldlM_cons, include_of_told (each entry List.mem_cons_self)]
      exact ih _ fun other member => each other (List.mem_cons_of_mem _ member)
  refine folds _ _ fun entry member => ?_
  have here := told entry.1
  rwa [stored_of_get? (OrdMap.get?_of_mem member)] at here

theorem Account.tokens_eq {account : Account} (intact : account.Every Intact) :
    account.tokens = .ok (gathered account.news) := by
  refine tokens_of_told fun key filled => ?_
  have entry := intact _ _ (get?_of_stored_ne_nil filled)
  exact @told_of_intact (key, account.stored key) entry filled

namespace World

theorem withSharedMetadata_ok {system : Option Account}
    (intact : ∀ account, system = some account → account.Every Intact) (token : Bytes)
    (nonce : UInt64) (holding : Holding) :
    ∃ described, withSharedMetadata system token nonce holding = .ok described := by
  unfold withSharedMetadata
  split
  · split
    · exact ⟨_, rfl⟩
    · obtain ⟨shared, reads⟩ := (intact _ rfl).holding? token nonce
      rw [reads]
      exact ⟨_, rfl⟩
  · exact ⟨_, rfl⟩

/-- Nothing is borrowed for an instance with metadata, and nothing for the fungible one. -/
theorem withSharedMetadata_self {system : Option Account} {token : Bytes} {nonce : UInt64}
    {holding : Holding} (own : nonce = 0 ∨ holding.metadata.isSome) :
    withSharedMetadata system token nonce holding = .ok holding := by
  unfold withSharedMetadata
  split
  · rename_i bare
    rcases own with fungible | described
    · exact if_pos fungible
    · rw [bare] at described
      cases described
  · rfl

theorem tokens_ok {world : World} (intact : world.Every Intact) (address : Bytes) :
    ∃ records, world.tokens address = .ok records := by
  unfold tokens
  cases found : world.account? address with
  | none => exact ⟨_, rfl⟩
  | some account =>
    have shares := withSharedMetadata_ok (intact Address.systemAccount)
    -- two maps within each other: the records of an account and the instances of a record
    obtain ⟨described, done⟩ : ∃ described, (gathered account.news).mapValuesM
        (fun token record => do
          let instances ← record.instances.mapValuesM
            (withSharedMetadata (world.account? Address.systemAccount) token)
          return { record with instances := instances }) = .ok described := by
      apply OrdMap.mapValuesM_ok
      intro token record
      obtain ⟨instances, shared⟩ : ∃ instances, record.instances.mapValuesM
          (withSharedMetadata (world.account? Address.systemAccount) token) = .ok instances :=
        OrdMap.mapValuesM_ok (shares token)
      exact ⟨_, by rw [shared]; rfl⟩
    exact ⟨described, by simp only [Account.tokens_eq (intact address account found)]; exact done⟩

/-- An account whose instances all have metadata, but for fungible ones, borrows nothing. -/
theorem tokens_eq {world : World} {address : Bytes} {account : Account}
    (found : world.account? address = some account) (intact : account.Every Intact)
    (own : ∀ token nonce held, .holding token nonce held ∈ account.news →
      nonce = 0 ∨ held.metadata.isSome) :
    world.tokens address = .ok (gathered account.news) := by
  unfold tokens
  simp only [found, Account.tokens_eq intact]
  suffices same : (gathered account.news).mapValuesM (fun token record => do
      let instances ← record.instances.mapValuesM
        (withSharedMetadata (world.account? Address.systemAccount) token)
      return { record with instances := instances }) = .ok (gathered account.news) from same
  apply OrdMap.mapValuesM_self
  intro token record there
  have same : record = (gathered account.news).getD token .blank := by
    rw [OrdMap.getD, there]
    rfl
  have shared : record.instances.mapValuesM
      (withSharedMetadata (world.account? Address.systemAccount) token) = .ok record.instances := by
    apply OrdMap.mapValuesM_self
    intro nonce held holds
    apply withSharedMetadata_self
    rcases instance_gathered token nonce account.news with ⟨told, member, last⟩ | ⟨-, nothing⟩
    · rw [← same, holds] at last
      cases last
      exact own token nonce held member
    · rw [← same, holds] at nothing
      cases nothing
  rw [shared]
  rfl

end World
end ChainScenario
