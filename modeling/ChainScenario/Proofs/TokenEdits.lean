import ChainScenario.Proofs.Records

/-!
# Tokens after a sequence of edits

The storage of an account is written by edits of tokens and by entries under keys that are not the
protocol's. Main statement: `tokens_edited`, the records of a fresh account list what the last edits of
each thing left, and nothing else.
-/
namespace ChainScenario.Account

open Token

/-- An edit of what an account stores. -/
inductive Edit where
  | setHolding (token : Bytes) (nonce : UInt64) (holding : Holding)
  | saveHolding (token : Bytes) (nonce : UInt64) (holding : Holding)
  | setLastNonce (token : Bytes) (nonce : UInt64)
  | setRoles (token : Bytes) (roles : List Bytes)
  | save (key value : Bytes)

namespace Edit

def apply (account : Account) : Edit → Account
  | setHolding token nonce holding => account.setHolding token nonce holding
  | saveHolding token nonce holding => account.saveHolding token nonce holding
  | setLastNonce token nonce => account.setLastNonce token nonce
  | setRoles token roles => account.setRoles token roles
  | save key value => account.save key value

/-- Identifiers have the usual form, memory can hold what is stored, and entries are saved under keys
that are not the protocol's. -/
def Proper : Edit → Prop
  | setHolding token _ holding => IsIdentifier token ∧ holding.Fits
  | saveHolding token _ holding => IsIdentifier token ∧ holding.Fits
  | setLastNonce token _ => IsIdentifier token
  | setRoles token roles => IsIdentifier token ∧ roles.length < UInt64.size ∧
      ∀ role ∈ roles, role.length < UInt64.size
  | save key _ => Address.isProtected key = false

/-! ## What is meant to be left -/

/-- What an edit says of an instance: that it is held, or that it is removed. -/
def instance? (token : Bytes) (nonce : UInt64) : Edit → Option (Option Holding)
  | setHolding other number holding =>
    if token = other ∧ nonce = number then some (some holding) else none
  | saveHolding other number holding =>
    if token = other ∧ nonce = number then some (if holding.value = 0 then none else some holding)
    else none
  | _ => none

def lastNonce? (token : Bytes) : Edit → Option UInt64
  | setLastNonce other nonce => if token = other then some nonce else none
  | _ => none

def roles? (token : Bytes) : Edit → Option (List Bytes)
  | setRoles other roles => if token = other then some roles else none
  | _ => none

/-- What the last of some edits says, of those that say anything. -/
def latest {α : Type} (say : Edit → Option α) : List Edit → Option α
  | [] => none
  | edit :: rest => (latest say rest).or (say edit)

/-- The holding of an instance that was stored last, unless it was removed. -/
def held (edits : List Edit) (token : Bytes) (nonce : UInt64) : Option Holding :=
  (latest (instance? token nonce) edits).join

def lastNonce (edits : List Edit) (token : Bytes) : UInt64 :=
  (latest (lastNonce? token) edits).getD 0

def roles (edits : List Edit) (token : Bytes) : List Bytes :=
  (latest (roles? token) edits).getD []

/-- What edits leave of tokens, as news. -/
inductive Leaves (edits : List Edit) : News → Prop
  | holding {token : Bytes} {nonce : UInt64} {holding : Holding}
      (left : held edits token nonce = some holding) :
      Leaves edits (.holding token nonce holding)
  | lastNonce {token : Bytes} (left : Edit.lastNonce edits token ≠ 0) :
      Leaves edits (.lastNonce token (Edit.lastNonce edits token))
  | roles {token : Bytes} (left : Edit.roles edits token ≠ []) :
      Leaves edits (.roles token (Edit.roles edits token))

/-! ## Entries -/

/-- The entry of storage that an edit comes to; an empty value stands for none. -/
def entry : Edit → Bytes × Bytes
  | setHolding token nonce holding => (holdingKey token nonce, holding.write)
  | saveHolding token nonce holding =>
    (holdingKey token nonce, if holding.value = 0 then [] else holding.write)
  | setLastNonce token nonce => (lastNonceKey token, nonceBytes nonce)
  | setRoles token roles => (rolesKey token, if roles.isEmpty then [] else writeRoles roles)
  | save key value => (key, value)

/-- What the key of an edit is kept for. -/
def place : Edit → Place
  | setHolding token nonce _ => .holding token nonce
  | saveHolding token nonce _ => .holding token nonce
  | setLastNonce token _ => .lastNonce token
  | setRoles token _ => .roles token
  | save _ _ => .other

theorem placeOf_entry {edit : Edit} (proper : edit.Proper) : placeOf edit.entry.1 = edit.place := by
  cases edit with
  | setHolding token nonce holding | saveHolding token nonce holding =>
    exact placeOf_holdingKey proper.1 nonce
  | setLastNonce token nonce => exact placeOf_lastNonceKey token
  | setRoles token roles => exact placeOf_rolesKey token
  | save key value => exact placeOf_unprotected proper

theorem apply_eq_save (account : Account) (edit : Edit) :
    edit.apply account = account.save edit.entry.1 edit.entry.2 := by
  cases edit with
  | setHolding token nonce holding =>
    -- a holding is never written as nothing, so it is put where it would be saved
    exact (if_neg fun empty => holding.write_ne_nil (List.isEmpty_iff.1 empty)).symm
  | saveHolding token nonce holding => exact account.saveHolding_eq_save token nonce holding
  | setLastNonce token nonce => rfl
  | setRoles token roles => exact account.setRoles_eq_save token roles
  | save key value => rfl

theorem foldl_apply (account : Account) (edits : List Edit) :
    edits.foldl apply account =
      (edits.map entry).foldl (fun account entry => account.save entry.1 entry.2) account := by
  have saves : apply = fun account edit => account.save edit.entry.1 edit.entry.2 :=
    funext₂ apply_eq_save
  rw [List.foldl_map, saves]

variable {edits : List Edit} {token : Bytes} {nonce : UInt64}

/-- An edit either writes under a key what it says there, rendered, or says nothing and writes
elsewhere. -/
inductive Speaks {α : Type} (say : Edit → Option α) (render : α → Bytes) (key : Bytes) (edit : Edit) :
    Prop
  | here {value : α} (said : say edit = some value) (writes : edit.entry = (key, render value))
  | elsewhere (silent : say edit = none) (apart : key ≠ edit.entry.1)

/-- Under a key at which all edits speak the last word is stored. -/
theorem stored_edited {α : Type} {say : Edit → Option α} {render : α → Bytes} {key : Bytes}
    (speak : ∀ edit ∈ edits, edit.Speaks say render key) (account : Account) :
    (edits.foldl apply account).stored key =
      ((latest say edits).map render).getD (account.stored key) := by
  -- by induction on the edits, since the last word may be that of the first edit only
  induction edits generalizing account with
  | nil => rfl
  | cons edit rest ih =>
    obtain ⟨first, others⟩ := List.forall_mem_cons.1 speak
    rw [List.foldl_cons, ih others, latest]
    cases latest say rest with
    | some value => rfl
    | none =>
      rw [Option.none_or, apply_eq_save, stored_save]
      cases first with
      | here said writes =>
        rw [said, writes, if_pos rfl]
        rfl
      | elsewhere silent apart => rw [silent, if_neg apart, Option.map_none]

theorem mem_of_latest {α : Type} {say : Edit → Option α} {value : α}
    (said : latest say edits = some value) : ∃ edit ∈ edits, say edit = some value := by
  induction edits with
  | nil => cases said
  | cons edit rest ih =>
    rcases Option.or_eq_some_iff.1 said with later | ⟨-, first⟩
    · obtain ⟨edit, member, same⟩ := ih later
      exact ⟨edit, List.mem_cons_of_mem _ member, same⟩
    · exact ⟨edit, List.mem_cons_self, first⟩

/-- An entry of a proper edit tells something, if it must. -/
theorem told_entry {edit : Edit} (proper : edit.Proper) : Told edit.entry := by
  intro filled
  rw [placeOf_entry proper]
  cases edit with
  | setHolding token nonce holding =>
    obtain ⟨usual, fits⟩ := proper
    simp only [entry] at filled ⊢
    rw [newsOf_holding usual nonce filled (readAll_write fits)]
    rfl
  | saveHolding token nonce holding =>
    obtain ⟨usual, fits⟩ := proper
    simp only [entry] at filled ⊢
    -- of a removal nothing must be told
    split at filled
    · contradiction
    · rename_i something
      rw [if_neg something, newsOf_holding usual nonce filled (readAll_write fits)]
      rfl
  | setLastNonce token nonce =>
    simp only [entry] at filled ⊢
    rw [newsOf_lastNonce filled]
    rfl
  | setRoles token roles =>
    obtain ⟨-, few, each⟩ := proper
    simp only [entry] at filled ⊢
    split at filled
    · contradiction
    · rename_i some
      rw [if_neg some, newsOf_roles filled (readAll_of_reads (reads_roles few each))]
      rfl
  | save key value =>
    rw [entry, newsOf_unprotected proper]
    rfl

/-! ## What is stored in the end -/

private theorem ne_of_place {key : Bytes} {here : Place} {edit : Edit} (proper : edit.Proper)
    (kept : placeOf key = here) (apart : here ≠ edit.place) : key ≠ edit.entry.1 := by
  rintro rfl
  exact apart (kept.symm.trans (placeOf_entry proper))

/-- A removed holding is stored as nothing. -/
def slotValue (left : Option Holding) : Bytes := left.elim [] Holding.write

theorem speaks_instance (usual : IsIdentifier token) {edit : Edit} (proper : edit.Proper) :
    edit.Speaks (instance? token nonce) slotValue (holdingKey token nonce) := by
  have kept := placeOf_holdingKey usual nonce
  cases edit with
  | setHolding other number holding =>
    by_cases same : token = other ∧ nonce = number
    · obtain ⟨rfl, rfl⟩ := same
      exact .here (if_pos ⟨rfl, rfl⟩) rfl
    · exact .elsewhere (if_neg same) fun slot => same (holdingKey_inj usual proper.1 slot)
  | saveHolding other number holding =>
    by_cases same : token = other ∧ nonce = number
    · obtain ⟨rfl, rfl⟩ := same
      refine .here (if_pos ⟨rfl, rfl⟩) ?_
      rw [entry]
      split <;> rfl
    · exact .elsewhere (if_neg same) fun slot => same (holdingKey_inj usual proper.1 slot)
  | _ => exact .elsewhere rfl (ne_of_place proper kept nofun)

theorem speaks_lastNonce {edit : Edit} (proper : edit.Proper) :
    edit.Speaks (lastNonce? token) nonceBytes (lastNonceKey token) := by
  have kept := placeOf_lastNonceKey token
  cases edit with
  | setLastNonce other number =>
    by_cases same : token = other
    · subst same
      exact .here (if_pos rfl) rfl
    · exact .elsewhere (if_neg same) fun key => same (List.append_cancel_left key)
  | _ => exact .elsewhere rfl (ne_of_place proper kept nofun)

theorem speaks_roles {edit : Edit} (proper : edit.Proper) :
    edit.Speaks (roles? token) (fun roles => if roles.isEmpty then [] else writeRoles roles)
      (rolesKey token) := by
  have kept := placeOf_rolesKey token
  cases edit with
  | setRoles other roles =>
    by_cases same : token = other
    · subst same
      exact .here (if_pos rfl) rfl
    · exact .elsewhere (if_neg same) fun key => same (List.append_cancel_left key)
  | _ => exact .elsewhere rfl (ne_of_place proper kept nofun)

theorem proper_instance {edit : Edit} (proper : edit.Proper) {holding : Holding}
    (said : edit.instance? token nonce = some (some holding)) :
    IsIdentifier token ∧ holding.Fits := by
  cases edit with
  | setHolding other number given =>
    rw [instance?, Option.ite_none_right_eq_some] at said
    obtain ⟨⟨rfl, -⟩, same⟩ := said
    cases same
    exact proper
  | saveHolding other number given =>
    rw [instance?, Option.ite_none_right_eq_some, Option.some.injEq] at said
    obtain ⟨⟨rfl, -⟩, same⟩ := said
    split at same
    · cases same
    · cases same
      exact proper
  | _ => cases said

theorem proper_roles {edit : Edit} (proper : edit.Proper) {given : List Bytes}
    (said : edit.roles? token = some given) :
    given.length < UInt64.size ∧ ∀ role ∈ given, role.length < UInt64.size := by
  cases edit with
  | setRoles other roles =>
    rw [roles?, Option.ite_none_right_eq_some] at said
    obtain ⟨-, same⟩ := said
    cases same
    exact proper.2
  | _ => cases said

section Fresh

variable {start : Account} (fresh : start.storage = .empty) (proper : ∀ edit ∈ edits, edit.Proper)

include fresh in
theorem stored_fresh (key : Bytes) : start.stored key = [] := by
  rw [stored, fresh]
  rfl

include proper in
theorem proper_held {holding : Holding} (left : held edits token nonce = some holding) :
    IsIdentifier token ∧ holding.Fits := by
  obtain ⟨edit, member, said⟩ := mem_of_latest (Option.join_eq_some_iff.1 left)
  exact proper_instance (proper edit member) said

include fresh in
/-- Every entry of storage comes from an edit. -/
theorem every_edited : (edits.foldl apply start).Every fun key value =>
    ∃ edit ∈ edits, edit.entry = (key, value) := by
  rw [foldl_apply]
  refine Every.saveAll ?_ fun entry member => List.mem_map.1 member
  -- before the edits there are no entries at all
  intro key value found
  rw [fresh] at found
  cases found

include fresh proper

theorem news_slot (usual : IsIdentifier token) (nonce : UInt64) :
    newsOf (holdingKey token nonce, (edits.foldl apply start).stored (holdingKey token nonce)) =
      (held edits token nonce).elim .nothing (.holding token nonce) := by
  rw [stored_edited fun edit member => speaks_instance usual (proper edit member), stored_fresh fresh]
  cases left : held edits token nonce with
  | some holding =>
    obtain ⟨-, fits⟩ := proper_held proper left
    rw [Option.join_eq_some_iff.1 left]
    exact newsOf_holding usual nonce holding.write_ne_nil (readAll_write fits)
  | none =>
    -- no edit said anything of the instance, or the last one that did removed it
    rcases Option.join_eq_none_iff.1 left with said | said <;> rw [said] <;> exact newsOf_nil _

theorem news_lastNonce (token : Bytes) :
    newsOf (lastNonceKey token, (edits.foldl apply start).stored (lastNonceKey token)) =
      if lastNonce edits token = 0 then .nothing else .lastNonce token (lastNonce edits token) := by
  rw [stored_edited fun edit member => speaks_lastNonce (proper edit member), stored_fresh fresh,
    ← newsOf_nonceBytes, lastNonce]
  cases latest (lastNonce? token) edits with
  | some nonce => rfl
  | none => rw [Option.map_none, Option.getD_none, Option.getD_none, nonceBytes_eq_nil.2 rfl]

theorem news_roles (token : Bytes) :
    newsOf (rolesKey token, (edits.foldl apply start).stored (rolesKey token)) =
      if roles edits token = [] then .nothing else .roles token (roles edits token) := by
  rw [stored_edited fun edit member => speaks_roles (proper edit member), stored_fresh fresh, roles]
  cases said : latest (roles? token) edits with
  | some given =>
    obtain ⟨edit, member, gives⟩ := mem_of_latest said
    obtain ⟨few, each⟩ := proper_roles (proper edit member) gives
    rw [Option.map_some, Option.getD_some, Option.getD_some]
    by_cases empty : given = []
    · rw [if_pos empty, if_pos (List.isEmpty_iff.2 empty), newsOf_nil]
    · rw [if_neg empty, if_neg (mt List.isEmpty_iff.1 empty)]
      exact newsOf_roles (writeRoles_ne_nil given) (readAll_of_reads (reads_roles few each))
  | none => exact newsOf_nil _

theorem told_edited (key : Bytes) : Told (key, (edits.foldl apply start).stored key) := by
  intro filled
  obtain ⟨edit, member, same⟩ := every_edited fresh _ _ (get?_of_stored_ne_nil filled)
  have told := told_entry (proper edit member)
  rw [same] at told
  exact told filled

theorem mem_news_edited {one : News} (something : one ≠ .nothing) :
    one ∈ (edits.foldl apply start).news ↔ Leaves edits one := by
  rw [mem_news_of_something something]
  constructor
  · rintro ⟨key, rfl⟩
    have filled : (edits.foldl apply start).stored key ≠ [] := by
      intro empty
      rw [empty] at something
      exact something (newsOf_nil key)
    obtain ⟨edit, member, same⟩ := every_edited fresh _ _ (get?_of_stored_ne_nil filled)
    have suits := proper edit member
    obtain rfl : edit.entry.1 = key := congrArg Prod.fst same
    -- the key is one that an edit writes to, so what it tells is known
    cases edit with
    | setHolding token nonce holding | saveHolding token nonce holding =>
      have told := news_slot fresh proper suits.1 nonce
      simp only [entry] at something ⊢
      rw [told] at something ⊢
      cases left : held edits token nonce with
      | some holding => exact .holding left
      | none =>
        rw [left] at something
        exact absurd rfl something
    | setLastNonce token nonce =>
      have told := news_lastNonce fresh proper token
      simp only [entry] at something ⊢
      rw [told] at something ⊢
      split at something
      · contradiction
      · rename_i left
        rw [if_neg left]
        exact .lastNonce left
    | setRoles token named =>
      have told := news_roles fresh proper token
      simp only [entry] at something ⊢
      rw [told] at something ⊢
      split at something
      · contradiction
      · rename_i left
        rw [if_neg left]
        exact .roles left
    | save key value => exact absurd (newsOf_unprotected suits) something
  · intro leaves
    cases leaves with
    | @holding token nonce holding left =>
      refine ⟨holdingKey token nonce, ?_⟩
      rw [news_slot fresh proper (proper_held proper left).1, left]
      rfl
    | lastNonce left => exact ⟨_, (news_lastNonce fresh proper _).trans (if_neg left)⟩
    | roles left => exact ⟨_, (news_roles fresh proper _).trans (if_neg left)⟩

end Fresh

/-! ## What is listed in the end -/

section Listed

variable {news : List News} (leaves : ∀ one, one ≠ .nothing → (one ∈ news ↔ Leaves edits one))

include leaves

theorem isSome_left (token : Bytes) :
    ((gathered news).get? token).isSome ↔
      (∃ nonce, (held edits token nonce).isSome) ∨ lastNonce edits token ≠ 0 ∨
        roles edits token ≠ [] := by
  rw [isSome_gathered]
  constructor
  · rintro ⟨one, member, about⟩
    have left := (leaves one (by rintro rfl; cases about)).1 member
    cases left with
    | holding left =>
      cases about
      exact .inl ⟨_, Option.isSome_of_eq_some left⟩
    | lastNonce left =>
      cases about
      exact .inr (.inl left)
    | roles left =>
      cases about
      exact .inr (.inr left)
  · rintro (⟨nonce, some⟩ | left | left)
    · obtain ⟨holding, left⟩ := Option.isSome_iff_exists.1 some
      exact ⟨_, (leaves (.holding token nonce holding) nofun).2 (.holding left), rfl⟩
    · exact ⟨_, (leaves (.lastNonce token _) nofun).2 (.lastNonce left), rfl⟩
    · exact ⟨_, (leaves (.roles token _) nofun).2 (.roles left), rfl⟩

theorem mem_news_holding {holding : Holding} :
    .holding token nonce holding ∈ news ↔ held edits token nonce = some holding := by
  rw [leaves (.holding token nonce holding) nofun]
  constructor
  · rintro ⟨left⟩
    exact left
  · exact .holding

theorem instances_left (token : Bytes) (nonce : UInt64) :
    ((gathered news).getD token .blank).instances.get? nonce = held edits token nonce := by
  rcases instance_gathered token nonce news with ⟨holding, member, last⟩ | ⟨silent, nothing⟩
  · rw [last, (mem_news_holding leaves).1 member]
  · rw [nothing, eq_comm, Option.eq_none_iff_forall_ne_some]
    exact fun holding left => silent holding ((mem_news_holding leaves).2 left)

theorem lastNonce_left (token : Bytes) :
    ((gathered news).getD token .blank).lastNonce = lastNonce edits token := by
  rcases lastNonce_gathered token news with member | ⟨silent, zero⟩
  · -- news of a last nonce name the one that was set last
    generalize ((gathered news).getD token .blank).lastNonce = last at member ⊢
    cases (leaves (.lastNonce token last) nofun).1 member
    rfl
  · rw [zero]
    by_contra differ
    exact silent _ ((leaves (.lastNonce token _) nofun).2 (.lastNonce (Ne.symm differ)))

theorem roles_left (token : Bytes) :
    ((gathered news).getD token .blank).roles = roles edits token := by
  rcases roles_gathered token news with member | ⟨silent, empty⟩
  · generalize ((gathered news).getD token .blank).roles = last at member ⊢
    cases (leaves (.roles token last) nofun).1 member
    rfl
  · rw [empty]
    by_contra differ
    exact silent _ ((leaves (.roles token _) nofun).2 (.roles (Ne.symm differ)))

theorem frozen_left (token : Bytes) :
    ((gathered news).getD token .blank).frozen = true ↔
      ∃ nonce holding, held edits token nonce = some holding ∧ holding.isFrozen = true := by
  simp only [frozen_gathered, mem_news_holding leaves]

end Listed

/-- After proper edits of a fresh account its tokens can be read. They are those of which something is
left; the record of each lists the holdings that are left, the last nonce and the roles that were set
last, and is frozen if one of these holdings is. -/
theorem tokens_edited {start : Account} (fresh : start.storage = .empty)
    (proper : ∀ edit ∈ edits, edit.Proper) :
    ∃ records, (edits.foldl apply start).tokens = .ok records ∧ ∀ token,
      ((records.get? token).isSome ↔
        (∃ nonce, (held edits token nonce).isSome) ∨ lastNonce edits token ≠ 0 ∨
          roles edits token ≠ []) ∧
      ∀ record, records.get? token = some record →
        (∀ nonce, record.instances.get? nonce = held edits token nonce) ∧
        record.lastNonce = lastNonce edits token ∧
        record.roles = roles edits token ∧
        (record.frozen = true ↔
          ∃ nonce holding, held edits token nonce = some holding ∧ holding.isFrozen = true) := by
  have leaves := fun one something => @mem_news_edited edits start fresh proper one something
  refine ⟨_, tokens_of_told (told_edited fresh proper), fun token =>
    ⟨isSome_left leaves token, fun record found => ?_⟩⟩
  have same : (gathered (edits.foldl apply start).news).getD token .blank = record := by
    rw [OrdMap.getD, found]
    rfl
  rw [← same]
  exact ⟨instances_left leaves token, lastNonce_left leaves token, roles_left leaves token,
    frozen_left leaves token⟩

/-- Edits of two tokens, the nonce of one of them being a dash, with a removal and an entry among them. -/
def dashes : List Edit :=
  [.setHolding (Utf8.ofString "A-1234-6") 0x2D (.fungible 3),
    .setHolding (Utf8.ofString "A-123456") 5 (.fungible 2),
    .save (Utf8.ofString "note") [1],
    .setRoles (Utf8.ofString "A-123456") [Utf8.ofString "ESDTRoleLocalBurn"],
    .saveHolding (Utf8.ofString "A-123456") 5 (.fungible 0),
    .setLastNonce (Utf8.ofString "A-1234-6") 0x2D]

/-- The removed instance is not listed any more, and the other one is listed under its nonce. -/
theorem tokens_edited_dashes : ∃ records first second,
    (dashes.foldl apply (blank [])).tokens = .ok records ∧
      records.get? (Utf8.ofString "A-1234-6") = some first ∧
      first.instances.get? 0x2D = some (.fungible 3) ∧
      records.get? (Utf8.ofString "A-123456") = some second ∧
      second.instances.get? 5 = none ∧ second.roles = [Utf8.ofString "ESDTRoleLocalBurn"] := by
  have usual : IsIdentifier (Utf8.ofString "A-1234-6") := by decide +kernel
  have usual' : IsIdentifier (Utf8.ofString "A-123456") := by decide +kernel
  have free : Address.isProtected (Utf8.ofString "note") = false := by decide +kernel
  have fits : ∀ value ∈ [3, 2, 0], (Holding.fungible value).write.length < UInt64.size := by
    decide +kernel
  have proper : ∀ edit ∈ dashes, edit.Proper := by
    obtain ⟨three, two, none, -⟩ := by simpa only [List.forall_mem_cons] using fits
    simp only [dashes, List.forall_mem_cons]
    exact ⟨⟨usual, Holding.fits_of_short three⟩, ⟨usual', Holding.fits_of_short two⟩,
      free, ⟨usual', by decide +kernel⟩, ⟨usual', Holding.fits_of_short none⟩, usual, nofun⟩
  obtain ⟨records, read, lists⟩ := @tokens_edited dashes (blank []) rfl proper
  have numbered : lastNonce dashes (Utf8.ofString "A-1234-6") ≠ 0 := by decide +kernel
  have named : roles dashes (Utf8.ofString "A-123456") ≠ [] := by decide +kernel
  obtain ⟨first, there⟩ := Option.isSome_iff_exists.1 ((lists _).1.2 (.inr (.inl numbered)))
  obtain ⟨second, too⟩ := Option.isSome_iff_exists.1 ((lists _).1.2 (.inr (.inr named)))
  obtain ⟨held, -⟩ := (lists _).2 first there
  obtain ⟨removed, -, grants, -⟩ := (lists _).2 second too
  refine ⟨records, first, second, read, there, (held _).trans ?_, too, (removed _).trans ?_,
    grants.trans ?_⟩
  all_goals decide +kernel

end Edit
end ChainScenario.Account
