import ChainScenario.Proofs.Records
import ChainScenario.Proofs.Rendering
import ChainScenario.Run.Dump
import Mathlib.Data.List.Nodup

/-!
# What a dump shows

A dump is an object of objects, and an object keeps one value for each name. Main statement:
`dump_complete_iff`, the dump of a ledger whose tokens can be read has an entry for each account, each
token, each instance and each slot exactly if no two of its addresses are rendered alike, nor two
identifiers in one account.
-/
namespace ChainScenario

/-! ## Objects -/

namespace Json

theorem setField_of_notMem {key : String} {value : Json} {fields : List (String × Json)}
    (new : key ∉ fields.map Prod.fst) : setField key value fields = fields ++ [(key, value)] := by
  induction fields with
  | nil => rfl
  | cons field rest ih =>
    rw [List.map_cons, List.mem_cons, not_or] at new
    rw [setField, if_neg (Ne.symm new.1), ih new.2]
    rfl

theorem keys_setField (key : String) (value : Json) (fields : List (String × Json)) :
    (setField key value fields).map Prod.fst =
      if key ∈ fields.map Prod.fst then fields.map Prod.fst else fields.map Prod.fst ++ [key] := by
  induction fields with
  | nil => rfl
  | cons field rest ih =>
    rw [setField]
    by_cases here : field.1 = key
    · rw [if_pos here, if_pos (by simp [here])]
      rfl
    · rw [if_neg here, List.map_cons, ih]
      simp only [List.map_cons, List.mem_cons, Ne.symm here, false_or]
      split <;> rfl

/-- An object has each name that was set, and has it once. -/
theorem keys_ofFields (fields : List (String × Json)) :
    ∃ kept, ofFields fields = .object kept ∧ (kept.map Prod.fst).Nodup ∧
      ∀ name, name ∈ kept.map Prod.fst ↔ name ∈ fields.map Prod.fst := by
  refine ⟨_, rfl, ?_⟩
  -- by induction on the fields from the last one, which is set in what those before it made
  induction fields using List.reverseRecOn with
  | nil => exact ⟨.nil, fun _ => .rfl⟩
  | append_singleton front last ih =>
    obtain ⟨distinct, same⟩ := ih
    rw [List.foldl_append, List.foldl_cons, List.foldl_nil, keys_setField]
    split
    · rename_i old
      refine ⟨distinct, fun name => (same name).trans ?_⟩
      rw [List.map_append, List.mem_append, List.map_singleton, List.mem_singleton]
      exact ⟨.inl, fun either => either.elim id fun here => here ▸ (same last.1).1 old⟩
    · rename_i new
      constructor
      · rw [List.nodup_append_comm, List.singleton_append, List.nodup_cons]
        exact ⟨new, distinct⟩
      · intro name
        rw [List.mem_append, same, List.map_append, List.mem_append]
        rfl

/-- Fields with different names make an object of just these fields. -/
theorem ofFields_of_nodup {fields : List (String × Json)}
    (distinct : (fields.map Prod.fst).Nodup) : ofFields fields = .object fields := by
  -- by induction on the fields, for those that were set before
  have folds : ∀ before : List (String × Json), ((before ++ fields).map Prod.fst).Nodup →
      fields.foldl (fun set field => setField field.1 field.2 set) before = before ++ fields := by
    clear distinct
    induction fields with
    | nil => exact fun before _ => (List.append_nil before).symm
    | cons field rest ih =>
      intro before distinct
      rw [List.append_cons] at distinct ⊢
      have new : field.1 ∉ before.map Prod.fst := by
        rw [List.map_append, List.map_append] at distinct
        have apart := List.disjoint_of_nodup_append (List.nodup_append.1 distinct).1
        exact fun old => apart old (by simp)
      rw [List.foldl_cons, setField_of_notMem new]
      exact ih _ distinct
  exact congrArg Json.object (folds [] distinct)

theorem ofFields_of_sublist {fields : List (String × Json)} {names : List String}
    (within : (fields.map Prod.fst).Sublist names) (distinct : names.Nodup) :
    ofFields fields = .object fields :=
  ofFields_of_nodup (within.nodup distinct)

end Json

/-! ## One entry for each item -/

section Items

variable {α β : Type}

/-- A list shows each item that is present, and each once. -/
def OneEach (shows : α → β → Prop) (present : α → Prop) (shown : List β) : Prop :=
  ∃ items : List α, items.Nodup ∧ (∀ item, item ∈ items ↔ present item) ∧
    List.Forall₂ shows items shown

/-- Fields show each item that is present under its name, and no two under one name. -/
structure Lists (name : α → String) (shows : α → Json → Prop) (present : α → Prop)
    (fields : List (String × Json)) : Prop where
  distinct : (fields.map Prod.fst).Nodup
  each : OneEach (fun item field => field.1 = name item ∧ shows item field.2) present fields

variable {present : α → Prop}

/-- A list made of entries with different keys shows each key once. -/
theorem OneEach.of_map {ι : Type} {shows : α → β → Prop} {entries : List ι} {key : ι → α}
    {make : ι → β} (single : (entries.map key).Nodup)
    (all : ∀ item, item ∈ entries.map key ↔ present item)
    (each : ∀ entry ∈ entries, shows (key entry) (make entry)) :
    OneEach shows present (entries.map make) := by
  refine ⟨entries.map key, single, all, ?_⟩
  rw [List.forall₂_map_left_iff, List.forall₂_map_right_iff, List.forall₂_same]
  exact each

variable {name : α → String} {shows : α → Json → Prop}

theorem Lists.of_map {ι : Type} {entries : List ι} {key : ι → α} {content : ι → Json}
    (single : (entries.map key).Nodup) (all : ∀ item, item ∈ entries.map key ↔ present item)
    (each : ∀ entry ∈ entries, shows (key entry) (content entry))
    (apart : ∀ item other, present item → present other → name item = name other → item = other) :
    ∃ fields, Json.ofFields (entries.map fun entry => (name (key entry), content entry)) =
      .object fields ∧ Lists name shows present fields := by
  have distinct : ((entries.map fun entry => (name (key entry), content entry)).map
      Prod.fst).Nodup := by
    have names : (entries.map fun entry => (name (key entry), content entry)).map Prod.fst =
        (entries.map key).map name := by
      rw [List.map_map, List.map_map]
      rfl
    rw [names]
    exact single.map_on fun item here other there => apart item other ((all item).1 here)
      ((all other).1 there)
  exact ⟨_, Json.ofFields_of_nodup distinct, distinct,
    .of_map single all fun entry member => ⟨rfl, each entry member⟩⟩

/-- Items that are shown side by side have different names. -/
theorem Lists.name_inj {fields : List (String × Json)} (lists : Lists name shows present fields)
    {item other : α} (here : present item) (there : present other) (same : name item = name other) :
    item = other := by
  obtain ⟨distinct, items, -, all, each⟩ := lists
  have names : fields.map Prod.fst = items.map name := by
    rw [← List.forall₂_eq_eq_eq, List.forall₂_map_left_iff, List.forall₂_map_right_iff]
    exact (each.imp fun _ _ both => both.1).flip
  rw [names] at distinct
  exact List.inj_on_of_nodup_map distinct ((all item).2 here) ((all other).2 there) same

/-- What is present is shown by some field. -/
theorem Lists.exists_shown {fields : List (String × Json)} (lists : Lists name shows present fields)
    {item : α} (here : present item) : ∃ value, shows item value := by
  obtain ⟨-, items, -, all, each⟩ := lists
  obtain ⟨place, inside, rfl⟩ := List.getElem_of_mem ((all item).2 here)
  exact ⟨_, (each.get inside (each.length_eq ▸ inside)).2⟩

end Items

theorem OrdMap.nodup_keys {α β : Type} [Ord α] [Std.TransOrd α] (map : OrdMap α β) :
    map.keys.Nodup := by
  refine List.pairwise_map.2 (map.ascending.imp ?_)
  intro left right below same
  rw [same] at below
  simp at below

/-! ## What is shown -/

namespace Dump

open Expression (renderAddress renderUnknown Aliases)
open Token (Record Records)

/-- An instance of a token with its nonce and an amount that the account keeps of it. -/
def ShowsInstance (account : Account) (token : Bytes) (nonce : UInt64) (shown : Json) : Prop :=
  ∃ fields held, shown = .object fields ∧ account.KeepsHolding token nonce held ∧
    Json.field? "nonce" fields = some (number nonce.toNat) ∧
    Json.field? "balance" fields = some (number held.value)

/-- A token with every instance of it that has a slot, and each once. -/
def ShowsToken (account : Account) (token : Bytes) (shown : Json) : Prop :=
  ∃ fields instances, shown = .object fields ∧
    Json.field? "instances" fields = some (.array instances) ∧
    OneEach (ShowsInstance account token) (account.HasInstance token) instances

/-- A slot of storage that is neither empty nor the protocol's. -/
def IsShown (account : Account) (key : Bytes) : Prop :=
  account.stored key ≠ [] ∧ Address.isProtected key = false

def tokenName (token : Bytes) : String := "str:" ++ Utf8.decodeLossy token

/-- An account with its nonce, its balance, each token of which it stores something and each slot that
is shown. -/
structure ShowsAccount (account : Account) (fields : List (String × Json)) : Prop where
  nonce : Json.field? "nonce" fields = some (number account.nonce.toNat)
  balance : Json.field? "balance" fields = some (number account.balance)
  tokens : ∃ shown, (Json.field? "esdt" fields).getD (.object []) = .object shown ∧
    Lists tokenName (ShowsToken account) account.Holds shown
  storage : ∃ shown, Json.field? "storage" fields = some (.object shown) ∧
    Lists renderUnknown (fun key value => value = .string (renderUnknown (account.stored key)))
      (IsShown account) shown

/-- The entries of a dump show each account of the ledger. -/
def ShowsWorld (world : World) (accounts : List (String × Json)) : Prop :=
  Lists renderAddress
    (fun address shown => ∃ account fields, world.account? address = some account ∧
      shown = .object fields ∧ ShowsAccount account fields)
    (fun address => (world.account? address).isSome) accounts

/-! ## Tokens and storage -/

theorem fieldIf_sublist (shown : Bool) (name : String) (value : Json) :
    ((fieldIf shown name value).map Prod.fst).Sublist [name] := by
  unfold fieldIf
  split
  · exact .refl _
  · exact List.nil_sublist _

theorem metadataFields_sublist (metadata : Option Token.Metadata) :
    (((metadata.map metadataFields).getD []).map Prod.fst).Sublist
      ["creator", "royalties", "hash", "uri", "attributes"] := by
  cases metadata with
  | none => exact List.nil_sublist _
  | some metadata =>
    simp only [Option.map_some, Option.getD_some, metadataFields, List.map_append]
    exact ((((fieldIf_sublist ..).append (fieldIf_sublist ..)).append (fieldIf_sublist ..)).append
      (fieldIf_sublist ..)).append (fieldIf_sublist ..)

theorem instanceJson_shows {account : Account} {token : Bytes} {nonce : UInt64}
    {holding own : Token.Holding} (keeps : account.KeepsHolding token nonce own)
    (same : holding.value = own.value) :
    ShowsInstance account token nonce (instanceJson nonce holding) := by
  refine ⟨_, own, @Json.ofFields_of_sublist _
    (["nonce", "balance"] ++ ["creator", "royalties", "hash", "uri", "attributes"]) ?names
    (by decide), keeps, rfl, ?balance⟩
  case names =>
    rw [List.map_append]
    exact (List.Sublist.refl _).append (metadataFields_sublist holding.metadata)
  case balance =>
    rw [← same]
    rfl

theorem tokenJson_shows {account : Account} {records : Records} {token : Bytes} {record : Record}
    (listed : account.Listed records) (found : records.get? token = some record) :
    ShowsToken account token (tokenJson record) := by
  refine ⟨_, _, @Json.ofFields_of_sublist _ ["instances", "lastNonce", "roles", "frozen"] ?names
    (by decide), rfl, .of_map record.instances.nodup_keys ?all ?each⟩
  case names =>
    simp only [List.map_append]
    exact (((List.Sublist.refl _).append (fieldIf_sublist ..)).append (fieldIf_sublist ..)).append
      (fieldIf_sublist ..)
  case all =>
    intro nonce
    rw [← listed.instances token record found]
    exact OrdMap.mem_keys
  case each =>
    intro entry member
    obtain ⟨own, keeps, same⟩ :=
      listed.amounts token record found entry.1 entry.2 (OrdMap.get?_of_mem member)
    exact instanceJson_shows keeps same

theorem storageJson_lists (account : Account) :
    ∃ shown, storageJson account = .object shown ∧
      Lists renderUnknown (fun key value => value = .string (renderUnknown (account.stored key)))
        (IsShown account) shown := by
  have kept : ∀ key, key ∈ (account.storage.toList.filter fun entry =>
      !Address.isProtected entry.1 && !entry.2.isEmpty).map Prod.fst ↔ IsShown account key := by
    intro key
    simp only [List.mem_map, List.mem_filter, Bool.and_eq_true, Bool.not_eq_true', IsShown,
      List.isEmpty_eq_false_iff]
    constructor
    · rintro ⟨entry, ⟨member, free, filled⟩, rfl⟩
      rw [Account.stored_of_get? (OrdMap.get?_of_mem member)]
      exact ⟨filled, free⟩
    · rintro ⟨filled, free⟩
      exact ⟨_, ⟨OrdMap.mem_of_get? (Account.get?_of_stored_ne_nil filled), free, filled⟩, rfl⟩
  -- whatever the slots are, their keys are rendered apart
  refine Lists.of_map ?single kept ?each fun key other _ _ same => Expression.renderUnknown_inj same
  case single => exact account.storage.nodup_keys.sublist (List.filter_sublist.map Prod.fst)
  case each =>
    intro entry member
    rw [Account.stored_of_get? (OrdMap.get?_of_mem (List.mem_of_mem_filter member))]
    rfl

theorem tokenName_eq_iff {token other : Bytes} :
    tokenName token = tokenName other ↔ Utf8.LookAlike token other := by
  rw [← Utf8.decodeLossy_eq_iff, tokenName, tokenName, ← String.toList_inj, String.toList_append,
    String.toList_append, List.append_cancel_left_eq, String.toList_inj]

/-- Identifiers of tokens in one account are told apart by their texts. -/
def DistinctTokens (account : Account) : Prop :=
  ∀ token other, account.Holds token → account.Holds other → Utf8.LookAlike token other →
    token = other

theorem tokensJson_lists {account : Account} {records : Records} (listed : account.Listed records)
    (distinct : DistinctTokens account) :
    ∃ shown, tokensJson records = .object shown ∧
      Lists tokenName (ShowsToken account) account.Holds shown := by
  refine Lists.of_map records.nodup_keys (fun token => ?_) (fun entry member => ?_)
    fun token other here there same => distinct token other here there (tokenName_eq_iff.1 same)
  · rw [← listed.tokens]
    exact OrdMap.mem_keys
  · exact tokenJson_shows listed (OrdMap.get?_of_mem member)

theorem accountJson_shows {account : Account} {records : Records} (listed : account.Listed records)
    (distinct : DistinctTokens account) :
    ∃ fields, accountJson account records = .object fields ∧ ShowsAccount account fields := by
  obtain ⟨tokens, tokensAre, shown⟩ := tokensJson_lists listed distinct
  obtain ⟨slots, slotsAre, kept⟩ := storageJson_lists account
  refine ⟨_, @Json.ofFields_of_sublist _
    (["nonce", "balance"] ++ ["esdt"] ++ ["storage"] ++ ["owner"]) ?names (by decide), rfl, rfl,
    ⟨tokens, ?tokens, shown⟩, ⟨slots, ?storage, kept⟩⟩
  case names =>
    simp only [List.map_append]
    exact (((List.Sublist.refl _).append (fieldIf_sublist ..)).append (.refl _)).append
      (fieldIf_sublist ..)
  case tokens =>
    rw [← tokensAre]
    cases empty : records.isEmpty with
    | true =>
      -- no section is shown, and there is nothing to show in it
      have none : records.toList = [] := List.isEmpty_iff.1 empty
      rw [tokensJson, none]
      cases account.owner.isEmpty <;> rfl
    | false => rfl
  case storage =>
    rw [← slotsAre]
    unfold fieldIf
    split <;> rfl

/-- The tokens of every account can be read. -/
def TokensReadable (world : World) : Prop :=
  ∀ address account, world.account? address = some account →
    ∃ records, world.tokens address = .ok records

/-- No two addresses of a ledger are rendered alike, and no two identifiers of tokens in one account. -/
structure Legible (world : World) : Prop where
  addresses : ∀ address other, (world.account? address).isSome → (world.account? other).isSome →
    Aliases address other → address = other
  tokens : ∀ address account, world.account? address = some account → DistinctTokens account

/-- A dump that shows the whole ledger keeps names apart. -/
theorem ShowsWorld.legible {world : World} {accounts : List (String × Json)}
    (shows : ShowsWorld world accounts) : Legible world where
  addresses _ _ here there aliases :=
    shows.name_inj here there (Expression.renderAddress_eq_iff.2 (.inr aliases))
  tokens address account found token other here there alike := by
    have present : (world.account? address).isSome := by rw [found]; rfl
    obtain ⟨shown, own, fields, same, rfl, shows⟩ := shows.exists_shown present
    obtain rfl : account = own := Option.some.inj (found.symm.trans same)
    obtain ⟨listing, -, lists⟩ := shows.tokens
    exact lists.name_inj here there (tokenName_eq_iff.2 alike)

/-- The entries of a dump are named by the renderings of the addresses, and no two alike; they show the
whole ledger exactly if it is legible. -/
theorem dump_complete_iff {world : World} (readable : TokensReadable world) :
    ∃ accounts, worldJson world = .ok (.object accounts) ∧ (accounts.map Prod.fst).Nodup ∧
      (∀ name, name ∈ accounts.map Prod.fst ↔
        ∃ address, (world.account? address).isSome ∧ renderAddress address = name) ∧
      (ShowsWorld world accounts ↔ Legible world) := by
  obtain ⟨recordsOf, reads⟩ : ∃ recordsOf : Bytes → Records, ∀ address account,
      world.account? address = some account → world.tokens address = .ok (recordsOf address) := by
    refine ⟨fun address => (world.tokens address).toOption.getD .empty, ?_⟩
    intro address account found
    obtain ⟨records, read⟩ := readable address account found
    simp only [read, Except.toOption, Option.getD_some]
  let entries := world.accounts.toList.map fun entry =>
    (renderAddress entry.1, accountJson entry.2 (recordsOf entry.1))
  have made : worldJson world = .ok (.ofFields entries) := by
    refine except_bind.2 ⟨_, mapM_ok_iff.2 ?_, rfl⟩
    rw [List.forall₂_map_right_iff, List.forall₂_same]
    intro entry member
    exact except_bind.2 ⟨_, reads entry.1 entry.2 (OrdMap.get?_of_mem member), rfl⟩
  obtain ⟨accounts, same, distinct, names⟩ := Json.keys_ofFields entries
  -- as many entries as there are renderings; that these are as many as addresses is legibility
  refine ⟨accounts, same ▸ made, distinct, fun name => ?_, ShowsWorld.legible, fun legible => ?_⟩
  · have listed : entries.map Prod.fst = world.accounts.keys.map renderAddress := by
      rw [List.map_map, OrdMap.keys, List.map_map]
      rfl
    rw [names, listed, List.mem_map]
    simp only [OrdMap.mem_keys]
    rfl
  · obtain ⟨shown, equal, lists⟩ : ∃ shown, Json.ofFields entries = .object shown ∧
        ShowsWorld world shown := by
      refine Lists.of_map world.accounts.nodup_keys (fun address => OrdMap.mem_keys) ?each ?apart
      case each =>
        intro entry member
        have found := OrdMap.get?_of_mem member
        have listed := World.listed_of_tokens found (reads entry.1 entry.2 found)
        obtain ⟨fields, made, shows⟩ :=
          accountJson_shows listed (legible.tokens entry.1 entry.2 found)
        exact ⟨entry.2, fields, found, made, shows⟩
      case apart =>
        intro address other here there same
        exact (Expression.renderAddress_eq_iff.1 same).elim id
          (legible.addresses address other here there)
    exact Json.object.inj (equal.symm.trans same) ▸ lists

/-! ### Two ledgers -/

/-- The address of a name. -/
def addressOf (name : String) : Bytes := Bytes.fit Address.length 0x5F (Utf8.ofString name)

def seat : Bytes := Utf8.ofString "SEAT-123456"

def row : Bytes := Utf8.ofString "row"

/-- An account with an instance of a token and a slot of its own. -/
def guest : Account :=
  ((Account.blank (addressOf "guest")).put (Token.holdingKey seat 1)
    (Token.Holding.fungible 5).write).put row [7]

def house : World := ((World.new [0, 0]).putAccount guest).putAccount (.blank (addressOf "host"))

theorem tokensReadable_house : TokensReadable house := by
  have fits : (Token.Holding.fungible 5).Fits := ⟨by decide +kernel, by decide, nofun⟩
  have intact : guest.Every Token.Intact :=
    ((Account.every_blank _).put (Token.intact_write fits (by decide) seat 1)).put
      (Token.intact_of_unprotected (by decide))
  have empty : (World.new [0, 0]).Every Token.Intact := nofun
  exact fun address _ _ =>
    World.tokens_ok ((empty.setAccount intact).setAccount (Account.every_blank _)) address

theorem account_house {address : Bytes} {account : Account}
    (found : house.account? address = some account) :
    address = addressOf "guest" ∧ account = guest ∨
      address = addressOf "host" ∧ account = .blank (addressOf "host") := by
  rw [house, World.putAccount, World.account?_setAccount, World.putAccount,
    World.account?_setAccount] at found
  split at found
  · rename_i here
    exact .inr ⟨here, (Option.some.inj found).symm⟩
  · split at found
    · rename_i here
      exact .inl ⟨here, (Option.some.inj found).symm⟩
    · cases found

/-- The guest keeps something of one token only. -/
theorem eq_seat_of_holds {token : Bytes} (holds : guest.Holds token) : token = seat := by
  obtain ⟨key, filled, about⟩ := holds
  rw [guest, Account.stored_put, Account.stored_put] at filled
  have usual : Token.IsIdentifier seat := by decide
  split at filled
  · rename_i here
    rw [here, Token.placeOf_unprotected (by decide)] at about
    cases about
  · split at filled
    · rename_i here
      rw [here, Token.placeOf_holdingKey usual] at about
      exact (Option.some.inj about).symm
    · exact absurd rfl filled

theorem legible_house : Legible house where
  addresses address other here there aliases := by
    obtain ⟨account, found⟩ := Option.isSome_iff_exists.1 here
    obtain ⟨neighbour, known⟩ := Option.isSome_iff_exists.1 there
    have same := Expression.renderAddress_eq_iff.2 (.inr aliases)
    have apart : renderAddress (addressOf "guest") ≠ renderAddress (addressOf "host") := by
      decide +kernel
    rcases account_house found with ⟨rfl, -⟩ | ⟨rfl, -⟩ <;>
      rcases account_house known with ⟨rfl, -⟩ | ⟨rfl, -⟩
    · rfl
    · exact absurd same apart
    · exact absurd same.symm apart
    · rfl
  tokens address account found token other here there _ := by
    rcases account_house found with ⟨-, rfl⟩ | ⟨-, rfl⟩
    · rw [eq_seat_of_holds here, eq_seat_of_holds there]
    · obtain ⟨key, filled, -⟩ := here
      exact absurd rfl filled

theorem dump_complete_iff_house :
    TokensReadable house ∧ Legible house ∧
      ∃ accounts, worldJson house = .ok (.object accounts) ∧ ShowsWorld house accounts := by
  obtain ⟨accounts, made, -, -, complete⟩ := dump_complete_iff tokensReadable_house
  exact ⟨tokensReadable_house, legible_house, accounts, made, complete.2 legible_house⟩

/-- Two accounts, one at the name that the name and the shard of the other spell. -/
def namesakes : World :=
  ((World.new [0, 0]).putAccount (.blank (addressOf "a#01"))).putAccount
    (.blank ((addressOf "a").dropLast ++ [1]))

theorem dump_incomplete :
    TokensReadable namesakes ∧
      ¬∃ accounts, worldJson namesakes = .ok (.object accounts) ∧ ShowsWorld namesakes accounts := by
  constructor
  · have empty : (World.new [0, 0]).Every Token.Intact := nofun
    exact fun address _ _ => World.tokens_ok
      ((empty.setAccount (Account.every_blank _)).setAccount (Account.every_blank _)) address
  · rintro ⟨accounts, -, shows⟩
    have alike : renderAddress (addressOf "a#01") =
        renderAddress ((addressOf "a").dropLast ++ [1]) := by
      decide +kernel
    have same := shows.name_inj (by decide +kernel) (by decide +kernel) alike
    exact absurd same (by decide)

end Dump
end ChainScenario
