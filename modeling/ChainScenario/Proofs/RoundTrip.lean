import ChainScenario.Proofs.Integrity
import ChainScenario.Proofs.StateCheck
import Mathlib.Data.List.Nodup

/-!
# What is set is what is checked

A step that sets accounts, turned into a check of all that it names, accepts the ledger it made. Both
sides meet at the news of an account: what the saved entries of a setting tell (`mem_news_meant`) and what
the check reads out of the records gathered from them (`tokensMet`). Main statement:
`checkState_expectation`.
-/
namespace ChainScenario

open Token

/-! ## Expectations -/

def InstanceSetting.expectation (setting : InstanceSetting) : InstanceCheck where
  nonce := setting.nonce
  balance := .exactly setting.balance
  creator := .given setting.creator
  royalties := .given setting.royalties
  hash := .given setting.hash
  uris := .implied (setting.uris.map .exactly)
  attributes := .given setting.attributes

def TokenSetting.expectation (setting : TokenSetting) : TokenCheck where
  identifier := setting.identifier
  instances := setting.instances.map InstanceSetting.expectation
  lastNonce := .given setting.lastNonce
  roles := setting.roles
  frozen := .given setting.frozen

def AccountSetting.expectation (setting : AccountSetting) : AccountCheck where
  address := setting.address
  comment := setting.comment
  nonce := .given setting.nonce
  balance := .given setting.balance
  username := .given setting.username
  code := .given setting.code
  codeMetadata := .given setting.codeMetadata
  owner := .given setting.owner
  developerReward := .given setting.developerReward
  asyncCallData := .given setting.asyncCallData
  storage := .listed (setting.storage.map fun entry => (entry.1, .exactly entry.2)) false
  tokens := .listed (setting.tokens.map TokenSetting.expectation) false

/-- The check of everything that a step sets, which allows nothing more. -/
def SetState.expectation (step : SetState) : CheckState where
  comment := step.comment
  accounts := step.accounts.map AccountSetting.expectation
  moreAllowed := false

/-! ## Settings that say what they do -/

/-- There is something of the instance, and no metadata is given for number zero, which has none. -/
structure InstanceSetting.Regular (setting : InstanceSetting) : Prop where
  positive : 0 < setting.balance.value
  bare : setting.nonce.value = 0 → setting.creator = none ∧ setting.royalties = none ∧
    setting.hash = none ∧ setting.uris = [] ∧ setting.attributes = none

/-- The identifier has the usual form, no instance is named twice, and the frozen flag is a flag, set
only where there is an instance that can carry it. -/
structure TokenSetting.Regular (setting : TokenSetting) : Prop where
  usual : IsIdentifier setting.identifier.value
  distinct : (setting.instances.map (·.nonce.value)).Nodup
  instances : ∀ one ∈ setting.instances, one.Regular
  frozen : valueOr 0 setting.frozen = 0 ∨ valueOr 0 setting.frozen = 1 ∧ setting.instances ≠ []

/-- The account is replaced, none of its storage keys is the protocol's, and no token is named twice. -/
structure AccountSetting.Regular (setting : AccountSetting) : Prop where
  replaces : setting.update = false
  unprotected : setting.Unprotected
  distinct : (setting.tokens.map (·.identifier.value)).Nodup
  tokens : ∀ token ∈ setting.tokens, token.Regular

structure SetState.Regular (step : SetState) : Prop where
  distinct : (step.accounts.map (·.address.value)).Nodup
  accounts : ∀ setting ∈ step.accounts, setting.Regular

instance (setting : InstanceSetting) : Decidable setting.Regular :=
  decidable_of_iff (0 < setting.balance.value ∧ (setting.nonce.value = 0 →
      setting.creator = none ∧ setting.royalties = none ∧ setting.hash = none ∧ setting.uris = [] ∧
        setting.attributes = none))
    ⟨fun ⟨positive, bare⟩ => ⟨positive, bare⟩, fun regular => ⟨regular.positive, regular.bare⟩⟩

instance (setting : TokenSetting) : Decidable setting.Regular :=
  decidable_of_iff (IsIdentifier setting.identifier.value ∧
      (setting.instances.map (·.nonce.value)).Nodup ∧ (∀ one ∈ setting.instances, one.Regular) ∧
        (valueOr 0 setting.frozen = 0 ∨ valueOr 0 setting.frozen = 1 ∧ setting.instances ≠ []))
    ⟨fun ⟨usual, distinct, instances, frozen⟩ => ⟨usual, distinct, instances, frozen⟩,
      fun regular => ⟨regular.usual, regular.distinct, regular.instances, regular.frozen⟩⟩

instance (setting : AccountSetting) : Decidable setting.Regular :=
  decidable_of_iff (setting.update = false ∧ setting.Unprotected ∧
      (setting.tokens.map (·.identifier.value)).Nodup ∧ ∀ token ∈ setting.tokens, token.Regular)
    ⟨fun ⟨replaces, unprotected, distinct, tokens⟩ => ⟨replaces, unprotected, distinct, tokens⟩,
      fun regular => ⟨regular.replaces, regular.unprotected, regular.distinct, regular.tokens⟩⟩

instance (step : SetState) : Decidable step.Regular :=
  decidable_of_iff ((step.accounts.map (·.address.value)).Nodup ∧
      ∀ setting ∈ step.accounts, setting.Regular)
    ⟨fun ⟨distinct, accounts⟩ => ⟨distinct, accounts⟩,
      fun regular => ⟨regular.distinct, regular.accounts⟩⟩

/-! ## Keys of saved entries -/

def TokenSetting.isFrozen (setting : TokenSetting) : Bool := valueOr 0 setting.frozen != 0

/-- The places that the entries of a token are kept at. -/
def TokenSetting.places (setting : TokenSetting) : List Place :=
  setting.instances.map (fun one => .holding setting.identifier.value one.nonce.value) ++
  (setting.lastNonce.map fun _ => Place.lastNonce setting.identifier.value).toList ++
  [.roles setting.identifier.value]

/-- A token has its entries at places of its own. -/
theorem TokenSetting.token?_of_mem_places {setting : TokenSetting} {place : Place}
    (member : place ∈ setting.places) : place.token? = some setting.identifier.value := by
  simp only [places, List.mem_append, List.mem_map, Option.mem_toList, Option.map_eq_some_iff,
    List.mem_singleton] at member
  rcases member with (⟨_, _, rfl⟩ | ⟨_, _, rfl⟩) | rfl <;> rfl

namespace TokenSetting.Regular

variable {setting : TokenSetting}

theorem map_placeOf (regular : setting.Regular) :
    setting.entries.map (fun entry => placeOf entry.1) = setting.places := by
  simp only [entries, places, List.map_append, List.map_map, List.map_cons, List.map_nil,
    Function.comp_def, placeOf_holdingKey regular.usual, placeOf_rolesKey]
  cases setting.lastNonce with
  | none => rfl
  | some nonce => simp [placeOf_lastNonceKey]

theorem nodup_places (regular : setting.Regular) : setting.places.Nodup := by
  have numbers : (setting.instances.map fun one =>
      Place.holding setting.identifier.value one.nonce.value).Nodup := by
    refine List.pairwise_map.2 ((List.pairwise_map.1 regular.distinct).imp ?_)
    intro one other apart same
    exact apart (Place.holding.inj same).2
  unfold places
  cases setting.lastNonce <;> simp [List.nodup_append, numbers]

end TokenSetting.Regular

namespace AccountSetting.Regular

variable {setting : AccountSetting}

theorem nodup_entries (regular : setting.Regular) : (setting.entries.map Prod.fst).Nodup := by
  -- keys for different places are different, so the places are compared instead
  apply List.Nodup.of_map placeOf
  have places : (setting.entries.map Prod.fst).map placeOf =
      setting.tokens.flatMap TokenSetting.places := by
    rw [entries, List.map_map, List.map_flatMap]
    exact List.flatMap_congr fun token listed => (regular.tokens token listed).map_placeOf
  rw [places, List.nodup_flatMap]
  constructor
  · exact fun token listed => (regular.tokens token listed).nodup_places
  · refine (List.pairwise_map.1 regular.distinct).imp ?_
    intro token other apart place one two
    have named := TokenSetting.token?_of_mem_places one
    rw [TokenSetting.token?_of_mem_places two] at named
    exact apart (Option.some.inj named).symm

theorem protected_entry (regular : setting.Regular) {entry : Bytes × Bytes}
    (saved : entry ∈ setting.entries) : Address.isProtected entry.1 = true := by
  obtain ⟨token, listed, part⟩ := List.mem_flatMap.1 saved
  have place : placeOf entry.1 ∈ token.places := by
    rw [← (regular.tokens token listed).map_placeOf]
    exact List.mem_map_of_mem part
  by_contra free
  -- a key that is not the protocol's is no place of a token
  have named := TokenSetting.token?_of_mem_places place
  rw [placeOf_unprotected (Bool.eq_false_iff.2 free)] at named
  cases named

theorem stored_entry (regular : setting.Regular) {entry : Bytes × Bytes}
    (saved : entry ∈ setting.entries) : setting.meant.stored entry.1 = entry.2 := by
  rw [stored_meant, Account.stored_saveAll_of_mem regular.nodup_entries saved]

/-- A key of the protocol is that of an entry of a token, or nothing is stored under it. -/
theorem stored_of_protected {key : Bytes} (regular : setting.Regular)
    (protects : Address.isProtected key = true) (filled : setting.meant.stored key ≠ []) :
    ∃ entry ∈ setting.entries, entry.1 = key := by
  by_contra unsaved
  -- otherwise it is a key that the setting lists in its storage
  rw [stored_meant_of_unsaved fun entry saved same => unsaved ⟨entry, saved, same.symm⟩] at filled
  have found := Account.get?_of_stored_ne_nil filled
  obtain ⟨entry, counts, rfl, -⟩ := get?_plain.1 found
  have free := regular.unprotected entry (mem_of_mem_decisive counts)
  rw [protects] at free
  cases free

end AccountSetting.Regular

/-! ## What the saved entries tell -/

/-- What the entries of a token tell: nothing of a last nonce of zero, and nothing of no roles. -/
def TokenSetting.news (setting : TokenSetting) : List News :=
  let token := setting.identifier.value
  setting.instances.map (fun one =>
    .holding token one.nonce.value (one.meant token setting.isFrozen)) ++
  (setting.lastNonce.map fun nonce =>
    if nonce.value = 0 then News.nothing else .lastNonce token nonce.value).toList ++
  [if setting.roles = [] then .nothing else .roles token (setting.roles.map Utf8.ofString)]

theorem TokenSetting.mem_news {setting : TokenSetting} {one : News} (something : one ≠ .nothing) :
    one ∈ setting.news ↔
      (∃ listed ∈ setting.instances, .holding setting.identifier.value listed.nonce.value
          (listed.meant setting.identifier.value setting.isFrozen) = one) ∨
      (∃ given, setting.lastNonce = some given ∧ given.value ≠ 0 ∧
          .lastNonce setting.identifier.value given.value = one) ∨
      (setting.roles ≠ [] ∧
          .roles setting.identifier.value (setting.roles.map Utf8.ofString) = one) := by
  have tells : ∀ {empty : Prop} [Decidable empty] {told : News},
      (if empty then .nothing else told) = one ↔ ¬empty ∧ told = one := by
    intro empty _ told
    split
    · exact iff_of_false something.symm fun both => both.1 ‹_›
    · exact (and_iff_right ‹_›).symm
  simp only [news, List.mem_append, List.mem_map, Option.mem_toList, Option.map_eq_some_iff,
    List.mem_singleton, or_assoc, tells, @eq_comm News one]

theorem TokenSetting.Regular.map_newsOf {setting : TokenSetting} (regular : setting.Regular)
    (short : ∀ entry ∈ setting.entries, entry.2.length < UInt64.size) :
    setting.entries.map newsOf = setting.news := by
  simp only [entries, List.mem_append, List.mem_map, Option.mem_toList, Option.map_eq_some_iff,
    List.mem_singleton] at short
  simp only [entries, news, List.map_append, List.map_map, List.map_cons, List.map_nil]
  congr 1
  · congr 1
    · apply List.map_congr_left
      intro one listed
      have filled : one.balance.value ≠ 0 := Nat.ne_of_gt (regular.instances one listed).positive
      have brief := short _ (.inl (.inl ⟨one, listed, rfl⟩))
      rw [Function.comp_apply]
      rw [if_neg filled] at brief ⊢
      exact newsOf_write regular.usual _ brief
    · cases setting.lastNonce with
      | none => rfl
      | some nonce => exact congrArg (fun told => [told]) (newsOf_nonceBytes _ nonce.value)
  · have brief := short _ (.inr rfl)
    simp only [List.isEmpty_iff, List.map_eq_nil_iff] at brief ⊢
    congr 1
    split
    · exact newsOf_nil _
    · rename_i some
      rw [if_neg some] at brief
      exact newsOf_writeRoles brief

section News

variable {setting : AccountSetting}

/-- The account of a setting tells what the settings of its tokens tell. -/
theorem AccountSetting.Regular.mem_news (regular : setting.Regular) (short : setting.meant.Short)
    {one : News} (something : one ≠ .nothing) :
    one ∈ setting.meant.news ↔ ∃ token ∈ setting.tokens, one ∈ token.news := by
  have brief : ∀ entry ∈ setting.entries, entry.2.length < UInt64.size :=
    fun entry saved => regular.stored_entry saved ▸ short entry.1
  have told : setting.entries.map newsOf = setting.tokens.flatMap TokenSetting.news := by
    rw [entries, List.map_flatMap]
    refine List.flatMap_congr fun token listed => (regular.tokens token listed).map_newsOf ?_
    exact fun entry saved => brief entry (List.mem_flatMap.2 ⟨token, listed, saved⟩)
  rw [Account.mem_news_of_something something, ← List.mem_flatMap, ← told, List.mem_map]
  -- a key that tells something is one of the protocol, and these are all saved for tokens
  constructor
  · rintro ⟨key, rfl⟩
    have filled : setting.meant.stored key ≠ [] := by
      intro empty
      rw [empty] at something
      exact something (newsOf_nil key)
    have protects : Address.isProtected key = true := by
      by_contra free
      exact something (newsOf_unprotected (Bool.eq_false_iff.2 free))
    obtain ⟨entry, saved, rfl⟩ := regular.stored_of_protected protects filled
    exact ⟨entry, saved, by rw [regular.stored_entry saved]⟩
  · rintro ⟨entry, saved, rfl⟩
    exact ⟨entry.1, by rw [regular.stored_entry saved]⟩

end News

/-! ## What is read back -/

namespace AccountSetting.Regular

variable {setting : AccountSetting} {token : TokenSetting}

section Told

variable {name : Bytes}

theorem holding_mem_news (regular : setting.Regular) (short : setting.meant.Short) {nonce : UInt64}
    {held : Holding} : .holding name nonce held ∈ setting.meant.news ↔
      ∃ token ∈ setting.tokens, token.identifier.value = name ∧
        ∃ one ∈ token.instances, one.nonce.value = nonce ∧ one.meant name token.isFrozen = held := by
  rw [regular.mem_news short (by simp)]
  refine exists_congr fun token => and_congr_right fun _ => ?_
  rw [TokenSetting.mem_news (by simp)]
  constructor
  · rintro (⟨one, there, ⟨⟩⟩ | ⟨_, _, _, ⟨⟩⟩ | ⟨_, ⟨⟩⟩)
    exact ⟨rfl, one, there, rfl, rfl⟩
  · rintro ⟨rfl, one, there, rfl, rfl⟩
    exact .inl ⟨one, there, rfl⟩

theorem roles_mem_news (regular : setting.Regular) (short : setting.meant.Short) {roles : List Bytes} :
    .roles name roles ∈ setting.meant.news ↔ ∃ token ∈ setting.tokens, token.identifier.value = name ∧
      token.roles ≠ [] ∧ token.roles.map Utf8.ofString = roles := by
  rw [regular.mem_news short (by simp)]
  refine exists_congr fun token => and_congr_right fun _ => ?_
  simp [TokenSetting.mem_news, and_left_comm]

theorem lastNonce_mem_news (regular : setting.Regular) (short : setting.meant.Short) {nonce : UInt64} :
    .lastNonce name nonce ∈ setting.meant.news ↔ ∃ token ∈ setting.tokens,
      token.identifier.value = name ∧
        ∃ given, token.lastNonce = some given ∧ given.value ≠ 0 ∧ given.value = nonce := by
  rw [regular.mem_news short (by simp)]
  refine exists_congr fun token => and_congr_right fun _ => ?_
  simp [TokenSetting.mem_news, and_left_comm]

end Told

section Record

theorem token_eq (regular : setting.Regular) (listed : token ∈ setting.tokens) {other : TokenSetting}
    (too : other ∈ setting.tokens) (same : other.identifier.value = token.identifier.value) :
    other = token :=
  List.inj_on_of_nodup_map regular.distinct too listed same

private abbrev record (setting : AccountSetting) (token : Bytes) : Record :=
  (gathered setting.meant.news).getD token .blank

theorem get?_record (regular : setting.Regular) (short : setting.meant.Short)
    (listed : token ∈ setting.tokens) {one : InstanceSetting} (there : one ∈ token.instances) :
    (record setting token.identifier.value).instances.get? one.nonce.value =
      some (one.meant token.identifier.value token.isFrozen) := by
  rcases instance_gathered token.identifier.value one.nonce.value setting.meant.news with
    ⟨held, told, last⟩ | ⟨silent, -⟩
  · obtain ⟨other, too, same, another, here, number, rfl⟩ :=
      (regular.holding_mem_news short).1 told
    obtain rfl := regular.token_eq listed too same
    have distinct := (regular.tokens other too).distinct
    obtain rfl := List.inj_on_of_nodup_map distinct here there number
    exact last
  · -- it cannot be that nothing is told of a listed instance
    refine absurd ?_ (silent (one.meant token.identifier.value token.isFrozen))
    exact (regular.holding_mem_news short).2 ⟨token, listed, rfl, one, there, rfl, rfl⟩

theorem amount_record (regular : setting.Regular) (short : setting.meant.Short) {name : Bytes}
    {nonce : UInt64} (unlisted : ∀ token ∈ setting.tokens, token.identifier.value = name →
      ∀ one ∈ token.instances, one.nonce.value ≠ nonce) : (record setting name).amount nonce = 0 := by
  rcases instance_gathered name nonce setting.meant.news with ⟨held, told, -⟩ | ⟨-, nothing⟩
  · obtain ⟨token, listed, rfl, one, there, rfl, -⟩ := (regular.holding_mem_news short).1 told
    exact absurd rfl (unlisted token listed rfl one there)
  · rw [Record.amount, nothing]
    rfl

theorem roles_record (regular : setting.Regular) (short : setting.meant.Short)
    (listed : token ∈ setting.tokens) :
    (record setting token.identifier.value).roles = token.roles.map Utf8.ofString := by
  rcases roles_gathered token.identifier.value setting.meant.news with told | ⟨silent, nothing⟩
  · obtain ⟨other, too, same, -, roles⟩ := (regular.roles_mem_news short).1 told
    obtain rfl := regular.token_eq listed too same
    exact roles.symm
  · -- no roles are removed instead of stored, and read back as none
    by_cases some : token.roles = []
    · rw [nothing, some, List.map_nil]
    · refine absurd ?_ (silent (token.roles.map Utf8.ofString))
      exact (regular.roles_mem_news short).2 ⟨token, listed, rfl, some, rfl⟩

theorem roles_record_unlisted (regular : setting.Regular) (short : setting.meant.Short) {name : Bytes}
    (unlisted : ∀ token ∈ setting.tokens, token.identifier.value ≠ name) :
    (record setting name).roles = [] := by
  rcases roles_gathered name setting.meant.news with told | ⟨-, nothing⟩
  · obtain ⟨token, listed, same, -⟩ := (regular.roles_mem_news short).1 told
    exact absurd same (unlisted token listed)
  · exact nothing

theorem lastNonce_record (regular : setting.Regular) (short : setting.meant.Short)
    (listed : token ∈ setting.tokens) :
    (record setting token.identifier.value).lastNonce = valueOr 0 token.lastNonce := by
  rcases lastNonce_gathered token.identifier.value setting.meant.news with told | ⟨silent, nothing⟩
  · obtain ⟨other, too, same, given, stands, -, last⟩ := (regular.lastNonce_mem_news short).1 told
    obtain rfl := regular.token_eq listed too same
    rw [stands, ← last]
    rfl
  · rw [nothing]
    cases stands : token.lastNonce with
    | none => rfl
    | some given =>
      by_cases zero : given.value = 0
      · exact zero.symm
      · refine absurd ?_ (silent given.value)
        exact (regular.lastNonce_mem_news short).2 ⟨token, listed, rfl, given, stands, zero, rfl⟩

/-- A frozen flag is kept in the instances, so without an instance it is lost. -/
theorem frozen_record (regular : setting.Regular) (short : setting.meant.Short)
    (listed : token ∈ setting.tokens) :
    (record setting token.identifier.value).frozen = true ↔
      token.isFrozen = true ∧ token.instances ≠ [] := by
  have flags : ∀ one : InstanceSetting,
      (one.meant token.identifier.value token.isFrozen).isFrozen = token.isFrozen := by
    intro one
    cases frozen : token.isFrozen <;> rfl
  rw [frozen_gathered]
  constructor
  · rintro ⟨nonce, held, told, frozen⟩
    obtain ⟨other, too, same, one, there, -, rfl⟩ := (regular.holding_mem_news short).1 told
    obtain rfl := regular.token_eq listed too same
    exact ⟨flags one ▸ frozen, List.ne_nil_of_mem there⟩
  · rintro ⟨frozen, some⟩
    obtain ⟨one, there⟩ := List.exists_mem_of_ne_nil _ some
    refine ⟨one.nonce.value, _, ?_, (flags one).trans frozen⟩
    exact (regular.holding_mem_news short).2 ⟨token, listed, rfl, one, there, rfl, rfl⟩

end Record
end AccountSetting.Regular

/-! ## Everything is as expected -/

open StateCheck

theorem InstanceSetting.Regular.met {setting : InstanceSetting} (regular : setting.Regular)
    (small : (valueOr 0 setting.royalties).toNat < UInt32.size) (token : Bytes) (frozen : Bool) :
    InstanceMet setting.expectation (some (setting.meant token frozen)) := by
  have balance : (Check.exactly setting.balance).accepts setting.balance.value = true :=
    decide_eq_true rfl
  by_cases fungible : setting.nonce.value = 0
  · -- no metadata is stored, and none is expected
    obtain ⟨creator, royalties, hash, uris, attributes⟩ := regular.bare fungible
    have bare : (setting.meant token frozen).metadata = none := if_pos fungible
    constructor
    case balance => exact balance
    all_goals simp only [expectation, creator, royalties, hash, uris, attributes, Option.bind_some, bare]
    all_goals rfl
  · have described : (setting.meant token frozen).metadata = some
        { nonce := setting.nonce.value
          name := token
          creator := valueOr [] setting.creator
          royalties := (valueOr 0 setting.royalties).toUInt32
          hash := valueOr [] setting.hash
          uris := setting.uris.map (·.value)
          attributes := valueOr [] setting.attributes } := if_neg fungible
    have royalties : (valueOr 0 setting.royalties).toUInt32.toUInt64 = valueOr 0 setting.royalties := by
      apply UInt64.toNat_inj.1
      rw [UInt32.toNat_toUInt64, UInt64.toNat_toUInt32]
      exact Nat.mod_eq_of_lt small
    constructor
    case balance => exact balance
    all_goals simp only [expectation, Option.bind_some, described, Option.getD_some]
    case creator => exact Check.accepts_given _ _
    case royalties =>
      rw [royalties]
      exact Check.accepts_given _ _
    case hash => exact Check.accepts_given _ _
    case uris => exact ListCheck.accepts_exactly _
    case attributes => exact Check.accepts_given _ _

/-- A flag that is given is found again. -/
theorem TokenSetting.Regular.frozen_accepts {setting : TokenSetting} (regular : setting.Regular)
    {frozen : Bool} (kept : frozen = true ↔ setting.isFrozen = true ∧ setting.instances ≠ []) :
    (Check.given setting.frozen).accepts (if frozen then 1 else 0) = true := by
  have flag : (if frozen then 1 else 0 : UInt64) = valueOr 0 setting.frozen := by
    rw [isFrozen] at kept
    rcases regular.frozen with zero | ⟨one, some⟩
    · rw [zero] at kept ⊢
      exact if_neg fun set => by simpa using (kept.1 set).1
    · rw [one] at kept ⊢
      exact if_pos (kept.2 ⟨rfl, some⟩)
  rw [flag]
  exact Check.accepts_given _ _

namespace AccountSetting.Regular

variable {setting : AccountSetting}

theorem tokenMet {token : TokenSetting} (regular : setting.Regular) (short : setting.meant.Short)
    (listed : token ∈ setting.tokens)
    (small : ∀ one ∈ token.instances, (valueOr 0 one.royalties).toNat < UInt32.size) :
    TokenMet token.expectation (record setting token.identifier.value) := by
  have own := regular.tokens token listed
  constructor
  · intro part named
    obtain ⟨one, there, rfl⟩ := List.mem_map.1 named
    have read := regular.get?_record short listed there
    change InstanceMet one.expectation (OrdMap.get? _ one.nonce.value)
    rw [read]
    exact (own.instances one there).met (small one there) _ _
  · intro nonce unlisted
    apply regular.amount_record short
    intro other too same one there number
    obtain rfl := regular.token_eq listed too same
    exact unlisted one.expectation (List.mem_map_of_mem there) number
  · constructor
    case lastNonce =>
      rw [TokenSetting.expectation, regular.lastNonce_record short listed]
      exact Check.accepts_given _ _
    case roles =>
      intro role
      rw [TokenSetting.expectation, regular.roles_record short listed]
    case frozen => exact own.frozen_accepts (regular.frozen_record short listed)

theorem tokensMet (regular : setting.Regular) (short : setting.meant.Short)
    (small : ∀ token ∈ setting.tokens, ∀ one ∈ token.instances,
      (valueOr 0 one.royalties).toNat < UInt32.size) :
    TokensMet (setting.tokens.map TokenSetting.expectation) false (gathered setting.meant.news) := by
  constructor
  · intro check expected
    obtain ⟨token, listed, rfl⟩ := List.mem_map.1 expected
    exact regular.tokenMet short listed (small token listed)
  · intro _ name unlisted
    have unnamed : ∀ token ∈ setting.tokens, token.identifier.value ≠ name :=
      fun token listed => unlisted token.expectation (List.mem_map_of_mem listed)
    constructor
    · intro nonce
      apply regular.amount_record short
      exact fun token listed same => absurd same (unnamed token listed)
    · exact regular.roles_record_unlisted short unnamed

/-- Nothing is borrowed for the account of a setting, since its instances have metadata of their own. -/
theorem tokens_meant (regular : setting.Regular) (short : setting.meant.Short) {world : World}
    (found : world.account? setting.address.value = some setting.meant) :
    world.tokens setting.address.value = .ok (gathered setting.meant.news) := by
  have intact := (readable_meant regular.unprotected).intact short
  apply World.tokens_eq found intact
  intro name nonce held told
  obtain ⟨token, -, -, one, -, rfl, rfl⟩ := (regular.holding_mem_news short).1 told
  by_cases fungible : one.nonce.value = 0
  · exact .inl fungible
  · exact .inr (Option.isSome_iff_exists.2 ⟨_, if_neg fungible⟩)

theorem decisive_tokens (regular : setting.Regular) :
    (decisive (·.identifier.value) (setting.tokens.map TokenSetting.expectation)).map
      TokenCheck.decisive = setting.tokens.map TokenSetting.expectation := by
  apply TokenCheck.map_decisive_eq
  · rw [List.map_map]
    exact regular.distinct
  · refine List.forall_mem_map.2 fun token listed => ?_
    rw [TokenSetting.expectation, List.map_map]
    exact (regular.tokens token listed).distinct

theorem fieldsMet (setting : AccountSetting) :
    FieldsMet setting.expectation.decisive setting.meant := by
  constructor
  case codeMetadata =>
    change (Check.given setting.codeMetadata).accepts setting.metadata = true
    unfold AccountSetting.metadata
    cases setting.codeMetadata with
    | none => rfl
    | some written => exact decide_eq_true rfl
  all_goals exact Check.accepts_given _ _

theorem storageMet (regular : setting.Regular) :
    StorageMet (decisive (·.1.value) (setting.storage.map fun entry => (entry.1, .exactly entry.2)))
      false setting.meant := by
  have plain : ∀ key, Address.isProtected key = false →
      setting.meant.stored key = setting.plain.stored key := by
    intro key free
    apply stored_meant_of_unsaved
    rintro entry saved rfl
    rw [regular.protected_entry saved] at free
    cases free
  rw [decisive_map]
  constructor
  · intro check expected free
    obtain ⟨entry, counts, rfl⟩ := List.mem_map.1 expected
    have found := get?_plain.2 ⟨entry, counts, rfl, rfl⟩
    apply decide_eq_true
    rw [plain _ free, Account.stored_of_get? found]
  · intro _ key free unlisted
    have absent : setting.plain.storage.get? key = none := by
      refine Option.eq_none_iff_forall_ne_some.2 fun value found => ?_
      obtain ⟨entry, counts, same, -⟩ := get?_plain.1 found
      exact unlisted _ (List.mem_map_of_mem counts) same
    rw [plain key free, Account.stored_of_missing absent]

/-- The account of a setting is as the setting says, wherever it stands in the ledger. -/
theorem accountMet (regular : setting.Regular) {world : World} {account : Account}
    (converts : setting.toAccount = .ok account) (short : setting.meant.Short)
    (found : world.account? setting.address.value = some setting.meant) :
    AccountMet world setting.expectation.decisive setting.meant := by
  constructor
  case found => exact found
  case fields => exact fieldsMet setting
  case storage =>
    rintro entries moreAllowed ⟨⟩
    exact regular.storageMet
  case tokens =>
    rintro entries moreAllowed ⟨⟩
    refine ⟨gathered setting.meant.news, regular.tokens_meant short found, ?_⟩
    beta_reduce
    rw [regular.decisive_tokens]
    exact regular.tokensMet short (royalties_of_toAccount converts)

end AccountSetting.Regular

namespace Run

variable {σ : Type}

/-- What a step sets in a ledger without accounts, the check of all that the step names accepts. -/
theorem checkState_expectation {step : SetState} {executor after : Executor σ}
    (regular : step.Regular) (empty : executor.world.accounts = .empty)
    (ran : onWorld step.apply id executor = .ok () after) (bounded : after.world.Bounded) :
    checkState step.expectation after = .ok () after := by
  obtain ⟨converts, accounts⟩ := SetState.ok_apply_replacing empty
    (fun setting listed => (regular.accounts setting listed).replaces) regular.distinct
    (ok_onWorld ran).1
  refine checkState_ok.2 ⟨?_, rfl⟩
  constructor
  · intro _ address there _
    obtain ⟨account, found⟩ := Option.isSome_iff_exists.1 there
    obtain ⟨setting, listed, same, -⟩ := (accounts address account).1 found
    exact ⟨setting.expectation.decisive,
      List.mem_map_of_mem (List.mem_map_of_mem listed), same⟩
  · intro expected named
    obtain ⟨_, member, rfl⟩ := List.mem_map.1 named
    obtain ⟨setting, listed, rfl⟩ := List.mem_map.1 member
    have found := (accounts setting.address.value setting.meant).2 ⟨setting, listed, rfl, rfl⟩
    have regular := regular.accounts setting listed
    exact ⟨setting.meant,
      regular.accountMet (converts setting listed) (bounded.short found) found⟩

/-- A step that sets an account with an entry of storage, an amount that is frozen and an instance, and
an account of which nothing is written. -/
def gallery : SetState where
  comment := "gallery"
  accounts := [
    { address := .implied (List.replicate Address.length 1)
      nonce := some (.implied 2)
      balance := some (.implied 7)
      storage := [(.implied (Utf8.ofString "open"), .implied (Utf8.ofString "daily"))]
      tokens := [
        { identifier := .implied (Utf8.ofString "TICKET-123456")
          instances := [{ InstanceSetting.blank with balance := .implied 3 }]
          lastNonce := none
          roles := ["ESDTRoleLocalMint"]
          frozen := some (.implied 1) },
        { identifier := .implied (Utf8.ofString "PICTURE-123456")
          instances := [{ InstanceSetting.blank with
            nonce := .implied 4
            balance := .implied 1
            royalties := some (.implied 500)
            uris := [.implied (Utf8.ofString "left"), .implied (Utf8.ofString "right")] }]
          lastNonce := some (.implied 4)
          roles := []
          frozen := none }] },
    { address := .implied (List.replicate Address.length 2) }]

theorem checkState_expectation_gallery :
    ∃ after, onWorld gallery.apply id (.new Dummy.machine) = .ok () after ∧
      checkState gallery.expectation after = .ok () after := by
  have ended : endedWith (fun _ after => decide after.world.Bounded)
      (onWorld gallery.apply id (.new Dummy.machine)) = true := by decide +kernel
  obtain ⟨⟨⟩, after, ran, bounded⟩ := ok_of_endedWith ended
  refine ⟨after, ran, ?_⟩
  exact checkState_expectation (by decide +kernel) rfl ran (of_decide_eq_true bounded)

end Run
end ChainScenario
