import ChainScenario.Proofs.ResultCheck
import ChainScenario.Proofs.StateCheck
import Mathlib.Logic.Relation

/-!
# Loosening expectations

An expectation is loosened by single changes: a check gives way to one that accepts everything, more
entries are allowed, an entry is dropped where others are allowed, a part is ignored. Each level of an
expectation has a relation with one constructor for each change, and a lemma that what met the
expectation before the change meets it afterwards.

Main statements:
- `passes_of_loosened`: what passed before any number of changes passes after them.
-/
namespace ChainScenario

open StateCheck
open Token (Holding Record Records)

/-! ## One check -/

/-- A check gives way to one that accepts everything. -/
inductive Check.Eased {α : Type} (check : Check α) : Check α → Prop
  | any : Eased check .any
  | unspecified : Eased check .unspecified

theorem Check.Eased.accepts {α : Type} [DecidableEq α] {check looser : Check α}
    (eased : check.Eased looser) (actual : α) : looser.accepts actual = true := by
  cases eased with
  | any => rfl
  | unspecified => rfl

/-! ## One item of a list -/

/-- One item of a list gives way to a related one. -/
inductive Replaced {α : Type} (related : α → α → Prop) : List α → List α → Prop
  | here {item looser : α} {rest : List α} (changed : related item looser) :
      Replaced related (item :: rest) (looser :: rest)
  | behind {first : α} {items looser : List α} (replaced : Replaced related items looser) :
      Replaced related (first :: items) (first :: looser)

namespace Replaced

variable {α β : Type} {related : α → α → Prop} {items looser : List α}

theorem origin (replaced : Replaced related items looser) :
    ∀ item ∈ looser, ∃ entry ∈ items, item = entry ∨ related entry item := by
  induction replaced with
  | here changed =>
    intro item member
    rcases List.mem_cons.1 member with rfl | behind
    · exact ⟨_, List.mem_cons_self, .inr changed⟩
    · exact ⟨item, List.mem_cons_of_mem _ behind, .inl rfl⟩
  | behind _ ih =>
    intro item member
    rcases List.mem_cons.1 member with rfl | behind
    · exact ⟨item, List.mem_cons_self, .inl rfl⟩
    · obtain ⟨entry, there, changed⟩ := ih item behind
      exact ⟨entry, List.mem_cons_of_mem _ there, changed⟩

/-- What the change of an item leaves alone is the same along the list. -/
theorem map_eq {name : α → β} (replaced : Replaced related items looser)
    (same : ∀ entry item, related entry item → name item = name entry) :
    looser.map name = items.map name := by
  induction replaced with
  | here changed => simp [same _ _ changed]
  | behind _ ih => simp [ih]

theorem length_eq (replaced : Replaced related items looser) : looser.length = items.length := by
  induction replaced with
  | here _ => simp
  | behind _ ih => simp [ih]

/-- Items that meet others in order still meet them, where the changed one does. -/
theorem forall_zip (meets : α → β → Prop) {others : List β}
    (replaced : Replaced related items looser)
    (weaker : ∀ entry item other, related entry item → meets entry other → meets item other)
    (met : ∀ pair ∈ items.zip others, meets pair.1 pair.2) :
    ∀ pair ∈ looser.zip others, meets pair.1 pair.2 := by
  induction replaced generalizing others with
  | here changed =>
    cases others with
    | nil => simp
    | cons other rest =>
      simp only [List.zip_cons_cons, List.forall_mem_cons] at met ⊢
      exact ⟨weaker _ _ _ changed met.1, met.2⟩
  | behind _ ih =>
    cases others with
    | nil => simp
    | cons other rest =>
      simp only [List.zip_cons_cons, List.forall_mem_cons] at met ⊢
      exact ⟨met.1, ih met.2⟩

end Replaced

/-- The check of a list is eased as a whole, or that of one item. -/
inductive ListCheck.Eased : ListCheck → ListCheck → Prop
  | whole {check looser : ListCheck} (eased : Check.Eased check looser) : Eased check looser
  | item {items looser : List (Check Bytes)} {source rewritten : Json}
      (replaced : Replaced Check.Eased items looser) :
      Eased (.exactly ⟨items, source⟩) (.exactly ⟨looser, rewritten⟩)

theorem ListCheck.Eased.accepts {check looser : ListCheck} {actual : List Bytes}
    (eased : ListCheck.Eased check looser) (accepted : ListCheck.accepts check actual = true) :
    ListCheck.accepts looser actual = true := by
  cases eased with
  | whole eased =>
    cases eased with
    | any => rfl
    | unspecified => rfl
  | item replaced =>
    obtain ⟨length, each⟩ := (pairwiseAll_iff _ _ _).1 accepted
    refine (pairwiseAll_iff _ _ _).2 ⟨replaced.length_eq.trans length, ?_⟩
    exact replaced.forall_zip (fun check value => Check.accepts check value = true)
      (fun _ _ value eased _ => eased.accepts value) each

/-! ## Listed entries -/

/-- Of listed entries and whether there may be others, either more is allowed, or some are dropped
where others are allowed, or one is loosened. -/
inductive ListingLoosened {α : Type} (related : α → α → Prop) (entries : List α) (more : Bool) :
    List α → Bool → Prop
  | allowed : ListingLoosened related entries more entries true
  | dropped {kept : List α} (allowed : more = true) (part : kept.Sublist entries) :
      ListingLoosened related entries more kept true
  | entry {looser : List α} (replaced : Replaced related entries looser) :
      ListingLoosened related entries more looser more

namespace ListingLoosened

variable {α β : Type} {related : α → α → Prop} {entries kept : List α} {more allowed : Bool}

theorem origin (loosened : ListingLoosened related entries more kept allowed) :
    ∀ item ∈ kept, ∃ entry ∈ entries, item = entry ∨ related entry item := by
  cases loosened with
  | allowed => exact fun item member => ⟨item, member, .inl rfl⟩
  | dropped _ part => exact fun item member => ⟨item, part.subset member, .inl rfl⟩
  | entry replaced => exact replaced.origin

/-- What every entry meets every entry meets afterwards. -/
theorem forall_mem {meets : α → Prop}
    (loosened : ListingLoosened related entries more kept allowed)
    (weaker : ∀ entry item, related entry item → meets entry → meets item)
    (met : ∀ entry ∈ entries, meets entry) : ∀ item ∈ kept, meets item := by
  intro item member
  obtain ⟨entry, there, rfl | changed⟩ := loosened.origin item member
  · exact met item there
  · exact weaker entry item changed (met entry there)

section Named

variable {name : α → β} (same : ∀ entry item, related entry item → name item = name entry)

include same

theorem names (loosened : ListingLoosened related entries more kept allowed) :
    (kept.map name).Sublist (entries.map name) := by
  cases loosened with
  | allowed => exact List.Sublist.refl _
  | dropped _ part => exact part.map name
  | entry replaced =>
    have listed := replaced.map_eq same
    exact listed ▸ List.Sublist.refl (kept.map name)

/-- Where no others are allowed, none were allowed before, and the same names are listed. -/
theorem strict (loosened : ListingLoosened related entries more kept allowed)
    (strict : allowed = false) : more = false ∧ kept.map name = entries.map name := by
  cases loosened with
  | allowed => cases strict
  | dropped => cases strict
  | entry replaced => exact ⟨strict, replaced.map_eq same⟩

/-- What is asked of names that are not listed is asked of no others afterwards. -/
theorem unlisted (asked : β → Prop)
    (loosened : ListingLoosened related entries more kept allowed)
    (met : more = false → ∀ key, (∀ entry ∈ entries, name entry ≠ key) → asked key) :
    allowed = false → ∀ key, (∀ item ∈ kept, name item ≠ key) → asked key := by
  intro closed key apart
  obtain ⟨before, listed⟩ := loosened.strict same closed
  refine met before key (List.forall_mem_map (P := (· ≠ key)) |>.1 ?_)
  rw [← listed]
  exact List.forall_mem_map.2 apart

end Named

end ListingLoosened

/-- Entries are ignored, or their listing is loosened. -/
inductive EntriesCheck.Loosened {α : Type} (related : α → α → Prop) :
    EntriesCheck α → EntriesCheck α → Prop
  | ignored {expected : EntriesCheck α} : Loosened related expected .ignored
  | listed {entries kept : List α} {more allowed : Bool}
      (loosened : ListingLoosened related entries more kept allowed) :
      Loosened related (.listed entries more) (.listed kept allowed)

namespace EntriesCheck.Loosened

variable {α β : Type} {related : α → α → Prop} {expected looser : EntriesCheck α}

/-- What is listed afterwards was listed before, and its listing was loosened. -/
theorem of_listed {kept : List α} {allowed : Bool} (loosened : expected.Loosened related looser)
    (asked : looser = .listed kept allowed) :
    ∃ entries more, expected = .listed entries more ∧
      ListingLoosened related entries more kept allowed := by
  cases loosened with
  | ignored => cases asked
  | listed loosened =>
    cases asked
    exact ⟨_, _, rfl, loosened⟩

theorem names {name : α → β} (loosened : expected.Loosened related looser)
    (same : ∀ entry item, related entry item → name item = name entry) :
    (looser.entries.map name).Sublist (expected.entries.map name) := by
  cases loosened with
  | ignored => exact List.nil_sublist _
  | listed loosened => exact loosened.names same

theorem forall_mem {meets : α → Prop} (loosened : expected.Loosened related looser)
    (weaker : ∀ entry item, related entry item → meets entry → meets item)
    (met : ∀ entry ∈ expected.entries, meets entry) : ∀ item ∈ looser.entries, meets item := by
  cases loosened with
  | ignored => exact fun item member => nomatch member
  | listed loosened => exact loosened.forall_mem weaker met

end EntriesCheck.Loosened

/-! ## Storage -/

/-- The check of an entry of storage is eased. -/
def EntryEased (entry looser : Written Bytes × Check Bytes) : Prop :=
  looser.1 = entry.1 ∧ entry.2.Eased looser.2

theorem EntryEased.key_eq (entry looser : Written Bytes × Check Bytes)
    (eased : EntryEased entry looser) : looser.1.value = entry.1.value :=
  congrArg Written.value eased.1

theorem StateCheck.StorageMet.loosened {entries kept : List (Written Bytes × Check Bytes)}
    {more allowed : Bool} {account : Account} (met : StorageMet entries more account)
    (loosened : ListingLoosened EntryEased entries more kept allowed) :
    StorageMet kept allowed account where
  listed := loosened.forall_mem (fun _ item eased _ _ => eased.2.accepts _) met.listed
  unlisted := by
    intro strict key free apart
    have asked := loosened.unlisted EntryEased.key_eq
      (fun key => Address.isProtected key = false → account.stored key = [])
      fun before key others free => met.unlisted before key free others
    exact asked strict key apart free

/-! ## Tokens -/

/-- One check of an instance is eased. -/
inductive InstanceCheck.Loosened (expected : InstanceCheck) : InstanceCheck → Prop
  | balance {looser : Check Nat} (eased : expected.balance.Eased looser) :
      Loosened expected { expected with balance := looser }
  | creator {looser : Check Bytes} (eased : expected.creator.Eased looser) :
      Loosened expected { expected with creator := looser }
  | royalties {looser : Check UInt64} (eased : expected.royalties.Eased looser) :
      Loosened expected { expected with royalties := looser }
  | hash {looser : Check Bytes} (eased : expected.hash.Eased looser) :
      Loosened expected { expected with hash := looser }
  | uris {looser : ListCheck} (eased : ListCheck.Eased expected.uris looser) :
      Loosened expected { expected with uris := looser }
  | attributes {looser : Check Bytes} (eased : expected.attributes.Eased looser) :
      Loosened expected { expected with attributes := looser }

theorem InstanceCheck.Loosened.nonce_eq (expected looser : InstanceCheck)
    (loosened : expected.Loosened looser) : looser.nonce.value = expected.nonce.value := by
  cases loosened <;> rfl

theorem StateCheck.InstanceMet.loosened {expected looser : InstanceCheck} {actual : Option Holding}
    (met : InstanceMet expected actual) (loosened : expected.Loosened looser) :
    InstanceMet looser actual := by
  cases loosened with
  | balance eased => exact { met with balance := eased.accepts _ }
  | creator eased => exact { met with creator := eased.accepts _ }
  | royalties eased => exact { met with royalties := eased.accepts _ }
  | hash eased => exact { met with hash := eased.accepts _ }
  | uris eased => exact { met with uris := eased.accepts met.uris }
  | attributes eased => exact { met with attributes := eased.accepts _ }

/-- One check of a token is eased, or one of its instances is loosened. -/
inductive TokenCheck.Loosened (expected : TokenCheck) : TokenCheck → Prop
  | lastNonce {looser : Check UInt64} (eased : expected.lastNonce.Eased looser) :
      Loosened expected { expected with lastNonce := looser }
  | frozen {looser : Check UInt64} (eased : expected.frozen.Eased looser) :
      Loosened expected { expected with frozen := looser }
  | instances {looser : List InstanceCheck}
      (replaced : Replaced InstanceCheck.Loosened expected.instances looser) :
      Loosened expected { expected with instances := looser }

namespace TokenCheck.Loosened

theorem identifier_eq (expected looser : TokenCheck) (loosened : TokenCheck.Loosened expected looser) :
    looser.identifier.value = expected.identifier.value := by
  cases loosened <;> rfl

theorem nonces_eq {expected looser : TokenCheck} (loosened : TokenCheck.Loosened expected looser) :
    looser.instances.map (·.nonce.value) = expected.instances.map (·.nonce.value) := by
  cases loosened with
  | lastNonce | frozen => rfl
  | instances replaced => exact replaced.map_eq InstanceCheck.Loosened.nonce_eq

end TokenCheck.Loosened

theorem StateCheck.TokenMet.loosened {expected looser : TokenCheck} {actual : Record}
    (met : TokenMet expected actual) (loosened : TokenCheck.Loosened expected looser) :
    TokenMet looser actual := by
  obtain ⟨listed, unlisted, properties⟩ := met
  cases loosened with
  | lastNonce eased =>
    exact ⟨listed, unlisted, { properties with lastNonce := eased.accepts _ }⟩
  | frozen eased =>
    exact ⟨listed, unlisted, { properties with frozen := eased.accepts _ }⟩
  | instances replaced =>
    -- The instances of a token are a listing that never allows others.
    have among : ListingLoosened InstanceCheck.Loosened expected.instances false _ false :=
      .entry replaced
    refine ⟨among.forall_mem (fun entry item loosened met => ?_) listed, ?_, { properties with }⟩
    · rw [InstanceCheck.Loosened.nonce_eq entry item loosened]
      exact met.loosened loosened
    · exact among.unlisted InstanceCheck.Loosened.nonce_eq (fun nonce => actual.amount nonce = 0)
        (fun _ => unlisted) rfl

theorem StateCheck.TokensMet.loosened {entries kept : List TokenCheck} {more allowed : Bool}
    {records : Records} (met : TokensMet entries more records)
    (loosened : ListingLoosened TokenCheck.Loosened entries more kept allowed) :
    TokensMet kept allowed records where
  listed := by
    refine loosened.forall_mem (fun entry item loosened met => ?_) met.listed
    rw [TokenCheck.Loosened.identifier_eq entry item loosened]
    exact met.loosened loosened
  unlisted := loosened.unlisted TokenCheck.Loosened.identifier_eq
    (fun name => (∀ nonce, (records.getD name .blank).amount nonce = 0) ∧
      (records.getD name .blank).roles = []) met.unlisted

/-! ## Accounts -/

/-- One check of an account is eased, or its storage or its tokens are loosened. -/
inductive AccountCheck.Loosened (expected : AccountCheck) : AccountCheck → Prop
  | nonce {looser : Check UInt64} (eased : expected.nonce.Eased looser) :
      Loosened expected { expected with nonce := looser }
  | balance {looser : Check Nat} (eased : expected.balance.Eased looser) :
      Loosened expected { expected with balance := looser }
  | username {looser : Check Bytes} (eased : expected.username.Eased looser) :
      Loosened expected { expected with username := looser }
  | code {looser : Check Bytes} (eased : expected.code.Eased looser) :
      Loosened expected { expected with code := looser }
  | codeMetadata {looser : Check Bytes} (eased : expected.codeMetadata.Eased looser) :
      Loosened expected { expected with codeMetadata := looser }
  | owner {looser : Check Bytes} (eased : expected.owner.Eased looser) :
      Loosened expected { expected with owner := looser }
  | developerReward {looser : Check Nat} (eased : expected.developerReward.Eased looser) :
      Loosened expected { expected with developerReward := looser }
  | asyncCallData {looser : Check Bytes} (eased : expected.asyncCallData.Eased looser) :
      Loosened expected { expected with asyncCallData := looser }
  | storage {looser : EntriesCheck (Written Bytes × Check Bytes)}
      (loosened : expected.storage.Loosened EntryEased looser) :
      Loosened expected { expected with storage := looser }
  | tokens {looser : EntriesCheck TokenCheck}
      (loosened : expected.tokens.Loosened TokenCheck.Loosened looser) :
      Loosened expected { expected with tokens := looser }

theorem AccountCheck.Loosened.address_eq (expected looser : AccountCheck)
    (loosened : expected.Loosened looser) : looser.address.value = expected.address.value := by
  cases loosened <;> rfl

/-- An expectation that names nothing twice still does not. -/
theorem AccountCheck.Distinct.loosened {expected looser : AccountCheck}
    (distinct : expected.Distinct) (loosened : expected.Loosened looser) : looser.Distinct := by
  obtain ⟨storage, tokens, instances⟩ := distinct
  cases loosened with
  | storage loosened =>
    exact ⟨storage.sublist (loosened.names EntryEased.key_eq), tokens, instances⟩
  | tokens loosened =>
    refine ⟨storage, tokens.sublist (loosened.names TokenCheck.Loosened.identifier_eq), ?_⟩
    refine loosened.forall_mem (fun entry item loosened distinct => ?_) instances
    rw [loosened.nonces_eq]
    exact distinct
  | nonce | balance | username | code | codeMetadata | owner | developerReward | asyncCallData =>
    exact ⟨storage, tokens, instances⟩

theorem StateCheck.AccountMet.loosened {world : World} {expected looser : AccountCheck}
    {account : Account} (met : AccountMet world expected account)
    (loosened : expected.Loosened looser) : AccountMet world looser account := by
  obtain ⟨found, fields, storage, tokens⟩ := met
  cases loosened with
  | nonce eased => exact ⟨found, { fields with nonce := eased.accepts _ }, storage, tokens⟩
  | balance eased => exact ⟨found, { fields with balance := eased.accepts _ }, storage, tokens⟩
  | username eased => exact ⟨found, { fields with username := eased.accepts _ }, storage, tokens⟩
  | code eased => exact ⟨found, { fields with code := eased.accepts _ }, storage, tokens⟩
  | codeMetadata eased =>
    exact ⟨found, { fields with codeMetadata := eased.accepts _ }, storage, tokens⟩
  | owner eased => exact ⟨found, { fields with owner := eased.accepts _ }, storage, tokens⟩
  | developerReward eased =>
    exact ⟨found, { fields with developerReward := eased.accepts _ }, storage, tokens⟩
  | asyncCallData eased =>
    exact ⟨found, { fields with asyncCallData := eased.accepts _ }, storage, tokens⟩
  | storage loosened =>
    refine ⟨found, { fields with }, fun kept allowed asked => ?_, tokens⟩
    obtain ⟨entries, more, before, listing⟩ := loosened.of_listed asked
    exact (storage entries more before).loosened listing
  | tokens loosened =>
    refine ⟨found, { fields with }, storage, fun kept allowed asked => ?_⟩
    obtain ⟨entries, more, before, listing⟩ := loosened.of_listed asked
    obtain ⟨records, read, held⟩ := tokens entries more before
    exact ⟨records, read, held.loosened listing⟩

/-! ## Steps -/

/-- The listing of the accounts is loosened. -/
inductive CheckState.Loosened (step : CheckState) : CheckState → Prop
  | accounts {kept : List AccountCheck} {allowed : Bool}
      (loosened : ListingLoosened AccountCheck.Loosened step.accounts step.moreAllowed kept allowed) :
      Loosened step { step with accounts := kept, moreAllowed := allowed }

namespace CheckState

variable {step looser : CheckState} {world : World}

theorem Met.loosened (met : step.Met world) (loosened : step.Loosened looser) :
    looser.Met world := by
  obtain ⟨listing⟩ := loosened
  constructor
  case unlisted =>
    intro strict address there apart
    obtain ⟨before, named⟩ := listing.strict AccountCheck.Loosened.address_eq strict
    have listed := List.mem_map.2 (met.unlisted before address there apart)
    rw [← named] at listed
    exact List.mem_map.1 listed
  case listed =>
    refine listing.forall_mem (fun entry item loosened met => ?_) met.listed
    obtain ⟨account, holds⟩ := met
    exact ⟨account, holds.loosened loosened⟩

theorem distinct_of_loosened (distinct : ∀ expected ∈ step.accounts, expected.Distinct)
    (loosened : step.Loosened looser) : ∀ expected ∈ looser.accounts, expected.Distinct := by
  obtain ⟨listing⟩ := loosened
  exact listing.forall_mem (fun _ _ loosened distinct => distinct.loosened loosened) distinct

/-- Any number of changes leave a step met, and name nothing twice. -/
theorem Met.all_loosened (met : step.Met world)
    (distinct : ∀ expected ∈ step.accounts, expected.Distinct)
    (changes : Relation.ReflTransGen Loosened step looser) :
    looser.Met world ∧ ∀ expected ∈ looser.accounts, expected.Distinct := by
  induction changes with
  | refl => exact ⟨met, distinct⟩
  | tail _ loosened ih => exact ⟨ih.1.loosened loosened, distinct_of_loosened ih.2 loosened⟩

end CheckState

/-! ## Results -/

/-- One check of a log entry is eased. -/
inductive LogCheck.Loosened (expected : LogCheck) : LogCheck → Prop
  | address {looser : Check Bytes} (eased : expected.address.Eased looser) :
      Loosened expected { expected with address := looser }
  | identifier {looser : Check Bytes} (eased : expected.identifier.Eased looser) :
      Loosened expected { expected with identifier := looser }
  | topics {looser : ListCheck} (eased : ListCheck.Eased expected.topics looser) :
      Loosened expected { expected with topics := looser }
  | data {looser : ListCheck} (eased : ListCheck.Eased expected.data looser) :
      Loosened expected { expected with data := looser }

theorem LogCheck.Met.loosened {expected looser : LogCheck} {actual : LogEntry}
    (met : expected.Met actual) (loosened : expected.Loosened looser) : looser.Met actual := by
  cases loosened with
  | address eased => exact { met with address := eased.accepts _ }
  | identifier eased => exact { met with identifier := eased.accepts _ }
  | topics eased => exact { met with topics := eased.accepts met.topics }
  | data eased => exact { met with data := eased.accepts met.data }

/-- Nothing is expected of the log any more, or more entries are allowed, or the last ones are dropped
where others are allowed, or one is loosened. -/
inductive LogsCheck.Loosened : LogsCheck → LogsCheck → Prop
  | unspecified {expected : LogsCheck} : Loosened expected .unspecified
  | any {expected : LogsCheck} : Loosened expected .any
  | allowed {checks : List LogCheck} {more : Bool} :
      Loosened (.entries checks more) (.entries checks true)
  | dropped {kept last : List LogCheck} :
      Loosened (.entries (kept ++ last) true) (.entries kept true)
  | entry {checks looser : List LogCheck} {more : Bool}
      (replaced : Replaced LogCheck.Loosened checks looser) :
      Loosened (.entries checks more) (.entries looser more)

theorem mem_zip_append {α β : Type} {front back : List α} {others : List β} {pair : α × β}
    (member : pair ∈ front.zip others) : pair ∈ (front ++ back).zip others := by
  induction front generalizing others with
  | nil => simp at member
  | cons first rest ih =>
    cases others with
    | nil => simp at member
    | cons other behind =>
      rw [List.cons_append, List.zip_cons_cons]
      rcases List.mem_cons.1 member with rfl | later
      · exact List.mem_cons_self
      · exact List.mem_cons_of_mem _ (ih later)

theorem LogsCheck.Met.loosened {expected looser : LogsCheck} {actual : List LogEntry}
    (met : expected.Met actual) (loosened : expected.Loosened looser) : looser.Met actual := by
  cases loosened with
  | unspecified => trivial
  | any => trivial
  | allowed =>
    obtain ⟨enough, -, each⟩ := met
    exact ⟨enough, nofun, each⟩
  | dropped =>
    obtain ⟨enough, -, each⟩ := met
    rw [List.length_append] at enough
    exact ⟨by omega, nofun, fun pair member => each pair (mem_zip_append member)⟩
  | entry replaced =>
    obtain ⟨enough, exact, each⟩ := met
    have length := replaced.length_eq
    refine ⟨by omega, fun strict => length.trans (exact strict), ?_⟩
    exact replaced.forall_zip LogCheck.Met (fun _ _ _ loosened met => met.loosened loosened) each

/-- One check of a result is eased, or the expected log is loosened. -/
inductive Expectation.Loosened (expected : Expectation) : Expectation → Prop
  | out {looser : ListCheck} (eased : ListCheck.Eased expected.out looser) :
      Loosened expected { expected with out := looser }
  | status {looser : Check Nat} (eased : expected.status.Eased looser) :
      Loosened expected { expected with status := looser }
  | message {looser : Check Bytes} (eased : expected.message.Eased looser) :
      Loosened expected { expected with message := looser }
  | gas {looser : Check UInt64} (eased : expected.gas.Eased looser) :
      Loosened expected { expected with gas := looser }
  | refund {looser : Check Nat} (eased : expected.refund.Eased looser) :
      Loosened expected { expected with refund := looser }
  | logs {looser : LogsCheck} (loosened : expected.logs.Loosened looser) :
      Loosened expected { expected with logs := looser }

namespace Expectation

variable {expected looser : Expectation} {checkGas : Bool} {actual : CallOutput}

theorem Met.loosened (met : expected.Met checkGas actual) (loosened : expected.Loosened looser) :
    looser.Met checkGas actual := by
  cases loosened with
  | out eased => exact { met with out := eased.accepts met.out }
  | status eased => exact { met with status := eased.accepts _ }
  | message eased => exact { met with message := eased.accepts _ }
  | gas eased => exact { met with gas := fun _ => eased.accepts _ }
  | refund eased => exact { met with refund := eased.accepts _ }
  | logs loosened => exact { met with logs := met.logs.loosened loosened }

/-- Any number of changes leave an expectation met. -/
theorem Met.all_loosened (met : expected.Met checkGas actual)
    (changes : Relation.ReflTransGen Loosened expected looser) : looser.Met checkGas actual := by
  induction changes with
  | refl => exact met
  | tail _ loosened ih => exact ih.loosened loosened

end Expectation

/-! ## What passed passes -/

namespace Run

variable {σ : Type}

/-- To loosen an expectation never makes a test fail: a step that names nothing twice and ended well
ends well after any number of changes, and a result that was accepted is accepted after them. -/
theorem passes_of_loosened :
    (∀ (executor : Executor σ) (step looser : CheckState),
      (∀ expected ∈ step.accounts, expected.Distinct) →
      Relation.ReflTransGen CheckState.Loosened step looser →
      (∃ after, checkState step executor = .ok () after) →
      checkState looser executor = .ok () executor) ∧
    ∀ (checkGas : Bool) (expected looser : Expectation) (output : CallOutput),
      Relation.ReflTransGen Expectation.Loosened expected looser →
      ResultCheck.compare checkGas expected output = .ok () →
      ResultCheck.compare checkGas looser output = .ok () := by
  constructor
  · intro executor step looser distinct changes passed
    have met := (checkState_iff distinct executor).1 passed
    obtain ⟨holds, apart⟩ := met.all_loosened distinct changes
    rw [← CheckState.decisive_eq apart] at holds
    exact checkState_ok.2 ⟨holds, rfl⟩
  · intro checkGas expected looser output changes accepted
    have met := ResultCheck.compare_ok.1 accepted
    exact ResultCheck.compare_ok.2 (met.all_loosened changes)

/-- The strongbox passes with any value under its key, and a result without a log where more entries
are allowed. -/
theorem passes_of_loosened_strongbox :
    checkState (strongboxCheck [(.implied (Utf8.ofString "k"), .any)]) (.alone strongbox) =
      .ok () (.alone strongbox) ∧
    ResultCheck.compare true { Expectation.success with logs := .entries [] true } .success =
      .ok () := by
  obtain ⟨states, results⟩ := passes_of_loosened (σ := Dummy)
  constructor
  · have eased : EntryEased (.implied (Utf8.ofString "k"), .implied (Utf8.ofString "b"))
        (.implied (Utf8.ofString "k"), .any) := ⟨rfl, .any⟩
    have loosened : CheckState.Loosened
        (strongboxCheck [(.implied (Utf8.ofString "k"), .implied (Utf8.ofString "b"))])
        (strongboxCheck [(.implied (Utf8.ofString "k"), .any)]) :=
      .accounts (.entry (.here (.storage (.listed (.entry (.here eased))))))
    refine states (.alone strongbox) _ _ (fun expected named => ?_) (.single loosened) ?_
    · obtain rfl := List.mem_singleton.1 named
      refine ⟨by decide +kernel, by decide +kernel, fun check listed => ?_⟩
      obtain rfl := List.mem_singleton.1 listed
      decide +kernel
    · have ended : endedWith (fun _ _ => true) (checkState (strongboxCheck
          [(.implied (Utf8.ofString "k"), .implied (Utf8.ofString "b"))]) (.alone strongbox)) =
          true := by
        decide +kernel
      obtain ⟨_, after, ran, -⟩ := ok_of_endedWith ended
      exact ⟨after, ran⟩
  · exact results true { Expectation.success with logs := .entries [] false } _ .success
      (.single (.logs .allowed)) rfl

end Run
end ChainScenario
