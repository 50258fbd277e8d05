import ChainScenario.Proofs.Literals

/-!
# Tokens that are set and tokens that are expected

The two readers of a token go through its fields in step: what one of them sets, the other expects, and
nothing is expected where nothing was written. Main statement: `tokenCheck_restates`, a token that can be
set can also be expected, and the expectation is of exactly what would be set.
-/
namespace ChainScenario

/-- The value of the last field of a name. -/
def Json.lastField? (name : String) (fields : List (String × Json)) : Option Json :=
  fields.foldl (fun found field => if field.1 = name then some field.2 else found) none

@[simp] theorem Json.lastField?_nil (name : String) : lastField? name [] = none := rfl

@[simp] theorem Json.lastField?_append (name key : String) (value : Json)
    (fields : List (String × Json)) :
    lastField? name (fields ++ [(key, value)]) =
      if key = name then some value else lastField? name fields := by
  simp [lastField?]

open Json (lastField?)

/-- A check expects exactly what was read from a field, or nothing if the field was not written. -/
def Check.Restates {α : Type} (check : Check α) (source : Option Json) (read : Option (Written α)) :
    Prop :=
  match source with
  | some source => ∃ written, read = some written ∧ written.source = source ∧ check = .exactly written
  | none => check = .unspecified

theorem Check.restates_exactly {α : Type} {source : Json} {written : Written α}
    (same : written.source = source) :
    (Check.exactly written).Restates (some source) (some written) :=
  ⟨written, rfl, same, rfl⟩

/-- What is expected of an instance is what its fields set. -/
structure InstanceCheck.Restates (check : InstanceCheck) (fields : List (String × Json))
    (setting : InstanceSetting) : Prop where
  nonce : check.nonce = setting.nonce
  balance : check.balance.Restates (lastField? "balance" fields) (some setting.balance)
  creator : check.creator.Restates (lastField? "creator" fields) setting.creator
  royalties : check.royalties.Restates (lastField? "royalties" fields) setting.royalties
  hash : check.hash.Restates (lastField? "hash" fields) setting.hash
  uris : check.uris.Restates (lastField? "uri" fields)
    ((lastField? "uri" fields).map (⟨setting.uris.map .exactly, ·⟩))
  attributes : check.attributes.Restates (lastField? "attributes" fields) setting.attributes

/-- Instance by instance, what is expected is what the fields of the instance set. -/
inductive AllRestate :
    List InstanceCheck → List (List (String × Json)) → List InstanceSetting → Prop
  | nil : AllRestate [] [] []
  | cons {check fields setting checks written settings} :
    check.Restates fields setting → AllRestate checks written settings →
      AllRestate (check :: checks) (fields :: written) (setting :: settings)

namespace AllRestate

variable {checks others : List InstanceCheck} {written behind : List (List (String × Json))}
  {settings rest : List InstanceSetting}

theorem append (first : AllRestate checks written settings) (second : AllRestate others behind rest) :
    AllRestate (checks ++ others) (written ++ behind) (settings ++ rest) := by
  induction first with
  | nil => exact second
  | cons one _ ih => exact .cons one ih

theorem nonces (all : AllRestate checks written settings) :
    checks.map (·.nonce) = settings.map (·.nonce) := by
  induction all with
  | nil => rfl
  | cons one _ ih => rw [List.map_cons, List.map_cons, one.nonce, ih]

end AllRestate

namespace Scenario.Reader

open Expression (Context)

/-- The objects of a list of instances. -/
def listedInstances (value : Json) : List (List (String × Json)) :=
  (value.asArray?.getD []).map fun item => item.asObject?.getD []

/-- Whether a field of an instance stands among the fields. -/
def writesInstance (fields : List (String × Json)) : Bool :=
  fields.any (instanceNames.contains ·.1)

/-- The fields of each instance of a token: a text is the balance of the only one; beside the listed
ones, the fields of an instance in the token itself make up a first one. -/
def writtenInstances : Json → List (List (String × Json))
  | .object fields =>
    (if writesInstance fields then [fields] else []) ++
      ((lastField? "instances" fields).map listedInstances).getD []
  | value => [[("balance", value)]]

/-- The value of a field of a token that is an object. -/
def ownField? (name : String) (value : Json) : Option Json :=
  value.asObject?.bind (lastField? name)

end Scenario.Reader

open Scenario.Reader (writtenInstances ownField?)

/-- What is expected of a token is what the same text sets. -/
structure TokenCheck.Restates (check : TokenCheck) (value : Json) (setting : TokenSetting) : Prop where
  identifier : check.identifier = setting.identifier
  instances : AllRestate check.instances (writtenInstances value) setting.instances
  lastNonce : check.lastNonce.Restates (ownField? "lastNonce" value) setting.lastNonce
  roles : check.roles = setting.roles
  frozen : check.frozen.Restates (ownField? "frozen" value) setting.frozen

namespace Scenario.Reader

open Expression (Context)

variable {context : Context} {value : Json}

section Values

variable {α : Type}

/-- A single star is no value. -/
theorem expressed_star (context : Context) {bytes : Bytes} :
    expressed context "*" ≠ .ok bytes := by
  have plain : ∀ c ∈ "*".toList, c ∉ Expression.reserved := by simp [Expression.reserved]
  rw [expressed, Expression.interpret, Expression.interpretChars_of_plain plain (by decide)]
  intro same
  cases same

/-- A reader takes no star for a value and keeps the source. -/
def Faithful (read : Json → Except Fault (Written α)) : Prop :=
  ∀ value given, read value = .ok given → isStar value = false ∧ given.source = value

theorem isStar_string {text : String} {bytes : Bytes} (ran : expressed context text = .ok bytes) :
    isStar (.string text) = false := by
  have other : text ≠ "*" := by
    rintro rfl
    exact expressed_star context ran
  simpa [isStar, Json.asString?] using other

theorem isStar_of_numberText {text : String} {bytes : Bytes} (spelled : numberText value = .ok text)
    (means : expressed context text = .ok bytes) : isStar value = false := by
  cases value with
  | string content =>
    obtain rfl := Except.ok.inj spelled
    exact isStar_string means
  | _ => rfl

theorem faithful_natural : Faithful (natural context) := by
  intro value given ran
  obtain ⟨text, spelled, rest⟩ := except_bind.1 ran
  obtain ⟨bytes, means, same⟩ := except_bind.1 rest
  obtain rfl := Except.ok.inj same
  exact ⟨isStar_of_numberText spelled means, rfl⟩

theorem faithful_word : Faithful (word context) := by
  intro value given ran
  obtain ⟨text, spelled, rest⟩ := except_bind.1 ran
  obtain ⟨bytes, means, rest⟩ := except_bind.1 rest
  refine ⟨isStar_of_numberText spelled means, ?_⟩
  dsimp only at rest
  split at rest
  · obtain rfl := Except.ok.inj rest
    rfl
  · cases rest

theorem faithful_treeBytes : Faithful (treeBytes context) := by
  intro value given ran
  obtain ⟨bytes, means, same⟩ := except_bind.1 ran
  obtain rfl := Except.ok.inj same
  cases value with
  | string content => exact ⟨isStar_string means, rfl⟩
  | _ => exact ⟨rfl, rfl⟩

/-- What one reader reads the other expects, with the same source. -/
def Mirrors (read : Json → Except Fault (Written α)) (expect : Json → Except Fault (Check α)) : Prop :=
  ∀ value given, read value = .ok given → expect value = .ok (.exactly given) ∧ given.source = value

theorem Faithful.mirrors {read : Json → Except Fault (Written α)} (faithful : Faithful read) :
    Mirrors read (check read) := by
  intro value given ran
  obtain ⟨notStar, source⟩ := faithful value given ran
  refine ⟨?_, source⟩
  rw [check, notStar, ran]
  rfl

theorem within_of_ok {part : String} {result : Except Fault α} {given : α} (ran : result = .ok given) :
    within part result = .ok given :=
  ok_mapError.2 ran

theorem map_of_ok {β : Type} {result : Except Fault α} {next : α → β} {given : α}
    (ran : result = .ok given) : result.map next = .ok (next given) :=
  ok_map.2 ⟨given, ran, rfl⟩

theorem Mirrors.within {read : Json → Except Fault (Written α)}
    {expect : Json → Except Fault (Check α)} (mirrors : Mirrors read expect) (part : String) :
    Mirrors (fun value => within part (read value)) (fun value => within part (expect value)) := by
  intro value given ran
  obtain ⟨expected, source⟩ := mirrors value given (within_ok ran)
  exact ⟨within_of_ok expected, source⟩

/-- The bytes of a text are those of the value that the text is. -/
theorem treeBytes_of_bytes {given : Written Bytes} (ran : bytes context value = .ok given) :
    treeBytes context value = .ok given := by
  obtain ⟨text, spelled, rest⟩ := except_bind.1 ran
  cases value with
  | string content =>
    obtain rfl := Except.ok.inj spelled
    exact rest
  | _ => cases spelled

theorem mirrors_bytes : Mirrors (bytes context) (bytesCheck context) :=
  fun value given ran => faithful_treeBytes.mirrors value given (treeBytes_of_bytes ran)

theorem mirrors_royalties : Mirrors (royalties context) (royaltiesCheck context) := by
  intro value given ran
  obtain ⟨read, means, rest⟩ := except_bind.1 ran
  obtain ⟨_, inRange, same⟩ := except_bind.1 rest
  obtain rfl := Except.ok.inj same
  obtain ⟨expected, source⟩ :=
    faithful_word.mirrors.within "invalid ESDT NFT royalties" value read means
  exact ⟨except_bind.2 ⟨_, expected, except_bind.2 ⟨_, inRange, rfl⟩⟩, source⟩

/-- The links of an instance are expected one by one, in the same order. -/
theorem listCheck_of_uris {links : List (Written Bytes)} (ran : uris context value = .ok links) :
    listCheck context value = .ok (.exactly ⟨links.map .exactly, value⟩) := by
  unfold uris at ran
  split at ran
  · rename_i items
    have checks : items.mapM (bytesCheck context) = .ok (links.map .exactly) :=
      mapM_ok_iff.2 (List.forall₂_map_right_iff.2 ((mapM_ok_iff.1 ran).imp
        fun item given means => (faithful_treeBytes.mirrors item given means).1))
    rw [listCheck, isStar, if_neg (by simp [Json.asString?])]
    exact map_of_ok checks
  · obtain rfl := Except.ok.inj ran
    rfl
  · rename_i notList notEmpty
    obtain ⟨given, means, rfl⟩ := ok_map.1 ran
    unfold listCheck
    rw [(faithful_treeBytes value given means).1, if_neg Bool.false_ne_true]
    split
    · exact (notList _ rfl).elim
    · exact (notEmpty rfl).elim
    · exact map_of_ok (faithful_treeBytes.mirrors value given means).1

end Values

section Steps

variable {α β : Type} {name : String}

/-- Two readers whose fields keep a relation keep it over all fields. -/
theorem readFields_alike {record other : Record} {readers : FieldReaders α}
    {others : FieldReaders β} {alike : List (String × Json) → α → β → Prop}
    (each : ∀ done name value target twin reader result,
      alike done target twin → readers name = some reader → reader value target = .ok result →
        ∃ mirror next, others name = some mirror ∧ mirror value twin = .ok next ∧
          alike (done ++ [(name, value)]) result next)
    {done fields : List (String × Json)} {blank result : α} {start : β} (begun : alike done blank start)
    (read : readFields record readers blank fields = .ok result) :
    ∃ final, readFields other others start fields = .ok final ∧ alike (done ++ fields) result final := by
  -- By induction on the fields; the relation speaks of those that were read before.
  induction fields generalizing done blank start with
  | nil =>
    obtain rfl : blank = result := Except.ok.inj read
    exact ⟨start, rfl, by rwa [List.append_nil]⟩
  | cons field rest ih =>
    obtain ⟨reader, next, known, step, read⟩ := readFields_cons.1 read
    obtain ⟨mirror, middle, mirrored, stepped, still⟩ := each _ _ _ _ _ _ _ begun known step
    obtain ⟨final, ran, alike⟩ := ih still read
    exact ⟨final, readFields_cons.2 ⟨mirror, middle, mirrored, stepped, ran⟩, by simpa using alike⟩

/-- What a field sets in an instance is expected by the field of the same name. -/
theorem instanceCheck_step {done : List (String × Json)} {setting result : InstanceSetting}
    {check : InstanceCheck} {reader : Json → InstanceSetting → Except Fault InstanceSetting}
    (alike : check.Restates done setting) (known : instanceSetting context name = some reader)
    (ran : reader value setting = .ok result) :
    ∃ mirror next, instanceCheck context name = some mirror ∧ mirror value check = .ok next ∧
      InstanceCheck.Restates next (done ++ [(name, value)]) result := by
  obtain ⟨nonce, balance, creator, royalties, hash, uris, attributes⟩ := alike
  unfold instanceSetting at known
  split at known
  case h_1 =>
    obtain ⟨given, reads, rfl⟩ := setting_ok known ran
    refine ⟨_, _, rfl, map_of_ok reads, ?_⟩
    constructor <;> simp <;> assumption
  case h_2 =>
    obtain ⟨given, reads, rfl⟩ := setting_ok known ran
    obtain ⟨expected, source⟩ := faithful_natural.mirrors.within _ value given reads
    have own := Check.restates_exactly source
    refine ⟨_, _, rfl, map_of_ok expected, ?_⟩
    constructor <;> simp <;> assumption
  case h_3 | h_5 =>
    obtain ⟨given, reads, rfl⟩ := setting_ok known ran
    obtain ⟨expected, source⟩ := mirrors_bytes.within _ value given reads
    have own := Check.restates_exactly source
    refine ⟨_, _, rfl, map_of_ok expected, ?_⟩
    constructor <;> simp <;> assumption
  case h_4 =>
    obtain ⟨given, reads, rfl⟩ := setting_ok known ran
    obtain ⟨expected, source⟩ := mirrors_royalties value given reads
    have own := Check.restates_exactly source
    refine ⟨_, _, rfl, map_of_ok expected, ?_⟩
    constructor <;> simp <;> assumption
  case h_6 =>
    obtain ⟨given, reads, rfl⟩ := setting_ok known ran
    have own : Check.Restates (.exactly ⟨given.map Check.exactly, value⟩) (some value) _ :=
      Check.restates_exactly rfl
    refine ⟨_, _, rfl, map_of_ok (within_of_ok (listCheck_of_uris (within_ok reads))), ?_⟩
    constructor <;> simp <;> assumption
  case h_7 =>
    obtain ⟨given, reads, rfl⟩ := setting_ok known ran
    obtain ⟨expected, source⟩ := faithful_treeBytes.mirrors.within _ value given reads
    have own := Check.restates_exactly source
    refine ⟨_, _, rfl, map_of_ok expected, ?_⟩
    constructor <;> simp <;> assumption
  case h_8 => cases known

theorem restates_blank : (InstanceCheck.blank (.implied 0)).Restates [] .blank := by
  constructor <;> rfl

/-- An item of the list of instances can be expected if it can be set. -/
theorem item_restates {setting : InstanceSetting}
    (ran : (settingForm context).item value = .ok setting) :
    ∃ check, (checkForm context).item value = .ok check ∧
      check.Restates (value.asObject?.getD []) setting := by
  cases value with
  | object fields =>
    have each : ∀ done name value setting check reader result,
        InstanceCheck.Restates check done setting →
        (settingForm context).itemField name = some reader → reader value setting = .ok result →
          ∃ mirror next, (checkForm context).itemField name = some mirror ∧
            mirror value check = .ok next ∧ next.Restates (done ++ [(name, value)]) result := by
      intro done name value setting check reader result alike known ran
      obtain ⟨own, owned, rfl⟩ := Option.map_eq_some_iff.1 known
      obtain ⟨mirror, next, mirrored, stepped, still⟩ := instanceCheck_step alike owned ran
      refine ⟨_, next, Option.map_eq_some_iff.2 ⟨mirror, mirrored, rfl⟩, ?_, still⟩
      simp only [checkForm, stepped]
      rfl
    obtain ⟨check, read, alike⟩ := readFields_alike each restates_blank ran
    exact ⟨check, read, alike⟩
  | _ => cases ran

theorem mapM_item_restates {items : List Json} {settings : List InstanceSetting}
    (ran : items.mapM (settingForm context).item = .ok settings) :
    ∃ checks, items.mapM (checkForm context).item = .ok checks ∧
      AllRestate checks (items.map fun item => item.asObject?.getD []) settings := by
  have each := mapM_ok_iff.1 ran
  clear ran
  induction each with
  | nil => exact ⟨[], rfl, .nil⟩
  | cons first _ ih =>
    obtain ⟨check, read, alike⟩ := item_restates first
    obtain ⟨checks, others, behind⟩ := ih
    exact ⟨check :: checks, mapM_ok_iff.2 (.cons read (mapM_ok_iff.1 others)), .cons alike behind⟩

theorem items_restate {settings : List InstanceSetting}
    (ran : (settingForm context).items value = .ok settings) :
    ∃ checks, (checkForm context).items value = .ok checks ∧
      AllRestate checks (listedInstances value) settings := by
  cases value with
  | array items => exact mapM_item_restates ran
  | _ => cases ran

end Steps

section Tokens

/-- What is read so far of a token that is expected is what is read so far of one that is set. -/
structure DraftRestates (done : List (String × Json))
    (draft : TokenDraft InstanceSetting (Option (Written UInt64)))
    (twin : TokenDraft InstanceCheck (Check UInt64)) : Prop where
  direct : (twin.direct.getD (.blank (.implied 0))).Restates done (draft.direct.getD .blank)
  written : draft.direct.isSome = writesInstance done
  expected : twin.direct.isSome = writesInstance done
  listed : AllRestate twin.listed (((lastField? "instances" done).map listedInstances).getD [])
    draft.listed
  lastNonce : twin.lastNonce.Restates (lastField? "lastNonce" done) draft.lastNonce
  roles : twin.roles = draft.roles
  frozen : twin.frozen.Restates (lastField? "frozen" done) draft.frozen

/-- A field that is not one of an instance leaves what is read of the first instance. -/
theorem restates_other {check : InstanceCheck} {done : List (String × Json)} {name : String}
    {setting : InstanceSetting} (value : Json) (other : name ∉ instanceNames)
    (alike : check.Restates done setting) :
    check.Restates (done ++ [(name, value)]) setting := by
  simp only [instanceNames, List.mem_cons, not_or] at other
  obtain ⟨nonce, balance, creator, royalties, hash, uris, attributes⟩ := alike
  constructor <;> simp_all

theorem counter_restates {given : Option (Written UInt64)}
    (ran : (settingForm context).counter value = .ok given) :
    ∃ check, (checkForm context).counter value = .ok check ∧ check.Restates (some value) given := by
  obtain ⟨number, means, rfl⟩ := ok_map.1 ran
  obtain ⟨expected, source⟩ := faithful_word.mirrors value number means
  exact ⟨_, expected, Check.restates_exactly source⟩

/-- A field of an instance is read into the first instance. -/
theorem TokenForm.field_of_instance {ι κ : Type} {form : TokenForm ι κ} {name : String}
    {own : Json → ι → Except Fault ι} (owned : form.instanceField name = some own) :
    ∃ reader, form.field name = some reader ∧ ∀ value draft direct,
      own value (draft.direct.getD form.blank) = .ok direct →
        reader value draft = .ok { draft with direct := some direct } := by
  unfold TokenForm.field
  rw [owned]
  refine ⟨_, rfl, fun value draft direct ran => ?_⟩
  rw [ran]
  rfl

theorem draftRestates_step {done : List (String × Json)} {name : String}
    {draft result : TokenDraft InstanceSetting (Option (Written UInt64))}
    {twin : TokenDraft InstanceCheck (Check UInt64)}
    {reader : Json → TokenDraft InstanceSetting (Option (Written UInt64)) → Except Fault _}
    (alike : DraftRestates done draft twin) (known : (settingForm context).field name = some reader)
    (ran : reader value draft = .ok result) :
    ∃ mirror next, (checkForm context).field name = some mirror ∧ mirror value twin = .ok next ∧
      DraftRestates (done ++ [(name, value)]) result next := by
  obtain ⟨direct, written, expected, listed, lastNonce, roles, frozen⟩ := alike
  unfold TokenForm.field at known
  split at known
  case h_1 own owned =>
    obtain rfl := Option.some.inj known
    obtain ⟨given, set, same⟩ := except_bind.1 ran
    obtain rfl := Except.ok.inj same
    obtain ⟨mirror, next, mirrored, stepped, still⟩ :=
      instanceCheck_step direct owned (within_ok set)
    have isInstance : name ∈ instanceNames := (named_instanceSetting name).1 (by rw [owned]; rfl)
    have one : writesInstance (done ++ [(name, value)]) = true := by
      simp [writesInstance, isInstance]
    have apart : name ≠ "instances" ∧ name ≠ "lastNonce" ∧ name ≠ "frozen" := by
      refine ⟨?_, ?_, ?_⟩ <;>
        · rintro rfl
          exact absurd isInstance (by decide)
    obtain ⟨outer, found, runs⟩ := (checkForm context).field_of_instance mirrored
    refine ⟨outer, _, found, runs value twin next stepped, ?_⟩
    constructor <;> simp [one, apart] <;> assumption
  case h_2 unowned =>
    have other : name ∉ instanceNames := by
      rw [← named_instanceSetting name, unowned]
      nofun
    have direct := restates_other value other direct
    have kept : writesInstance (done ++ [(name, value)]) = writesInstance done := by
      simp [writesInstance, other]
    split at known
    · obtain ⟨given, reads, rfl⟩ := setting_ok known ran
      obtain ⟨checks, mirrored, restated⟩ := items_restate (within_ok reads)
      refine ⟨_, _, rfl, map_of_ok (within_of_ok mirrored), ?_⟩
      constructor <;> simp [kept] <;> assumption
    · obtain ⟨given, reads, rfl⟩ := setting_ok known ran
      obtain ⟨counter, mirrored, restated⟩ := counter_restates (within_ok reads)
      refine ⟨_, _, rfl, map_of_ok (within_of_ok mirrored), ?_⟩
      constructor <;> simp [kept] <;> assumption
    · obtain ⟨given, reads, rfl⟩ := setting_ok known ran
      refine ⟨_, _, rfl, map_of_ok reads, ?_⟩
      constructor <;> simp [kept] <;> assumption
    · obtain ⟨given, reads, rfl⟩ := setting_ok known ran
      obtain ⟨counter, mirrored, restated⟩ := counter_restates (within_ok reads)
      refine ⟨_, _, rfl, map_of_ok (within_of_ok mirrored), ?_⟩
      constructor <;> simp [kept] <;> assumption
    · cases known

/-- The first instance is expected exactly if it is set. -/
theorem DraftRestates.first {fields : List (String × Json)}
    {draft : TokenDraft InstanceSetting (Option (Written UInt64))}
    {twin : TokenDraft InstanceCheck (Check UInt64)} (alike : DraftRestates fields draft twin) :
    AllRestate twin.direct.toList (if writesInstance fields then [fields] else [])
      draft.direct.toList := by
  have written := alike.written
  have expected := alike.expected
  cases some : writesInstance fields with
  | true =>
    rw [some] at written expected
    obtain ⟨setting, set⟩ := Option.isSome_iff_exists.1 written
    obtain ⟨check, expects⟩ := Option.isSome_iff_exists.1 expected
    have direct := alike.direct
    rw [set, expects] at direct ⊢
    exact .cons direct .nil
  | false =>
    rw [some] at written expected
    rw [Option.isSome_eq_false_iff, Option.isNone_iff_eq_none] at written expected
    rw [written, expected]
    exact .nil

theorem balance_restates {only : InstanceSetting}
    (ran : (settingForm context).balance value = .ok only) :
    ∃ check, (checkForm context).balance value = .ok check ∧
      check.Restates [("balance", value)] only := by
  obtain ⟨number, means, rfl⟩ := ok_map.1 ran
  obtain ⟨expected, source⟩ := faithful_natural.mirrors value number means
  refine ⟨_, map_of_ok expected, ?_⟩
  exact { restates_blank with balance := Check.restates_exactly source }

/-- A token that is read to be set is also read to be expected: with the same roles and the same numbers
of instances, and every value that is written is expected as it would be set, while nothing is expected
of what is not written. -/
theorem tokenCheck_restates {identifier : Written Bytes} {setting : TokenSetting}
    (ran : tokenSetting context identifier value = .ok setting) :
    ∃ check, tokenCheck context identifier value = .ok check ∧
      check.instances.map (·.nonce) = setting.instances.map (·.nonce) ∧
      check.Restates value setting := by
  suffices found : ∃ check, tokenCheck context identifier value = .ok check ∧
      check.Restates value setting by
    obtain ⟨check, read, restates⟩ := found
    exact ⟨check, read, restates.instances.nonces, restates⟩
  cases value with
  | string text =>
    obtain ⟨only, balance, same⟩ := except_bind.1 ran
    obtain rfl := Except.ok.inj same
    obtain ⟨check, mirrored, alike⟩ := balance_restates (within_ok balance)
    refine ⟨_, except_bind.2 ⟨check, within_of_ok mirrored, rfl⟩, ?_⟩
    exact ⟨rfl, .cons alike .nil, rfl, rfl, rfl⟩
  | object fields =>
    obtain ⟨draft, reads, same⟩ := except_bind.1 ran
    obtain rfl := Except.ok.inj same
    have start : DraftRestates [] ⟨none, [], none, [], none⟩ ⟨none, [], .unspecified, [], .unspecified⟩ :=
      ⟨restates_blank, rfl, rfl, .nil, rfl, rfl, rfl⟩
    obtain ⟨twin, mirrored, alike⟩ := readFields_alike
      (fun _ _ _ _ _ _ _ before known step => draftRestates_step before known step) start reads
    rw [List.nil_append] at alike
    refine ⟨_, except_bind.2 ⟨twin, mirrored, rfl⟩, ?_⟩
    exact ⟨rfl, alike.first.append alike.listed, alike.lastNonce, alike.roles, alike.frozen⟩
  | _ => cases ran

/-- A token whose first instance is written around the list of the others. -/
def lockets : Json :=
  .object [("creator", .string "address:smith"), ("uri", .string ""),
    ("instances", .array [.object [("uri", .array [.string "str:front", .string "0x02"])],
      .object [("balance", .string "0x_1,0"), ("royalties", .string "25"), ("nonce", .string "9")]]),
    ("frozen", .string "1"), ("nonce", .string "3"),
    ("roles", .array [.string "ESDTRoleNFTCreate"])]

theorem tokenCheck_restates_lockets :
    ∃ setting check, tokenSetting bare (.implied []) lockets = .ok setting ∧
      tokenCheck bare (.implied []) lockets = .ok check ∧
      check.instances.map (·.nonce.value) = [3, 0, 9] ∧ check.lastNonce = .unspecified ∧
      check.Restates lockets setting := by
  have numbers : (tokenSetting bare (.implied []) lockets).toOption.map
      (·.instances.map (·.nonce.value)) = some [3, 0, 9] := by decide +kernel
  cases ran : tokenSetting bare (.implied []) lockets with
  | error fault =>
    rw [ran] at numbers
    cases numbers
  | ok setting =>
    obtain ⟨check, read, same, restates⟩ := tokenCheck_restates ran
    rw [ran] at numbers
    refine ⟨setting, check, rfl, read, ?_, restates.lastNonce, restates⟩
    have shown := congrArg (List.map (·.value)) same
    rw [List.map_map, List.map_map] at shown
    exact shown.trans (Option.some.inj numbers)

end Tokens

end Scenario.Reader
end ChainScenario
