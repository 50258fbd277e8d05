import ChainScenario.Proofs.Results
import ChainScenario.Scenario.Reader.Transaction

/-!
# What is promised of a transaction that was read

What the reader of each field preserves holds of an object that was read. Main statement:
`permitted_transaction`, a transaction that was read has nothing in the fields that its kind forbids.
-/
namespace ChainScenario

/-- A transaction is of a kind and has nothing in the fields that the kind forbids. -/
structure Transaction.Permitted (kind : Kind) (transaction : Transaction) : Prop where
  same : transaction.kind = kind
  value : kind.hasValue = false → transaction.value.value = 0
  payments : kind.hasTokens = false → transaction.payments = []
  sender : kind.hasSender = false → transaction.sender.value = []
  receiver : kind.hasReceiver = false → transaction.receiver.value = []
  function : kind.hasFunction = false → transaction.function = ""
  arguments : kind.hasArguments = false → transaction.arguments = []
  code : kind.hasCode = false → transaction.code.value = []
  codeMetadata : kind.hasCode = false →
    ∀ metadata, transaction.codeMetadata = some metadata → metadata.value = []
  gasLimit : kind.hasGas = false → transaction.gasLimit.value = 0
  gasPrice : kind.hasGas = false → transaction.gasPrice.value = 0

/-- The receiver of a transaction is an address, or there is none. -/
def Transaction.Directed (transaction : Transaction) : Prop :=
  transaction.receiver.value.length = Address.length ∨ transaction.receiver.value = []

namespace Scenario.Reader

open Expression (Context)

section Fields

variable {α β : Type}

/-- The first field is read by the reader of its name, the others into what it leaves. -/
theorem readFields_cons {record : Record} {readers : FieldReaders α} {blank result : α}
    {field : String × Json} {rest : List (String × Json)} :
    readFields record readers blank (field :: rest) = .ok result ↔
      ∃ reader next, readers field.1 = some reader ∧ reader field.2 blank = .ok next ∧
        readFields record readers next rest = .ok result := by
  rw [readFields, List.foldlM_cons, except_bind, readField]
  cases readers field.1 with
  | none => simp [throw, throwThe, MonadExceptOf.throw]
  | some reader => simp [readFields]

/-- What holds before the first field and is preserved by the reader of each one holds at the end. -/
theorem readFields_preserves {record : Record} {readers : FieldReaders α} {holds : α → Prop}
    (each : ∀ name reader, readers name = some reader → ∀ value target result,
      holds target → reader value target = .ok result → holds result)
    {blank result : α} {fields : List (String × Json)} (start : holds blank)
    (read : readFields record readers blank fields = .ok result) : holds result := by
  -- By induction on the fields: each is read into what those before it left.
  induction fields generalizing blank with
  | nil =>
    obtain rfl : blank = result := Except.ok.inj read
    exact start
  | cons field rest ih =>
    obtain ⟨reader, next, known, step, read⟩ := readFields_cons.1 read
    exact ih (each field.1 reader known field.2 blank next start step) read

/-- A part that only one field sets: what the reader of the field promises holds of the part if the field
is written, else the part is as it was. -/
theorem readFields_only {record : Record} {readers : FieldReaders α} {key : String}
    (part : α → β) (holds : β → Prop)
    (own : ∀ reader, readers key = some reader → ∀ value target result,
      reader value target = .ok result → holds (part result))
    (others : ∀ name reader, name ≠ key → readers name = some reader →
      ∀ value target result, reader value target = .ok result → part result = part target)
    {blank result : α} {fields : List (String × Json)}
    (read : readFields record readers blank fields = .ok result) :
    if key ∈ fields.map Prod.fst then holds (part result) else part result = part blank := by
  -- By induction on the fields: what one of them set is set again or left alone by those behind it.
  induction fields generalizing blank with
  | nil =>
    obtain rfl : blank = result := Except.ok.inj read
    simp
  | cons field rest ih =>
    obtain ⟨reader, next, known, step, read⟩ := readFields_cons.1 read
    have behind := ih read
    by_cases same : field.1 = key
    · have set : holds (part next) := own reader (same ▸ known) field.2 blank next step
      rw [if_pos (by simp [same])]
      split at behind
      · exact behind
      · rwa [behind]
    · have left : part next = part blank := others field.1 reader same known field.2 blank next step
      have elsewhere : key ∈ (field :: rest).map Prod.fst ↔ key ∈ rest.map Prod.fst := by
        simp [Ne.symm same]
      simpa only [elsewhere, left] using behind

theorem setting_ok {read : Json → Except Fault β} {set : β → α → α}
    {reader : Json → α → Except Fault α} {value : Json} {target result : α}
    (sets : setting read set = some reader) (ran : reader value target = .ok result) :
    ∃ given, read value = .ok given ∧ result = set given target := by
  obtain rfl := Option.some.inj sets
  obtain ⟨given, reads, set_given⟩ := ok_map.1 ran
  exact ⟨given, reads, set_given.symm⟩

theorem allowed_ok {field : TransactionField} {kind : Transaction.Kind} {has : Bool}
    {read : Except Fault β} {given : β} (ran : allowed field kind has read = .ok given) :
    has = true := by
  cases has with
  | true => rfl
  | false => cases ran

theorem emptyUnless_ok {field : TransactionField} {kind : Transaction.Kind} {has : Bool}
    {isEmpty : β → Bool} {read : Except Fault β} {given : β}
    (ran : emptyUnless field kind has isEmpty read = .ok given) (forbidden : has = false) :
    isEmpty given = true := by
  obtain ⟨content, -, checked⟩ := except_bind.1 ran
  subst forbidden
  rw [Bool.false_or] at checked
  split at checked
  · rename_i empty
    obtain rfl := Except.ok.inj checked
    exact empty
  · cases checked

end Fields

/-- A receiver that is forbidden is read as an empty text. -/
theorem receiver_ok {context : Context} {kind : Transaction.Kind} {value : Json}
    {given : Written Bytes} (ran : receiver context kind value = .ok given)
    (forbidden : kind.hasReceiver = false) : given.value = [] := by
  rw [receiver, forbidden, if_neg (by decide)] at ran
  obtain ⟨text, texts, same⟩ := except_bind.1 ran
  obtain rfl := String.isEmpty_iff.1 (emptyUnless_ok texts rfl)
  obtain rfl := Except.ok.inj same
  rfl

theorem permitted_blank (kind : Transaction.Kind) : (Transaction.blank kind).Permitted kind where
  same := rfl
  value _ := rfl
  payments _ := rfl
  sender _ := rfl
  receiver _ := rfl
  function _ := rfl
  arguments _ := rfl
  code _ := rfl
  codeMetadata _ _ none := nomatch none
  gasLimit _ := rfl
  gasPrice _ := rfl

/-- The reader of a field puts nothing where the kind forbids it. -/
theorem permitted_transactionField {context : Context} {kind : Transaction.Kind} {name : String}
    {reader : Json → Transaction → Except Fault Transaction}
    (known : transactionField context kind name = some reader) {value : Json}
    {target result : Transaction} (permitted : target.Permitted kind)
    (ran : reader value target = .ok result) : result.Permitted kind := by
  unfold transactionField at known
  split at known
  case h_1 =>
    obtain ⟨given, -, rfl⟩ := setting_ok known ran
    exact { permitted with }
  case h_2 =>
    obtain ⟨given, read, rfl⟩ := setting_ok known ran
    exact { permitted with
      sender := fun forbidden => absurd (allowed_ok read) (by simp [forbidden]) }
  case h_3 =>
    obtain ⟨given, read, rfl⟩ := setting_ok known ran
    exact { permitted with receiver := receiver_ok read }
  case h_4 =>
    obtain ⟨given, read, rfl⟩ := setting_ok known ran
    exact { permitted with
      function := fun forbidden => String.isEmpty_iff.1 (emptyUnless_ok read forbidden) }
  -- the two names of the value, then the two of the payments
  case h_5 | h_6 =>
    obtain ⟨given, read, rfl⟩ := setting_ok known ran
    exact { permitted with
      value := fun forbidden => absurd (allowed_ok read) (by simp [forbidden]) }
  case h_7 | h_8 =>
    obtain ⟨given, read, rfl⟩ := setting_ok known ran
    exact { permitted with
      payments := fun forbidden => absurd (allowed_ok read) (by simp [forbidden]) }
  case h_9 =>
    obtain ⟨given, read, rfl⟩ := setting_ok known ran
    exact { permitted with
      arguments := fun forbidden => List.isEmpty_iff.1 (emptyUnless_ok read forbidden) }
  case h_10 =>
    obtain ⟨given, read, rfl⟩ := setting_ok known ran
    refine { permitted with code := fun forbidden => ?_ }
    have empty := emptyUnless_ok read forbidden
    exact List.isEmpty_iff.1 empty
  case h_11 =>
    obtain ⟨given, read, rfl⟩ := setting_ok known ran
    refine { permitted with codeMetadata := ?_ }
    rintro forbidden _ ⟨⟩
    have empty := emptyUnless_ok read forbidden
    exact List.isEmpty_iff.1 empty
  case h_12 =>
    obtain ⟨given, read, rfl⟩ := setting_ok known ran
    exact { permitted with
      gasLimit := fun forbidden => absurd (allowed_ok read) (by simp [forbidden]) }
  case h_13 =>
    obtain ⟨given, read, rfl⟩ := setting_ok known ran
    exact { permitted with
      gasPrice := fun forbidden => absurd (allowed_ok read) (by simp [forbidden]) }
  case h_14 => cases known

/-- A transaction that was read has nothing in the fields that its kind forbids. -/
theorem permitted_transaction {context : Context} {kind : Transaction.Kind} {value : Json}
    {read : Transaction} (ran : transaction context kind value = .ok read) :
    read.Permitted kind := by
  obtain ⟨fields, -, reads⟩ := except_bind.1 ran
  exact readFields_preserves
    (fun _ _ known _ _ _ permitted => permitted_transactionField known permitted)
    (permitted_blank kind) reads

theorem length_address {context : Context} {value : Json} {given : Written Bytes}
    (ran : address context value = .ok given) : given.value.length = Address.length := by
  obtain ⟨read, -, checked⟩ := except_bind.1 ran
  split at checked
  · rename_i addressed
    cases checked
    exact addressed
  · cases checked

/-- A receiver that is allowed is read as an address. -/
theorem length_receiver {context : Context} {kind : Transaction.Kind} {value : Json}
    {given : Written Bytes} (ran : receiver context kind value = .ok given)
    (has : kind.hasReceiver) : given.value.length = Address.length := by
  rw [receiver, if_pos has] at ran
  exact length_address ran

/-- A receiver that is written is an address, if the kind has one. -/
theorem readFields_receiver {context : Context} {kind : Transaction.Kind}
    {fields : List (String × Json)} {blank read : Transaction} (has : kind.hasReceiver)
    (ran : readFields .transaction (transactionField context kind) blank fields = .ok read) :
    if "to" ∈ fields.map Prod.fst then read.receiver.value.length = Address.length
    else read.receiver = blank.receiver := by
  refine readFields_only Transaction.receiver (·.value.length = Address.length) ?own ?others ran
  case own =>
    intro reader known value target result step
    obtain ⟨given, reads, rfl⟩ := setting_ok known step
    have length : given.value.length = Address.length := length_receiver reads has
    exact length
  case others =>
    intro name reader other known value target result step
    unfold transactionField at known
    split at known
    case h_3 => exact absurd rfl other
    case h_14 => cases known
    all_goals
      obtain ⟨given, -, rfl⟩ := setting_ok known step
      rfl

/-- A transaction that was read has an address for a receiver, or none was written. -/
theorem directed_transaction {context : Context} {kind : Transaction.Kind} {value : Json}
    {read : Transaction} (ran : transaction context kind value = .ok read) : read.Directed := by
  have permitted := permitted_transaction ran
  obtain ⟨fields, -, reads⟩ := except_bind.1 ran
  cases has : kind.hasReceiver with
  | true =>
    have receiver := readFields_receiver has reads
    split at receiver
    · exact .inl receiver
    · exact .inr (by rw [receiver]; rfl)
  | false => exact .inr (permitted.receiver has)

end Scenario.Reader
end ChainScenario
