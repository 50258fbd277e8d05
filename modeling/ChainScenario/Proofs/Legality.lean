import ChainScenario.Proofs.KnownFields

/-!
# Legal transactions

A field of a transaction is only ever set by the reader of its name, so that what this reader asks for
holds of the transaction whatever else is written, and however often. Main statement:
`legal_transaction`, a transaction that was read has nothing that its kind forbids, and addresses of the
right length where a sender or a receiver was written.
-/
namespace ChainScenario.Scenario.Reader

open Expression (Context)

/-- A sender that is written is an address. -/
theorem readFields_sender {context : Context} {kind : Transaction.Kind}
    {fields : List (String × Json)} {blank read : Transaction}
    (ran : readFields .transaction (transactionField context kind) blank fields = .ok read) :
    if "from" ∈ fields.map Prod.fst then read.sender.value.length = Address.length
    else read.sender = blank.sender := by
  refine readFields_only Transaction.sender (·.value.length = Address.length) ?own ?others ran
  case own =>
    intro reader known value target result step
    obtain ⟨given, reads, rfl⟩ := setting_ok known step
    exact length_address (allowed_given reads)
  case others =>
    intro name reader other known value target result step
    unfold transactionField at known
    split at known
    case h_2 => exact absurd rfl other
    case h_14 => cases known
    all_goals
      obtain ⟨given, -, rfl⟩ := setting_ok known step
      rfl

/-- A transaction that was read has nothing in the fields that its kind forbids, whatever the order of
the fields and the names they go by. A sender that was written is an address, and so is a receiver if the
kind has one; what was not written is empty. -/
theorem legal_transaction {context : Context} {kind : Transaction.Kind} {value : Json}
    {read : Transaction} (ran : transaction context kind value = .ok read) :
    read.Permitted kind ∧ ∃ fields, value = .object fields ∧
      (if "from" ∈ fields.map Prod.fst then read.sender.value.length = Address.length
        else read.sender.value = []) ∧
      (kind.hasReceiver →
        if "to" ∈ fields.map Prod.fst then read.receiver.value.length = Address.length
        else read.receiver.value = []) := by
  refine ⟨permitted_transaction ran, ?_⟩
  cases value with
  | object fields =>
    obtain ⟨_, whole, ran⟩ := except_bind.1 ran
    cases whole
    refine ⟨fields, rfl, ?_, fun has => ?_⟩
    · have sender := readFields_sender ran
      split at sender
      case isTrue written => rwa [if_pos written]
      case isFalse unwritten => rw [if_neg unwritten, sender]; rfl
    · have receiver := readFields_receiver has ran
      split at receiver
      case isTrue written => rwa [if_pos written]
      case isFalse unwritten => rw [if_neg unwritten, receiver]; rfl
  | _ => cases ran

/-- A transfer whose value and tokens are written twice, each time by another name, and which names what
transfers do not have, with nothing in it. -/
def keepsake : Json :=
  .object [("function", .string ""), ("value", .string "5"), ("esdt", .object []),
    ("to", .string "sc:shrine"), ("egldValue", .string "7"), ("arguments", .array []),
    ("codeMetadata", .string ""), ("esdtValue", .array []), ("from", .string "address:pilgrim#01")]

/-- It is read, with nothing in what transfers do not have, and with two addresses. -/
theorem legal_transaction_keepsake :
    ∃ read, transaction bare .transfer keepsake = .ok read ∧ read.Permitted .transfer ∧
      read.sender.value.length = 32 ∧ read.receiver.value.length = 32 := by
  have accepted : (transaction bare .transfer keepsake).toBool = true := by decide +kernel
  cases ran : transaction bare .transfer keepsake with
  | error fault =>
    rw [ran] at accepted
    cases accepted
  | ok read =>
    obtain ⟨permitted, fields, whole, sender, receiver⟩ := legal_transaction ran
    cases whole
    rw [if_pos (by decide)] at sender
    have reached := receiver rfl
    rw [if_pos (by decide)] at reached
    exact ⟨read, rfl, permitted, sender, reached⟩

end ChainScenario.Scenario.Reader
