import ChainScenario.Builtin.Conversion
import ChainScenario.Proofs.BuiltinEffects
import ChainScenario.Proofs.Slots
import Mathlib.Data.List.Forall2

/-!
# Calls with tokens move their tokens

A call with tokens is sent as one of three built-in functions, each with arguments of its own kind.
`action_sent` says that all three read back the transfers of the call and carry them out one after
another. Main statement: `run_convert_iff`.
-/
namespace ChainScenario.Builtin

open Builtin.Action Token

/-! ## Transfers one after another -/

/-- Tokens went from one account to another, one transfer after the other. -/
inductive TransfersMoved (source destination : Bytes) : List TokenTransfer → World → World → Prop
  | none {world : World} : TransfersMoved source destination [] world world
  | more {transfer : TokenTransfer} {rest : List TokenTransfer} {world middle after : World}
      (positive : transfer.value ≠ 0)
      (first : AnyMoved source destination transfer.token transfer.nonce transfer.value world middle)
      (others : TransfersMoved source destination rest middle after) :
      TransfersMoved source destination (transfer :: rest) world after

def moveTransfer (source destination : Bytes) (transfer : TokenTransfer) : Action Unit := do
  demand (transfer.value != 0) .notPositive
  moveAny source destination transfer.token transfer.nonce transfer.value

/-- Moves tokens from one account to another, one transfer after the other. -/
def moveTransfers (source destination : Bytes) (transfers : List TokenTransfer) : Action Unit :=
  transfers.forM (moveTransfer source destination)

theorem moveTransfers_cons (source destination : Bytes) (transfer : TokenTransfer)
    (rest : List TokenTransfer) :
    moveTransfers source destination (transfer :: rest) =
      (moveTransfer source destination transfer >>= fun _ =>
        moveTransfers source destination rest) := rfl

theorem moveTransfers_singleton (source destination : Bytes) (transfer : TokenTransfer) :
    moveTransfers source destination [transfer] = moveTransfer source destination transfer :=
  bind_pure _

section Moves

variable {source destination token : Bytes} {nonce : UInt64} {value : Nat} {world after : World}

theorem TokensMoved.ran (moved : TokensMoved source destination token nonce value world after) :
    moveTokens source destination token nonce value world = .ok () after := by
  -- Run forward: every demand is met by what the move says of the ledger.
  obtain ⟨addressed, found, holds, enough, free, rfl, reads⟩ := moved
  simp only [moveTokens, ok_bind, ok_demand, get_bind, ok_need, ok_stored, ok_put, beq_iff_eq,
    decide_eq_true_eq, Bool.not_eq_true']
  exact ⟨(), _, ⟨addressed, rfl⟩, _, _, ⟨found, rfl⟩, _, _, ⟨holds, rfl⟩, _, _, ⟨rfl, rfl⟩, (), _,
    ⟨enough, rfl⟩, (), _, ⟨free, rfl⟩, (), _, rfl, _, _, ⟨reads, rfl⟩, rfl⟩

theorem CurrencyMoved.ran (moved : CurrencyMoved source destination value world after) :
    moveCurrency source destination value world = .ok () after := by
  obtain ⟨addressed, found, pays, rfl⟩ := moved
  simp only [moveCurrency, ok_bind, ok_demand, get_bind, ok_need, beq_iff_eq]
  refine ⟨(), _, ⟨addressed, rfl⟩, _, _, ⟨found, rfl⟩, ?_⟩
  simp only [pays, ok_bind, get_bind, ok_put]
  exact ⟨(), _, rfl, rfl⟩

theorem ok_moveAny_iff {done : Unit} :
    moveAny source destination token nonce value world = .ok done after ↔
      AnyMoved source destination token nonce value world after := by
  refine ⟨ok_moveAny, fun moved => ?_⟩
  cases moved with
  | currency same moved => rw [moveAny, if_pos same, moved.ran]
  | tokens other moved => rw [moveAny, if_neg other, moved.ran]

theorem ok_moveTransfer {transfer : TokenTransfer} {done : Unit} :
    moveTransfer source destination transfer world = .ok done after ↔
      transfer.value ≠ 0 ∧
        AnyMoved source destination transfer.token transfer.nonce transfer.value world after := by
  simp only [moveTransfer, ok_bind, ok_demand, bne_iff_ne, ok_moveAny_iff]
  constructor
  · rintro ⟨_, _, ⟨positive, rfl⟩, moved⟩
    exact ⟨positive, moved⟩
  · rintro ⟨positive, moved⟩
    exact ⟨(), world, ⟨positive, rfl⟩, moved⟩

theorem ok_moveTransfers {transfers : List TokenTransfer} {done : Unit} :
    moveTransfers source destination transfers world = .ok done after ↔
      TransfersMoved source destination transfers world after := by
  -- The induction follows the list: each transfer starts from the ledger that the one before left.
  induction transfers generalizing world with
  | nil =>
    constructor
    · intro ran
      obtain ⟨-, rfl⟩ := ok_pure.1 ran
      exact .none
    · rintro ⟨⟩
      rfl
  | cons transfer rest ih =>
    simp only [moveTransfers_cons, ok_bind, ok_moveTransfer, ih]
    constructor
    · rintro ⟨_, _, ⟨positive, first⟩, others⟩
      exact .more positive first others
    · rintro (_ | ⟨positive, first, others⟩)
      exact ⟨(), _, ⟨positive, first⟩, others⟩

end Moves

/-! ## Movements among arguments -/

/-- Movements as arguments, three for each. -/
def spelled (listed : List (Bytes × Bytes × Bytes)) : List Bytes :=
  listed.flatMap fun movement => [movement.1, movement.2.1, movement.2.2]

theorem length_spelled (listed : List (Bytes × Bytes × Bytes)) :
    (spelled listed).length = 3 * listed.length := by
  induction listed with
  | nil => rfl
  | cons movement rest ih =>
    change (spelled rest).length + 3 = _
    rw [ih, List.length_cons]
    omega

theorem triples?_spelled (listed : List (Bytes × Bytes × Bytes)) (further : List Bytes) :
    triples? listed.length (spelled listed ++ further) = some listed := by
  induction listed with
  | nil => rfl
  | cons movement rest ih =>
    change (triples? rest.length (spelled rest ++ further)).map (movement :: ·) = _
    rw [ih]
    rfl

/-- Movements are read back behind their number, whatever follows them. -/
theorem listedMovements?_spelled {count : Bytes} {listed : List (Bytes × Bytes × Bytes)}
    (short : count.length ≤ 8) (counted : Bytes.toNat count = listed.length)
    (filled : listed ≠ []) (further : List Bytes) :
    listedMovements? count (spelled listed ++ further) = some listed := by
  have number : (nonceOfBytes count).toNat = listed.length := by
    rw [toNat_nonceOfBytes_of_short short, counted]
  have positive : listed.length ≠ 0 := fun none => filled (List.length_eq_zero_iff.1 none)
  have fits : ¬(listed.length = 0 ∨ 8 < count.length ∨
      (spelled listed ++ further).length < 3 * listed.length) := by
    rw [List.length_append, length_spelled]
    omega
  simp only [listedMovements?, number]
  rw [if_neg fits, triples?_spelled]

/-- Three arguments say what a transfer is. No transfer looks at the kind of its token. -/
structure Describes (movement : Bytes × Bytes × Bytes) (transfer : TokenTransfer) : Prop where
  token : movement.1 = transfer.token
  nonce : nonceOfBytes movement.2.1 = transfer.nonce
  value : Bytes.toNat movement.2.2 = transfer.value

/-- What a transfer that was made is told as. -/
def told (call : Call) (destination : Bytes) (transfer : TokenTransfer) : LogEntry :=
  transferEvent call transfer.token transfer.nonce transfer.value destination

/-- Movements are the transfers that they describe, and their events. -/
theorem movements_eq {listed : List (Bytes × Bytes × Bytes)} {transfers : List TokenTransfer}
    (describe : List.Forall₂ Describes listed transfers) (call : Call) (destination : Bytes) :
    movements call destination listed =
      (moveTransfers call.input.caller destination transfers >>= fun _ =>
        pure (transfers.map (told call destination))) := by
  induction describe with
  | nil => rfl
  | @cons movement transfer listed transfers this others ih =>
    obtain ⟨token, number, amount⟩ := movement
    obtain ⟨same, numbered, valued⟩ := this
    dsimp only at same numbered valued
    simp only [movements, positive, ih, same, numbered, valued, List.map_cons, moveTransfers_cons,
      moveTransfer, told, bind_assoc, pure_bind]

/-! ## The forms of a call with tokens -/

/-- What a call with tokens comes to: its transfers are carried out, and told under a name. -/
def delivery (call : Call) (name : String) : Action CallOutput := do
  moveTransfers call.input.caller call.recipient call.input.transfers
  return touching call.recipient (call.input.transfers.map fun transfer =>
    ⟨Utf8.ofString name, call.input.caller,
      [transfer.token, nonceBytes transfer.nonce, Bytes.ofNat transfer.value, call.recipient], []⟩)

/-- A call with other arguments, sent as a built-in function. -/
def sentAs (call : Call) (function : Function) (recipient : Bytes) (arguments : List Bytes) : Call :=
  ⟨{ call.input with value := 0, arguments := arguments }, recipient, function.name⟩

/-- The arguments that name transfers one after another. -/
def written (transfers : List TokenTransfer) : List Bytes :=
  transfers.flatMap fun transfer =>
    [transfer.token, nonceBytes transfer.nonce, Bytes.ofNat transfer.value]

/-- The ways to send the tokens of a call, whatever else is among the arguments behind them. -/
inductive Sent (call : Call) : Function → Call → Prop
  | token {transfer : TokenTransfer} (further : List Bytes)
      (alone : call.input.transfers = [transfer])
      (token : transfer.token ≠ currency)
      (fungible : transfer.nonce = 0) :
      Sent call .tokenTransfer (sentAs call .tokenTransfer call.recipient
        (transfer.token :: Bytes.ofNat transfer.value :: further))
  | single {transfer : TokenTransfer} (further : List Bytes)
      (alone : call.input.transfers = [transfer])
      (token : transfer.token ≠ currency)
      (numbered : transfer.nonce ≠ 0) :
      Sent call .instanceTransfer (sentAs call .instanceTransfer call.input.caller
        (transfer.token :: nonceBytes transfer.nonce :: Bytes.ofNat transfer.value ::
          call.recipient :: further))
  | several (further : List Bytes) (carries : call.input.transfers ≠ []) :
      Sent call .multiTransfer (sentAs call .multiTransfer call.input.caller
        (call.recipient :: nonceBytes (UInt64.ofNat call.input.transfers.length) ::
          (written call.input.transfers ++ further)))

theorem function_convert {call : Call} (carries : call.input.transfers ≠ []) :
    (convert call).function = (conversionTarget call).1.name := by
  have some : ¬call.input.transfers.isEmpty = true := fun empty => carries (List.isEmpty_iff.1 empty)
  rw [convert, if_neg some]

/-- A call with tokens is sent in one of these ways. -/
theorem sent_convert {call : Call} (carries : call.input.transfers ≠ []) :
    Sent call (conversionTarget call).1 (convert call) := by
  have some : ¬call.input.transfers.isEmpty = true := fun empty => carries (List.isEmpty_iff.1 empty)
  rw [convert, if_neg some]
  dsimp only
  generalize (if call.function.isEmpty = true then []
    else Utf8.ofString call.function :: call.input.arguments) = further
  have many : Sent call .multiTransfer (sentAs call .multiTransfer call.input.caller
      (call.recipient :: nonceBytes (UInt64.ofNat call.input.transfers.length) ::
        (written call.input.transfers ++ further))) := .several further carries
  -- One transfer of tokens has a form of its own, all else goes as a list.
  unfold conversionTarget
  dsimp only
  split
  · rename_i transfer alone
    by_cases currency : transfer.token = currency
    · rw [if_pos currency]
      exact many
    · rw [if_neg currency]
      by_cases fungible : transfer.nonce = 0
      · rw [if_pos fungible]
        exact .token further alone currency fungible
      · rw [if_neg fungible]
        exact .single further alone currency fungible
  · exact many

/-! ## What the forms have in common -/

section Forms

variable {call : Call}

private theorem demand_true (refusal : Refusal) : demand true refusal = pure () := rfl

private theorem need_some {α : Type} (value : α) (refusal : Refusal) :
    need (some value) refusal = pure value := rfl

private theorem positive_ofNat (value : Nat) :
    positive (Bytes.ofNat value) = (demand (value != 0) .notPositive >>= fun _ => pure value) := by
  simp only [positive, Bytes.toNat_ofNat]

/-- A transfer among several, as it is read back from its arguments. -/
def triple (transfer : TokenTransfer) : Bytes × Bytes × Bytes :=
  (transfer.token, nonceBytes transfer.nonce, Bytes.ofNat transfer.value)

private theorem written_eq_spelled (transfers : List TokenTransfer) :
    written transfers = spelled (transfers.map triple) := by
  rw [written, spelled, List.flatMap_map]
  rfl

private theorem listedMovements?_written {transfers : List TokenTransfer}
    (few : transfers.length < UInt64.size) (carries : transfers ≠ []) (further : List Bytes) :
    listedMovements? (nonceBytes (UInt64.ofNat transfers.length)) (written transfers ++ further) =
      some (transfers.map triple) := by
  have number : (UInt64.ofNat transfers.length).toNat = transfers.length :=
    UInt64.toNat_ofNat_of_lt' few
  have short : (nonceBytes (UInt64.ofNat transfers.length)).length ≤ 8 :=
    Bytes.length_ofNat_le (by rw [number]; exact few)
  rw [written_eq_spelled]
  refine listedMovements?_spelled short ?_ (mt List.map_eq_nil_iff.1 carries) further
  rw [List.length_map, nonceBytes, Bytes.toNat_ofNat, number]

private theorem describes_triple (transfers : List TokenTransfer) :
    List.Forall₂ Describes (transfers.map triple) transfers :=
  List.forall₂_map_left_iff.2 (List.forall₂_same.2 fun transfer _ =>
    ⟨rfl, nonceOfBytes_nonceBytes transfer.nonce, Bytes.toNat_ofNat transfer.value⟩)

/-- However the tokens of a call are sent, they are delivered. -/
theorem action_sent {function : Function} {sent : Call} (form : Sent call function sent)
    (few : call.input.transfers.length < UInt64.size) :
    function.action sent = delivery call function.name := by
  -- In every form the function reads back what was written, and finds itself called as it demands.
  cases form with
  | token further alone token fungible =>
    simp only [Function.action, tokenTransfer, sentAs, delivery, alone, positive_ofNat,
      moveTransfers_singleton, moveTransfer, moveAny, if_neg token, fungible, bind_assoc, pure_bind,
      List.map_cons, List.map_nil]
    rfl
  | single further alone token numbered =>
    have given : ((_ : UInt64) != 0) = true := bne_iff_ne.2 numbered
    simp only [Function.action, instanceTransfer, demandSelfCall, sentAs, delivery, alone,
      positive_ofNat, moveTransfers_singleton, moveTransfer, moveAny, if_neg token,
      nonceOfBytes_nonceBytes, given, beq_self_eq_true, demand_true, bind_assoc, pure_bind,
      List.map_cons, List.map_nil]
    rfl
  | several further carries =>
    simp only [Function.action, multiTransfer, demandSelfCall, sentAs, delivery, beq_self_eq_true,
      demand_true, listedMovements?_written few carries, need_some,
      movements_eq (describes_triple _), bind_assoc, pure_bind]
    rfl

theorem function_sent {function : Function} {sent : Call} (form : Sent call function sent) :
    sent.function = function.name := by
  cases form <;> rfl

theorem gasProvided_sent {function : Function} {sent : Call} (form : Sent call function sent) :
    sent.input.gasProvided = call.input.gasProvided := by
  cases form <;> rfl

end Forms

/-! ## Whole calls -/

section Calls

variable {world after : World} {call : Call} {costs : OrdMap String UInt64}

theorem ok_delivery (name : String) :
    (∃ output, delivery call name world = .ok output after) ↔
      TransfersMoved call.input.caller call.recipient call.input.transfers world after := by
  simp only [delivery, ok_bind, ok_moveTransfers, ok_pure]
  constructor
  · rintro ⟨_, _, _, moved, _, rfl⟩
    exact moved
  · intro moved
    exact ⟨_, (), after, moved, rfl, rfl⟩

/-- A call that is paid for is settled by what its function does. -/
theorem run_paid {function : Function} (ready : world.builtinCosts = some costs)
    (named : call.function = function.name)
    (gas : costs.getD function.name 0 ≤ call.input.gasProvided) :
    run call world =
      settle (call.input.gasProvided - costs.getD function.name 0) (function.action call) world := by
  have paid : ¬call.input.gasProvided < costs.getD function.name 0 := UInt64.not_lt.2 gas
  simp only [run, get_bind, ready, named, Function.ofName?_name, if_neg paid]

/-- However the tokens of a call are sent, its result is that of their delivery. -/
theorem run_sent {function : Function} {sent : Call} (form : Sent call function sent)
    (few : call.input.transfers.length < UInt64.size) (ready : world.builtinCosts = some costs)
    (gas : costs.getD function.name 0 ≤ call.input.gasProvided) :
    run sent world = settle (call.input.gasProvided - costs.getD function.name 0)
      (delivery call function.name) world := by
  have provided := gasProvided_sent form
  rw [run_paid ready (function_sent form) (by rwa [provided]), action_sent form few, provided]

/-- A delivery ends well exactly if all transfers can be carried out one after another, and the ledger is
then what they make of it. -/
theorem succeeded_delivery {name : String} (gasLeft : UInt64) :
    (∃ output, settle gasLeft (delivery call name) world = .ok output after ∧ output.succeeded) ↔
      TransfersMoved call.input.caller call.recipient call.input.transfers world after := by
  rw [← ok_delivery name]
  constructor
  · rintro ⟨output, settled, succeeded⟩
    rcases ok_settle settled with ⟨result, delivered, rfl⟩ | ⟨refusal, -, rfl⟩
    · exact ⟨result, delivered⟩
    · -- a refusal is settled as well, but not with success
      simp [CallOutput.succeeded, CallOutput.failure] at succeeded
  · rintro ⟨output, delivered⟩
    have ended := delivered
    simp only [delivery, ok_bind, ok_pure] at ended
    obtain ⟨_, _, _, rfl, rfl⟩ := ended
    exact ⟨_, by rw [settle, delivered], rfl⟩

/-- A call with tokens ends well exactly if its transfers can be carried out one after another, and the
ledger is then what they make of it. Every other way to send them has the same success, and neither the
function that was called nor its arguments have a part in the result. -/
theorem run_convert_iff (ready : world.builtinCosts = some costs)
    (carries : call.input.transfers ≠ []) (few : call.input.transfers.length < UInt64.size)
    (gas : costs.getD (convert call).function 0 ≤ call.input.gasProvided) :
    (∀ after, (∃ output, run (convert call) world = .ok output after ∧ output.succeeded) ↔
      TransfersMoved call.input.caller call.recipient call.input.transfers world after) ∧
    (∀ function sent, Sent call function sent →
      costs.getD function.name 0 ≤ call.input.gasProvided → ∀ after,
        (∃ output, run sent world = .ok output after ∧ output.succeeded) ↔
          ∃ output, run (convert call) world = .ok output after ∧ output.succeeded) ∧
    ∀ function arguments,
      run (convert ⟨{ call.input with arguments := arguments }, call.recipient, function⟩) world =
        run (convert call) world := by
  have form := sent_convert carries
  rw [function_convert carries] at gas
  have delivered := run_sent form few ready gas
  refine ⟨fun after => ?_, fun function sent other enough after => ?_, fun function arguments => ?_⟩
  · rw [delivered, succeeded_delivery]
  · rw [delivered, succeeded_delivery, run_sent other few ready enough, succeeded_delivery]
  · -- Nothing that is converted or delivered is taken from the function or its arguments.
    let changed : Call := ⟨{ call.input with arguments := arguments }, call.recipient, function⟩
    have carries : changed.input.transfers ≠ [] := carries
    have same : run (convert changed) world = _ := run_sent (sent_convert carries) few ready gas
    rw [same, delivered]
    rfl

end Calls

/-- A holder of some currency and of two of a picture. -/
def collector : Account :=
  { Account.blank (List.replicate Address.length 1) with
    balance := 8
    storage := .ofList [(holdingKey (Utf8.ofString "PICTURE-123456") 3, [1, 1, 2, 0, 0])] }

/-- A call that brings currency and a picture to another account. -/
def gift : Call where
  input :=
    { (default : CallInput) with
      caller := collector.address
      transfers := [⟨currency, 0, 5, .fungible⟩, ⟨Utf8.ofString "PICTURE-123456", 3, 1, .nonFungible⟩] }
  recipient := List.replicate Address.length 2
  function := "thank"

/-- Both transfers of the call are carried out. -/
theorem run_convert_gift :
    (World.alone collector).builtinCosts = some .empty ∧ gift.input.transfers ≠ [] ∧
      gift.input.transfers.length < UInt64.size ∧
      (.empty : OrdMap String UInt64).getD (convert gift).function 0 ≤ gift.input.gasProvided ∧
      ∃ after, TransfersMoved collector.address gift.recipient gift.input.transfers
        (.alone collector) after := by
  have ended : endedWith (fun output _ => output.succeeded)
      (run (convert gift) (.alone collector)) = true := by decide +kernel
  obtain ⟨output, after, ran, succeeded⟩ := ok_of_endedWith ended
  have carries : gift.input.transfers ≠ [] := List.cons_ne_nil _ _
  have few : gift.input.transfers.length < UInt64.size := by decide
  have gas : (.empty : OrdMap String UInt64).getD (convert gift).function 0 ≤
      gift.input.gasProvided := by decide
  exact ⟨rfl, carries, few, gas, after,
    ((run_convert_iff rfl carries few gas).1 after).1 ⟨output, ran, succeeded⟩⟩

end ChainScenario.Builtin
