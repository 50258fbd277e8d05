import ChainScenario.Proofs.BuiltinRefusals
import ChainScenario.Proofs.Conversion

/-!
# Transfers of several amounts

A transfer of several amounts says how many movements stand among its arguments. Main statements:
- `error_moveTransfers`: transfers one after another stop at the first that cannot be made.
- `run_multiTransfer`: a call with a wrong count is refused, and any other makes the transfers that it
  counts, whatever follows them among its arguments.
-/
namespace ChainScenario.Builtin

open Builtin.Action Token

/-! ## Stopping at the first refusal -/

section Stops

variable {source destination : Bytes} {world after : World}

theorem refusesCleanly_moveTransfer (source destination : Bytes) (transfer : TokenTransfer) :
    RefusesCleanly (moveTransfer source destination transfer) :=
  .after (keeps_demand _ _) fun _ => refusesCleanly_moveAny _ _ _ _ _

/-- Transfers one after another fail exactly if all before some transfer are made and that one fails where
they led, in the way in which it does. -/
theorem error_moveTransfers {transfers : List TokenTransfer} {stop : Stop} :
    moveTransfers source destination transfers world = .error stop after ↔
      ∃ before next rest middle, transfers = before ++ next :: rest ∧
        TransfersMoved source destination before world middle ∧
        moveTransfer source destination next middle = .error stop after := by
  -- By induction on the transfers: the failing one is the first, or stands behind it.
  induction transfers generalizing world with
  | nil =>
    constructor
    · intro ran
      cases ran
    · rintro ⟨before, next, rest, -, same, -⟩
      cases before <;> cases same
  | cons first others ih =>
    rw [moveTransfers_cons, error_bind]
    constructor
    · rintro (failed | ⟨_, middle, made, ran⟩)
      · exact ⟨[], first, others, world, rfl, .none, failed⟩
      · obtain ⟨positive, moved⟩ := ok_moveTransfer.1 made
        obtain ⟨before, next, rest, final, rfl, led, failed⟩ := ih.1 ran
        exact ⟨first :: before, next, rest, final, rfl, .more positive moved led, failed⟩
    · rintro ⟨_ | ⟨head, before⟩, next, rest, middle, same, led, failed⟩
      · obtain ⟨rfl, rfl⟩ := List.cons.inj same
        cases led
        exact .inl failed
      · obtain ⟨rfl, rfl⟩ := List.cons.inj same
        cases led with
        | more positive moved led =>
          exact .inr ⟨(), _, ok_moveTransfer.2 ⟨positive, moved⟩,
            ih.2 ⟨before, next, rest, middle, rfl, led, failed⟩⟩

end Stops

/-! ## Movements that are asked for -/

/-- The transfer that three arguments ask for, said to be of the first kind. -/
def asked (movement : Bytes × Bytes × Bytes) : TokenTransfer :=
  ⟨movement.1, nonceOfBytes movement.2.1, Bytes.toNat movement.2.2, .fungible⟩

theorem describes_asked (listed : List (Bytes × Bytes × Bytes)) :
    List.Forall₂ Describes listed (listed.map asked) :=
  List.forall₂_map_right_iff.2 (List.forall₂_same.2 fun _ _ => ⟨rfl, rfl, rfl⟩)

/-- A call with other arguments. -/
def given (call : Call) (arguments : List Bytes) : Call :=
  { call with input := { call.input with arguments := arguments } }

/-- Movements look at the name of their call and at its caller, not at its arguments. -/
theorem movements_given (call : Call) (arguments : List Bytes) (destination : Bytes)
    (listed : List (Bytes × Bytes × Bytes)) :
    movements (given call arguments) destination listed = movements call destination listed := by
  simp only [movements_eq (describes_asked listed)]
  rfl

/-- How a call ends that makes transfers one after another: all of them are made, or one is refused or
finds the ledger broken, and the ledger is what those before it made of it. -/
inductive Carried (call : Call) (destination : Bytes) (transfers : List TokenTransfer)
    (gasLeft : UInt64) (world : World) : EStateM.Result World.Fault World CallOutput → Prop
  | all {after : World} (moved : TransfersMoved call.input.caller destination transfers world after) :
      Carried call destination transfers gasLeft world
        (.ok { touching destination (transfers.map (told call destination)) with
          gasRemaining := gasLeft } after)
  | refused {before rest : List TokenTransfer} {next : TokenTransfer} {refusal : Refusal}
      {middle : World} (split : transfers = before ++ next :: rest)
      (moved : TransfersMoved call.input.caller destination before world middle)
      (refuses : moveTransfer call.input.caller destination next middle =
        .error (.refused refusal) middle) :
      Carried call destination transfers gasLeft world
        (.ok (.failure .userError refusal.message) middle)
  | broken {before rest : List TokenTransfer} {next : TokenTransfer} {fault : World.Fault}
      {middle after : World} (split : transfers = before ++ next :: rest)
      (moved : TransfersMoved call.input.caller destination before world middle)
      (breaks : moveTransfer call.input.caller destination next middle =
        .error (.broken fault) after) :
      Carried call destination transfers gasLeft world (.error fault after)

theorem carried_movements (call : Call) (destination : Bytes)
    (listed : List (Bytes × Bytes × Bytes)) (gasLeft : UInt64) (world : World) :
    Carried call destination (listed.map asked) gasLeft world
      (settle gasLeft (movements call destination listed >>= fun logs =>
        pure (touching destination logs)) world) := by
  rw [movements_eq (describes_asked listed), bind_assoc]
  simp only [pure_bind]
  cases ran : moveTransfers call.input.caller destination (listed.map asked) world with
  | ok done after =>
    rw [settle, bind_ok _ ran]
    exact .all (ok_moveTransfers.1 ran)
  | error stop after =>
    obtain ⟨before, next, rest, middle, split, moved, failed⟩ := error_moveTransfers.1 ran
    rw [settle, bind_error _ ran]
    cases stop with
    | refused refusal =>
      obtain rfl := refusesCleanly_moveTransfer _ _ _ _ _ _ failed
      exact .refused split moved failed
    | broken fault => exact .broken split moved failed

/-! ## Counts -/

/-- The count among the arguments of a transfer is missing, empty, longer than eight bytes, zero, or more
than there are movements. -/
def Miscounted (arguments : List Bytes) : Prop :=
  arguments.length < 2 ∨ ∃ destination count rest, arguments = destination :: count :: rest ∧
    (count = [] ∨ 8 < count.length ∨ Bytes.toNat count = 0 ∨
      arguments.length < 2 + 3 * Bytes.toNat count)

theorem exists_spelled {number : Nat} {arguments : List Bytes} (enough : 3 * number ≤ arguments.length) :
    ∃ listed further, arguments = spelled listed ++ further ∧ listed.length = number := by
  -- by induction on the number: the first three arguments are one movement more
  induction number generalizing arguments with
  | zero => exact ⟨[], arguments, rfl, rfl⟩
  | succ number ih =>
    rcases arguments with _ | ⟨token, _ | ⟨nonce, _ | ⟨amount, rest⟩⟩⟩
    case cons.cons.cons =>
      simp only [List.length_cons] at enough
      obtain ⟨listed, further, rfl, counted⟩ := ih (by omega : 3 * number ≤ rest.length)
      exact ⟨(token, nonce, amount) :: listed, further, rfl, by rw [List.length_cons, counted]⟩
    all_goals
      simp only [List.length_cons, List.length_nil] at enough
      omega

theorem listedMovements?_miscounted {count : Bytes} {rest : List Bytes}
    (wrong : count = [] ∨ 8 < count.length ∨ Bytes.toNat count = 0 ∨
      rest.length < 3 * Bytes.toNat count) : listedMovements? count rest = none := by
  -- the function looks at the low 64 bits of a count, which are the count unless it is too long
  have refused : (nonceOfBytes count).toNat = 0 ∨ 8 < count.length ∨
      rest.length < 3 * (nonceOfBytes count).toNat := by
    by_cases long : 8 < count.length
    · exact .inr (.inl long)
    rw [toNat_nonceOfBytes_of_short (Nat.le_of_not_lt long)]
    rcases wrong with rfl | far | zero | few
    · exact .inl rfl
    · exact absurd far long
    · exact .inl zero
    · exact .inr (.inr few)
  exact if_pos refused

/-- Arguments that are not miscounted spell as many movements as they say. -/
theorem spelled_of_counted {arguments : List Bytes} (counted : ¬Miscounted arguments) :
    ∃ destination count listed further,
      arguments = destination :: count :: (spelled listed ++ further) ∧
        count.length ≤ 8 ∧ Bytes.toNat count = listed.length ∧ listed ≠ [] := by
  obtain ⟨long, right⟩ := not_or.1 counted
  rcases arguments with _ | ⟨destination, _ | ⟨count, rest⟩⟩
  case cons.cons =>
    have fits : ¬(count = [] ∨ 8 < count.length ∨ Bytes.toNat count = 0 ∨
        (destination :: count :: rest).length < 2 + 3 * Bytes.toNat count) :=
      fun wrong => right ⟨destination, count, rest, rfl, wrong⟩
    simp only [not_or, List.length_cons] at fits
    obtain ⟨-, short, positive, enough⟩ := fits
    obtain ⟨listed, further, rfl, same⟩ :=
      exists_spelled (by omega : 3 * Bytes.toNat count ≤ rest.length)
    refine ⟨destination, count, listed, further, rfl, Nat.le_of_not_lt short, same.symm, ?_⟩
    rintro rfl
    exact positive same.symm
  all_goals exact absurd (by simp) long

/-! ## Whole calls -/

section Calls

variable {call : Call} {world : World} {costs : OrdMap String UInt64}

private theorem demandSelfCall_own (own : call.recipient = call.input.caller) :
    demandSelfCall call = pure () := by
  rw [demandSelfCall, beq_iff_eq.2 own]
  rfl

private theorem multiTransfer_miscounted (own : call.recipient = call.input.caller)
    (wrong : Miscounted call.input.arguments) : multiTransfer call = refuse .invalidArguments := by
  simp only [multiTransfer, demandSelfCall_own own, pure_bind]
  rcases wrong with few | ⟨destination, count, rest, arguments, wrong⟩
  · -- a list of fewer than two is none that the function looks into
    rcases arguments : call.input.arguments with _ | ⟨first, _ | ⟨second, rest⟩⟩
    · rfl
    · rfl
    · rw [arguments] at few
      exact absurd few (by simp)
  · have none : listedMovements? count rest = none := by
      refine listedMovements?_miscounted (wrong.imp_right (.imp_right (.imp_right fun short => ?_)))
      rw [arguments, List.length_cons, List.length_cons] at short
      omega
    simp only [arguments, none]
    rfl

private theorem run_spelled (ready : world.builtinCosts = some costs)
    (named : call.function = Function.multiTransfer.name)
    (own : call.recipient = call.input.caller)
    (gas : costs.getD Function.multiTransfer.name 0 ≤ call.input.gasProvided)
    {destination count : Bytes} {listed : List (Bytes × Bytes × Bytes)} {further : List Bytes}
    (arguments : call.input.arguments = destination :: count :: (spelled listed ++ further))
    (short : count.length ≤ 8) (counted : Bytes.toNat count = listed.length) (filled : listed ≠ []) :
    run call world = settle (call.input.gasProvided - costs.getD Function.multiTransfer.name 0)
      (movements call destination listed >>= fun logs => pure (touching destination logs)) world := by
  rw [run_paid ready named gas, Function.action]
  simp only [multiTransfer, demandSelfCall_own own, arguments, pure_bind,
    listedMovements?_spelled short counted filled further]
  rfl

/-- A transfer of several amounts is refused as it stands if its arguments are miscounted. Otherwise it
makes the transfers that it counts, in their order, and no argument behind them has a part in it. -/
theorem run_multiTransfer (ready : world.builtinCosts = some costs)
    (named : call.function = Function.multiTransfer.name)
    (own : call.recipient = call.input.caller)
    (gas : costs.getD Function.multiTransfer.name 0 ≤ call.input.gasProvided) :
    (Miscounted call.input.arguments →
      run call world = .ok (.failure .userError Refusal.invalidArguments.message) world) ∧
    (¬Miscounted call.input.arguments →
      ∃ destination count listed further,
        call.input.arguments = destination :: count :: (spelled listed ++ further) ∧
        listed.length = Bytes.toNat count ∧
        Carried call destination (listed.map asked)
          (call.input.gasProvided - costs.getD Function.multiTransfer.name 0) world (run call world) ∧
        ∀ others : List Bytes,
          run (given call (destination :: count :: (spelled listed ++ others))) world =
            run call world) := by
  constructor
  · intro wrong
    rw [run_paid ready named gas, Function.action, multiTransfer_miscounted own wrong]
    rfl
  · intro counted
    obtain ⟨destination, count, listed, further, arguments, short, number, filled⟩ :=
      spelled_of_counted counted
    have settled := run_spelled ready named own gas arguments short number filled
    refine ⟨destination, count, listed, further, arguments, number.symm, ?_, fun others => ?_⟩
    · rw [settled]
      exact carried_movements call destination listed _ world
    · -- the movements look at the caller and the name of their call alone
      have other := @run_spelled (given call (destination :: count :: (spelled listed ++ others)))
        world costs ready named own gas _ _ _ _ rfl short number filled
      rw [movements_given] at other
      exact other.trans settled.symm

/-- A call by which an account sends one of its tokens, with an argument that is not counted. -/
def parcel : Call where
  input :=
    { (default : CallInput) with
      caller := destroyer.address
      arguments := [List.replicate Address.length 2, [1], Utf8.ofString "TOKEN-123456", [], [1], [7]] }
  recipient := destroyer.address
  function := Function.multiTransfer.name

/-- A count that leaves two when it is tripled in sixty-four bits. -/
def wrapping : Bytes := [0x55, 0x55, 0x55, 0x55, 0x55, 0x55, 0x55, 0x56]

/-- The call stands for one transfer, and with a count that would wrap around it is refused. -/
theorem run_multiTransfer_parcel :
    (∃ destination count listed further,
      parcel.input.arguments = destination :: count :: (spelled listed ++ further) ∧
      listed.length = 1 ∧
      Carried parcel destination (listed.map asked) 0 (.alone destroyer)
        (run parcel (.alone destroyer))) ∧
    run (given parcel [[], wrapping, [], []]) (.alone destroyer) =
      .ok (.failure .userError Refusal.invalidArguments.message) (.alone destroyer) := by
  have gas : (.empty : OrdMap String UInt64).getD Function.multiTransfer.name 0 ≤
      parcel.input.gasProvided := by decide
  have counted : ¬Miscounted parcel.input.arguments := by
    rintro (few | ⟨destination, count, rest, same, wrong⟩)
    · revert few
      decide
    · obtain ⟨rfl, rfl, rfl⟩ : destination = _ ∧ count = _ ∧ rest = _ := by
        simpa only [List.cons.injEq, parcel, eq_comm] using same
      revert wrong
      decide
  have wrong : Miscounted (given parcel [[], wrapping, [], []]).input.arguments :=
    .inr ⟨[], wrapping, [[], []], rfl, by decide⟩
  refine ⟨?_, (@run_multiTransfer (given parcel [[], wrapping, [], []]) (.alone destroyer) _
    rfl rfl rfl gas).1 wrong⟩
  obtain ⟨destination, count, listed, further, arguments, number, carried, -⟩ :=
    (@run_multiTransfer parcel (.alone destroyer) _ rfl rfl rfl gas).2 counted
  refine ⟨destination, count, listed, further, arguments, ?_, carried⟩
  obtain ⟨-, second⟩ := List.cons.inj arguments
  rw [number, ← (List.cons.inj second).1]
  rfl

end Calls

end ChainScenario.Builtin
