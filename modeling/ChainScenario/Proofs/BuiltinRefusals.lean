import ChainScenario.Proofs.BuiltinEffects

/-!
# Refused calls

A refused call leaves the ledger as it was (`refusesCleanly_action`), but for a transfer of several
amounts: that one keeps what it moved before (`refused_multiTransfer`). Main statement: `run_refused`,
a call by name that does not end well leaves no trace.
-/
namespace ChainScenario.Builtin

open Builtin.Action Token

/-- Whatever stops an action leaves the ledger as it was. -/
def StopsCleanly {α : Type} (action : Action α) : Prop :=
  ∀ world stop after, action world = .error stop after → after = world

/-- Nothing stops an action. -/
def NeverStops {α : Type} (action : Action α) : Prop :=
  ∀ world stop after, action world ≠ .error stop after

/-- A refusal leaves the ledger as it was. -/
def RefusesCleanly {α : Type} (action : Action α) : Prop :=
  ∀ world refusal after, action world = .error (.refused refusal) after → after = world

/-- An action refuses nothing, though it may find the ledger broken. -/
def NeverRefuses {α : Type} (action : Action α) : Prop :=
  ∀ world refusal after, action world ≠ .error (.refused refusal) after

variable {α β : Type}

/-! ## Actions that stop -/

theorem neverStops_pure (value : α) : NeverStops (pure value) := by
  intro world stop after ran
  simp at ran

theorem neverStops_put (address : Bytes) (account : Account) : NeverStops (put address account) := by
  intro world stop after ran
  simp [put] at ran

theorem neverStops_get : NeverStops get := by
  intro world stop after ran
  simp at ran

theorem NeverStops.bind {first : Action α} {next : α → Action β} (before : NeverStops first)
    (behind : ∀ value, NeverStops (next value)) : NeverStops (first >>= next) := by
  intro world stop after ran
  rcases error_bind.1 ran with stopped | ⟨value, middle, -, stopped⟩
  · exact before _ _ _ stopped
  · exact behind value _ _ _ stopped

theorem NeverStops.cleanly {action : Action α} (never : NeverStops action) : StopsCleanly action :=
  fun _ _ _ ran => absurd ran (never _ _ _)

/-- What only reads leaves the ledger as it was. -/
theorem stopsCleanly_of_reads {action : Action α} (reads : Keeps id action) : StopsCleanly action :=
  fun _ _ _ ran => reads.error ran

/-- Reading first does no harm to what stops cleanly. -/
theorem StopsCleanly.after {first : Action α} {next : α → Action β} (reads : Keeps id first)
    (behind : ∀ value, StopsCleanly (next value)) : StopsCleanly (first >>= next) := by
  intro world stop after ran
  rcases error_bind.1 ran with stopped | ⟨value, middle, given, stopped⟩
  · exact reads.error stopped
  · rw [behind value _ _ _ stopped]
    exact reads.ok given

/-- What follows a clean action may write if nothing stops it any more. -/
theorem StopsCleanly.before {first : Action α} {next : α → Action β} (clean : StopsCleanly first)
    (behind : ∀ value, NeverStops (next value)) : StopsCleanly (first >>= next) := by
  intro world stop after ran
  rcases error_bind.1 ran with stopped | ⟨value, middle, -, stopped⟩
  · exact clean _ _ _ stopped
  · exact absurd stopped (behind value _ _ _)

/-! ## Actions that refuse -/

theorem StopsCleanly.refuses {action : Action α} (clean : StopsCleanly action) :
    RefusesCleanly action :=
  fun world refusal after ran => clean world (.refused refusal) after ran

theorem NeverStops.refuses {action : Action α} (never : NeverStops action) : NeverRefuses action :=
  fun world refusal after => never world (.refused refusal) after

theorem neverRefuses_stored (result : Except Token.Fault α) :
    NeverRefuses (Action.stored result) := by
  intro world refusal after ran
  cases result <;> simp [Action.stored] at ran

theorem NeverRefuses.bind {first : Action α} {next : α → Action β} (before : NeverRefuses first)
    (behind : ∀ value, NeverRefuses (next value)) : NeverRefuses (first >>= next) := by
  intro world refusal after ran
  rcases error_bind.1 ran with refused | ⟨value, middle, -, refused⟩
  · exact before _ _ _ refused
  · exact behind value _ _ _ refused

theorem NeverRefuses.cleanly {action : Action α} (never : NeverRefuses action) :
    RefusesCleanly action :=
  fun _ _ _ ran => absurd ran (never _ _ _)

/-- Reading first does no harm to what refuses cleanly. -/
theorem RefusesCleanly.after {first : Action α} {next : α → Action β} (reads : Keeps id first)
    (behind : ∀ value, RefusesCleanly (next value)) : RefusesCleanly (first >>= next) := by
  intro world refusal after ran
  rcases error_bind.1 ran with refused | ⟨value, middle, given, refused⟩
  · exact reads.error refused
  · rw [behind value _ _ _ refused]
    exact reads.ok given

/-- What follows a clean action may write if it does not refuse any more. -/
theorem RefusesCleanly.before {first : Action α} {next : α → Action β}
    (clean : RefusesCleanly first) (behind : ∀ value, NeverRefuses (next value)) :
    RefusesCleanly (first >>= next) := by
  intro world refusal after ran
  rcases error_bind.1 ran with refused | ⟨value, middle, -, refused⟩
  · exact clean _ _ _ refused
  · exact absurd refused (behind value _ _ _)

/-! ## Functions that stop -/

private theorem stopsCleanly_refuse (refusal : Refusal) :
    StopsCleanly (refuse refusal : Action α) :=
  stopsCleanly_of_reads (keeps_refuse refusal)

theorem refusesCleanly_moveTokens (source destination token : Bytes) (nonce : UInt64) (value : Nat) :
    RefusesCleanly (moveTokens source destination token nonce value) := by
  -- All refusals stand before the first write; what follows it can only break.
  refine .after (keeps_demand _ _) fun _ => .after keeps_get fun _ => .after (keeps_need _ _) fun _ =>
    .after (keeps_stored _) fun _ => .after (keeps_need _ _) fun _ => .after (keeps_demand _ _) fun _ =>
      .after (keeps_demand _ _) fun _ => NeverRefuses.cleanly ?_
  exact (neverStops_put _ _).refuses.bind fun _ => neverStops_get.refuses.bind fun _ =>
    (neverRefuses_stored _).bind fun _ => (neverStops_put _ _).refuses

theorem stopsCleanly_moveCurrency (source destination : Bytes) (value : Nat) :
    StopsCleanly (moveCurrency source destination value) := by
  refine .after (keeps_demand _ _) fun _ => .after keeps_get fun _ => .after (keeps_need _ _) fun _ => ?_
  split
  · exact stopsCleanly_refuse _
  · refine NeverStops.cleanly ?_
    exact (neverStops_put _ _).bind fun _ => neverStops_get.bind fun _ => neverStops_put _ _

theorem refusesCleanly_moveAny (source destination token : Bytes) (nonce : UInt64) (value : Nat) :
    RefusesCleanly (moveAny source destination token nonce value) := by
  unfold moveAny
  split
  · exact (stopsCleanly_moveCurrency _ _ _).refuses
  · exact refusesCleanly_moveTokens _ _ _ _ _

private theorem stopsCleanly_burnFrom (holder token : Bytes) (nonce : UInt64) (value : Nat) :
    StopsCleanly (burnFrom holder token nonce value) :=
  .after keeps_get fun _ => .after (keeps_need _ _) fun _ => .after (keeps_stored _) fun _ =>
    .after (keeps_need _ _) fun _ => .after (keeps_demand _ _) fun _ => (neverStops_put _ _).cleanly

private theorem neverStops_setOwn (call : Call) (token : Bytes) (nonce : UInt64)
    (holding : Holding) : NeverStops (setOwn call token nonce holding) :=
  neverStops_get.bind fun _ => (neverStops_put _ _).bind fun _ => neverStops_pure _

private theorem stopsCleanly_changeRoles (change : List Bytes → Bytes → List Bytes) (call : Call) :
    StopsCleanly (changeRoles change call) := by
  refine .after (keeps_demand _ _) fun _ => ?_
  split
  · exact .after keeps_get fun _ => .after (keeps_stored _) fun _ =>
      ((neverStops_put _ _).bind fun _ => neverStops_pure _).cleanly
  · exact stopsCleanly_refuse _

/-- Whatever stops a function that does not move what there is, it leaves the ledger as it was. -/
theorem stopsCleanly_action {function : Function} (still : function.moves = false) (call : Call) :
    StopsCleanly (function.action call) := by
  -- Most functions end with one write and their output.
  have written (address : Bytes) (account : Account) (output : CallOutput) :
      StopsCleanly (put address account >>= fun _ => pure output) :=
    ((neverStops_put address account).bind fun _ => neverStops_pure output).cleanly
  cases function with
  | tokenTransfer | instanceTransfer | multiTransfer => cases still
  | localMint =>
    refine .after (keeps_demand _ _) fun _ => ?_
    split
    · exact .after (keeps_demandRole _ _ _) fun _ => .after (keeps_positive _) fun _ =>
        .after keeps_get fun _ => .after (keeps_stored _) fun _ => written _ _ _
    · exact stopsCleanly_refuse _
  | localBurn =>
    refine .after (keeps_demand _ _) fun _ => ?_
    split
    · exact .after (keeps_demandRole _ _ _) fun _ => .after (keeps_positive _) fun _ =>
        (stopsCleanly_burnFrom _ _ _ _).before fun _ => neverStops_pure _
    · exact stopsCleanly_refuse _
  | create =>
    refine .after (keeps_demand _ _) fun _ => ?_
    split
    · exact .after (keeps_demandRole _ _ _) fun _ => .after (keeps_positive _) fun _ =>
        .after (keeps_demand _ _) fun _ => .after keeps_get fun _ => .after (keeps_demand _ _) fun _ =>
          written _ _ _
    · exact stopsCleanly_refuse _
  | addQuantity =>
    exact .after (keeps_ownInstance _ _) fun _ => .after (keeps_positive _) fun _ =>
      (neverStops_setOwn _ _ _ _).cleanly
  | burn =>
    refine .after (keeps_demand _ _) fun _ => ?_
    split
    · exact .after (keeps_demandRole _ _ _) fun _ => .after (keeps_positive _) fun _ =>
        (stopsCleanly_burnFrom _ _ _ _).before fun _ => neverStops_pure _
    · exact stopsCleanly_refuse _
  | addUris =>
    exact .after (keeps_ownInstance _ _) fun _ => .after (keeps_need _ _) fun _ =>
      (neverStops_setOwn _ _ _ _).cleanly
  | updateAttributes =>
    exact .after (keeps_ownInstance _ _) fun _ => .after (keeps_need _ _) fun _ =>
      (neverStops_setOwn _ _ _ _).cleanly
  | setRoles => exact stopsCleanly_changeRoles _ _
  | unsetRoles => exact stopsCleanly_changeRoles _ _
  | changeOwner =>
    change StopsCleanly (changeOwner call)
    unfold changeOwner
    split
    · exact .after (keeps_demand _ _) fun _ => .after (keeps_ownContract _) fun _ => written _ _ _
    · exact stopsCleanly_refuse _
  | claimRewards =>
    change StopsCleanly (claimRewards call)
    unfold claimRewards
    split
    · refine .after (keeps_ownContract _) fun _ => NeverStops.cleanly ?_
      exact (neverStops_put _ _).bind fun _ => neverStops_get.bind fun _ =>
        (neverStops_put _ _).bind fun _ => neverStops_pure _
    · exact stopsCleanly_refuse _
  | setUsername =>
    change StopsCleanly (setUsername call)
    unfold setUsername
    split
    · exact .after (keeps_demand _ _) fun _ => .after keeps_get fun _ => .after (keeps_demand _ _) fun _ =>
        written _ _ _
    · exact stopsCleanly_refuse _
  | saveKeyValue =>
    exact .after (keeps_demand _ _) fun _ => .after (keeps_need _ _) fun _ =>
      .after (keeps_demand _ _) fun _ => .after (keeps_demand _ _) fun _ => .after keeps_get fun _ =>
        written _ _ _

/-- A refused call leaves the ledger as it was, unless it was to move several amounts. -/
theorem refusesCleanly_action {function : Function} (single : function ≠ .multiTransfer)
    (call : Call) : RefusesCleanly (function.action call) := by
  cases function with
  | multiTransfer => exact absurd rfl single
  | tokenTransfer =>
    change RefusesCleanly (tokenTransfer call)
    unfold tokenTransfer
    split
    · exact .after (keeps_positive _) fun _ => (refusesCleanly_moveTokens _ _ _ _ _).before fun _ =>
        (neverStops_pure _).refuses
    · exact (stopsCleanly_refuse _).refuses
  | instanceTransfer =>
    refine .after (keeps_demand _ _) fun _ => ?_
    split
    · exact .after (keeps_demand _ _) fun _ => .after (keeps_positive _) fun _ =>
        (refusesCleanly_moveTokens _ _ _ _ _).before fun _ => (neverStops_pure _).refuses
    · exact (stopsCleanly_refuse _).refuses
  | _ => exact (stopsCleanly_action rfl call).refuses

/-- Refused movements leave what the movements listed before the refused one did. -/
theorem refused_movements {call : Call} {destination : Bytes}
    {listed : List (Bytes × Bytes × Bytes)} {world after : World} {refusal : Refusal}
    (ran : movements call destination listed world = .error (.refused refusal) after) :
    ∃ moved, moved <+: listed ∧ AllMoved call.input.caller destination moved world after := by
  induction listed generalizing world with
  | nil => simp [movements] at ran
  | cons first rest ih =>
    obtain ⟨token, number, amount⟩ := first
    simp only [movements] at ran
    -- The refusal came from the amount, from the movement itself, or from a later movement.
    rcases error_bind.1 ran with refused | ⟨value, _, given, moving⟩
    · obtain rfl := stopsCleanly_of_reads (keeps_positive amount) _ _ _ refused
      exact ⟨[], List.nil_prefix, .none⟩
    obtain ⟨rfl, positive, rfl⟩ := ok_positive.1 given
    rcases error_bind.1 moving with refused | ⟨_, middle, moved, others⟩
    · obtain rfl := refusesCleanly_moveAny _ _ _ _ _ _ _ _ refused
      exact ⟨[], List.nil_prefix, .none⟩
    rcases error_bind.1 others with refused | ⟨_, _, _, impossible⟩
    · obtain ⟨before, listed, all⟩ := ih refused
      exact ⟨_ :: before, List.cons_prefix_cons.2 ⟨rfl, listed⟩, .more positive (ok_moveAny moved) all⟩
    · simp at impossible

/-- A refused transfer of several amounts leaves what the movements before the refused one did. -/
theorem refused_multiTransfer {call : Call} {world after : World} {refusal : Refusal}
    (ran : multiTransfer call world = .error (.refused refusal) after) :
    ∃ destination moved, AllMoved call.input.caller destination moved world after := by
  simp only [multiTransfer] at ran
  rcases error_bind.1 ran with refused | ⟨_, _, self, reading⟩
  · obtain rfl := stopsCleanly_of_reads (keeps_demand _ _) _ _ _ refused
    exact ⟨[], [], .none⟩
  -- Up to the movements nothing is written, so a refusal there has moved nothing.
  obtain ⟨-, rfl⟩ := ok_demandSelfCall.1 self
  rcases arguments : call.input.arguments with _ | ⟨destination, _ | ⟨count, rest⟩⟩ <;>
    simp only [arguments] at reading
  · obtain rfl := stopsCleanly_of_reads (keeps_refuse _) _ _ _ reading
    exact ⟨[], [], .none⟩
  · obtain rfl := stopsCleanly_of_reads (keeps_refuse _) _ _ _ reading
    exact ⟨[], [], .none⟩
  rcases error_bind.1 reading with refused | ⟨listed, _, lists, moving⟩
  · obtain rfl := stopsCleanly_of_reads (keeps_need _ _) _ _ _ refused
    exact ⟨[], [], .none⟩
  obtain ⟨-, rfl⟩ := ok_need.1 lists
  rcases error_bind.1 moving with refused | ⟨_, _, _, impossible⟩
  · obtain ⟨moved, -, others⟩ := refused_movements refused
    exact ⟨destination, moved, others⟩
  · simp at impossible

/-! ## Calls by name -/

/-- A call by name that does not end well leaves no trace in the ledger, unless it was to move several
amounts. -/
theorem run_refused {call : Call} {world after : World} {output : CallOutput}
    (single : Function.ofName? call.function ≠ some .multiTransfer)
    (ran : run call world = .ok output after) (failed : output.returnCode ≠ .ok) : after = world := by
  cases ran_of_ok ran with
  | outOfGas => rfl
  | @refused function refusal _ named refuses =>
    have other : function ≠ .multiTransfer := fun several => single (several ▸ named)
    exact refusesCleanly_action other call world refusal after refuses
  | ok _ _ plain => exact absurd plain.succeeded failed

/-- A call by name that does not end well leaves no trace in the ledger, whatever stopped it, unless it was
to move what there is. -/
theorem stateAfter_run_of_failed {call : Call} {world : World} {function : Function}
    (named : Function.ofName? call.function = some function) (still : function.moves = false)
    (failed : succeeds call world = false) : stateAfter (run call world) = world := by
  rcases run_cases call world with ⟨fault, -, ran⟩ | ran | ⟨called, gasLeft, given, ran⟩
  · rw [ran, stateAfter]
  · rw [ran, stateAfter]
  · obtain rfl : called = function := Option.some.inj (given.symm.trans named)
    rw [ran, stateAfter_settle]
    cases acted : called.action call world with
    | ok output after =>
      have plain := (effect_of_ok acted).2
      rw [succeeds, ran, settle, acted] at failed
      exact absurd plain.succeeded (of_decide_eq_false failed)
    | error stop after => exact stopsCleanly_action still call world stop after acted

/-- An account with three of a token that it may destroy. -/
def destroyer : Account :=
  { Account.blank (List.replicate Address.length 1) with
    storage := .ofList [(holdingKey (Utf8.ofString "TOKEN-123456") 0, [0, 1, 3, 0, 0]),
      (rolesKey (Utf8.ofString "TOKEN-123456"), [1, 17] ++ Utf8.ofString "ESDTRoleLocalBurn")] }

/-- The call by which it would destroy four. -/
def overdraft : Call where
  input :=
    { (default : CallInput) with
      caller := destroyer.address
      arguments := [Utf8.ofString "TOKEN-123456", [4]] }
  recipient := destroyer.address
  function := "ESDTLocalBurn"

/-- The role is there and the amount is positive, so that the call is refused only once the holding was
read. -/
theorem run_refused_overdraft : ∃ output after, run overdraft (.alone destroyer) = .ok output after ∧
    output.message = Refusal.insufficientFunds.message ∧ after = .alone destroyer := by
  have ended : endedWith (fun output _ => decide (output.returnCode ≠ .ok ∧
      output.message = Refusal.insufficientFunds.message)) (run overdraft (.alone destroyer)) = true := by
    decide +kernel
  obtain ⟨output, after, ran, facts⟩ := ok_of_endedWith ended
  obtain ⟨failed, message⟩ := of_decide_eq_true facts
  have single : Function.ofName? overdraft.function ≠ some .multiTransfer := by decide +kernel
  exact ⟨output, after, ran, message, run_refused single ran failed⟩

end ChainScenario.Builtin
