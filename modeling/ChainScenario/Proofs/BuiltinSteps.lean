import ChainScenario.Proofs.Context

/-!
# Steps of built-in functions

What the success of a guard, a movement or a look-up inside a built-in function says of the ledger, and
what the ledger is afterwards. The relations `TokensMoved`, `CurrencyMoved` and `Burned` state the
effect of a step with all that it demands.
-/
namespace ChainScenario.Builtin

open Builtin.Action Token

/-! ## Guards -/

section Guards

variable {α : Type} {world after : World}

@[simp] theorem ok_refuse {refusal : Refusal} {value : α} :
    (refuse refusal : Action α) world = .ok value after ↔ False :=
  ok_throw

@[simp] theorem ok_demand {condition : Bool} {refusal : Refusal} {value : Unit} :
    demand condition refusal world = .ok value after ↔ condition = true ∧ after = world := by
  unfold demand
  split <;> simp_all

@[simp] theorem ok_need {given : Option α} {refusal : Refusal} {value : α} :
    need given refusal world = .ok value after ↔ given = some value ∧ after = world := by
  cases given <;> simp [need]

@[simp] theorem ok_stored {result : Except Token.Fault α} {value : α} :
    Action.stored result world = .ok value after ↔ result = .ok value ∧ after = world := by
  cases result <;> simp [Action.stored]

@[simp] theorem ok_put {address : Bytes} {account : Account} {value : Unit} :
    put address account world = .ok value after ↔ after = world.setAccount address account :=
  ok_modify

@[simp] theorem ok_positive {bytes : Bytes} {value : Nat} :
    positive bytes world = .ok value after ↔
      Bytes.toNat bytes = value ∧ value ≠ 0 ∧ after = world := by
  simp only [positive, ok_bind, ok_demand, bne_iff_ne, ok_pure]
  constructor
  · rintro ⟨_, _, ⟨positive, rfl⟩, rfl, rfl⟩
    exact ⟨rfl, positive, rfl⟩
  · rintro ⟨rfl, positive, rfl⟩
    exact ⟨(), _, ⟨positive, rfl⟩, rfl, rfl⟩

@[simp] theorem ok_demandSelfCall {call : Call} {value : Unit} :
    demandSelfCall call world = .ok value after ↔
      call.recipient = call.input.caller ∧ after = world := by
  simp [demandSelfCall]

end Guards

/-- An account has a role. -/
def HasRole (world : World) (holder token : Bytes) (role : Role) : Prop :=
  ∃ account, world.account? holder = some account ∧ account.hasRole token role.name = .ok true

@[simp] theorem ok_demandRole {world after : World} {holder token : Bytes} {role : Role}
    {value : Unit} :
    demandRole holder token role world = .ok value after ↔
      HasRole world holder token role ∧ after = world := by
  simp only [demandRole, get_bind, HasRole]
  cases found : world.account? holder with
  | none => simp
  | some account =>
    simp only [ok_bind, ok_stored, ok_demand, Option.some.injEq, exists_eq_left']
    constructor
    · rintro ⟨_, _, ⟨role, rfl⟩, rfl, rfl⟩
      exact ⟨role, rfl⟩
    · rintro ⟨role, rfl⟩
      exact ⟨true, _, ⟨role, rfl⟩, rfl, rfl⟩

/-! ## Movements -/

/-- An amount of an instance went from one account to another, which may be the same. -/
inductive TokensMoved (source destination token : Bytes) (nonce : UInt64) (value : Nat)
    (world : World) : World → Prop
  | moved {sender : Account} {sent : Holding} {middle : World} {held : Option Holding}
      (addressed : destination.length = Address.length)
      (found : world.account? source = some sender)
      (holds : sender.holding? token nonce = .ok (some sent))
      (enough : value ≤ sent.value)
      (free : sent.isFrozen = false)
      (taken : middle = world.setAccount source
        (sender.saveHolding token nonce { sent with value := sent.value - value }))
      (reads : (middle.accountOrBlank destination).holding? token nonce = .ok held) :
      TokensMoved source destination token nonce value world
        (middle.setAccount destination
          ((middle.accountOrBlank destination).setHolding token nonce (received sent value held)))

/-- An amount of currency went from one account to another, which may be the same. -/
inductive CurrencyMoved (source destination : Bytes) (value : Nat) (world : World) : World → Prop
  | moved {sender payer : Account} {middle : World}
      (addressed : destination.length = Address.length)
      (found : world.account? source = some sender)
      (pays : sender.takeFromBalance value = .ok payer)
      (taken : middle = world.setAccount source payer) :
      CurrencyMoved source destination value world
        (middle.setAccount destination
          { middle.accountOrBlank destination with
            balance := (middle.accountOrBlank destination).balance + value })

/-- An amount went from one account to another: currency, if the identifier says so. -/
inductive AnyMoved (source destination token : Bytes) (nonce : UInt64) (value : Nat)
    (world after : World) : Prop
  | currency (same : token = currency) (moved : CurrencyMoved source destination value world after)
  | tokens (other : token ≠ currency)
      (moved : TokensMoved source destination token nonce value world after)

/-- Listed amounts went from one account to another, one after the other. -/
inductive AllMoved (source destination : Bytes) :
    List (Bytes × Bytes × Bytes) → World → World → Prop
  | none {world : World} : AllMoved source destination [] world world
  | more {token number amount : Bytes} {rest : List (Bytes × Bytes × Bytes)}
      {world middle after : World}
      (positive : Bytes.toNat amount ≠ 0)
      (first : AnyMoved source destination token (nonceOfBytes number) (Bytes.toNat amount) world
        middle)
      (others : AllMoved source destination rest middle after) :
      AllMoved source destination ((token, number, amount) :: rest) world after

theorem ok_moveTokens {world after : World} {source destination token : Bytes} {nonce : UInt64}
    {value : Nat} (ran : moveTokens source destination token nonce value world = .ok () after) :
    TokensMoved source destination token nonce value world after := by
  simp only [moveTokens, ok_bind, ok_demand, get_bind, ok_need, ok_stored, ok_put, beq_iff_eq,
    decide_eq_true_eq, Bool.not_eq_true'] at ran
  obtain ⟨_, _, ⟨addressed, rfl⟩, sender, _, ⟨found, rfl⟩, _, _, ⟨holds, rfl⟩, sent, _, ⟨rfl, rfl⟩, _, _,
    ⟨enough, rfl⟩, _, _, ⟨free, rfl⟩, _, middle, taken, held, _, ⟨reads, rfl⟩, rfl⟩ := ran
  exact .moved addressed found holds enough free taken reads

theorem ok_moveCurrency {world after : World} {source destination : Bytes} {value : Nat}
    (ran : moveCurrency source destination value world = .ok () after) :
    CurrencyMoved source destination value world after := by
  simp only [moveCurrency, ok_bind, ok_demand, get_bind, ok_need, beq_iff_eq] at ran
  -- The payment is judged between the look-up and the writes, so its cases are split in the middle.
  obtain ⟨_, _, ⟨addressed, rfl⟩, sender, _, ⟨found, rfl⟩, rest⟩ := ran
  cases pays : sender.takeFromBalance value with
  | error fault => simp [pays] at rest
  | ok payer =>
    simp only [pays, ok_bind, get_bind, ok_put] at rest
    obtain ⟨_, middle, taken, rfl⟩ := rest
    exact .moved addressed found pays taken

theorem ok_moveAny {world after : World} {source destination token : Bytes} {nonce : UInt64}
    {value : Nat} (ran : moveAny source destination token nonce value world = .ok () after) :
    AnyMoved source destination token nonce value world after := by
  unfold moveAny at ran
  split at ran
  · exact .currency ‹_› (ok_moveCurrency ran)
  · exact .tokens ‹_› (ok_moveTokens ran)

theorem ok_movements {call : Call} {destination : Bytes} {listed : List (Bytes × Bytes × Bytes)}
    {world after : World} {logs : List LogEntry}
    (ran : movements call destination listed world = .ok logs after) :
    AllMoved call.input.caller destination listed world after := by
  -- The induction follows the list: each movement starts from the ledger that the one before left.
  induction listed generalizing world logs with
  | nil =>
    simp only [movements, ok_pure] at ran
    rw [ran.2]
    exact .none
  | cons first rest ih =>
    obtain ⟨token, number, amount⟩ := first
    simp only [movements, ok_bind, ok_positive, ok_pure] at ran
    obtain ⟨_, _, ⟨rfl, positive, rfl⟩, _, middle, moved, _, _, others, _, rfl⟩ := ran
    exact .more positive (ok_moveAny moved) (ih others)

/-! ## What the other functions establish -/

/-- An amount of an instance was taken from an account for good. -/
inductive Burned (holder token : Bytes) (nonce : UInt64) (value : Nat) (world : World) : World → Prop
  | burned {account : Account} {held : Holding}
      (found : world.account? holder = some account)
      (holds : account.holding? token nonce = .ok (some held))
      (enough : value ≤ held.value) :
      Burned holder token nonce value world (world.setAccount holder
        (account.saveHolding token nonce { held with value := held.value - value }))

/-- The caller has a role and holds the instance it names first. -/
structure OwnInstance (call : Call) (role : Role) (world : World) (token number argument : Bytes)
    (rest : List Bytes) (account : Account) (held : Holding) : Prop where
  self : call.recipient = call.input.caller
  arguments : call.input.arguments = token :: number :: argument :: rest
  role : HasRole world call.input.caller token role
  found : world.account? call.input.caller = some account
  holds : account.holding? token (nonceOfBytes number) = .ok (some held)

/-- The recipient is a contract of the caller. -/
structure OwnContract (call : Call) (world : World) (contract : Account) : Prop where
  form : Address.isContract call.recipient
  found : world.account? call.recipient = some contract
  owner : contract.owner = call.input.caller

/-- The roles of the recipient for a token were changed. -/
inductive RolesChanged (change : List Bytes → Bytes → List Bytes) (call : Call) (world : World) :
    World → Prop
  | changed {token role : Bytes} {named held : List Bytes}
      (system : call.input.caller = Address.tokenSystem)
      (arguments : call.input.arguments = token :: role :: named)
      (holds : (world.accountOrBlank call.recipient).roles token = .ok held) :
      RolesChanged change call world (world.setAccount call.recipient
        ((world.accountOrBlank call.recipient).setRoles token ((role :: named).foldl change held)))

theorem ok_burnFrom {world after : World} {holder token : Bytes} {nonce : UInt64} {value : Nat}
    (ran : burnFrom holder token nonce value world = .ok () after) :
    Burned holder token nonce value world after := by
  simp only [burnFrom, ok_bind, get_bind, ok_need, ok_stored, ok_demand, ok_put,
    decide_eq_true_eq] at ran
  obtain ⟨account, _, ⟨found, rfl⟩, _, _, ⟨holds, rfl⟩, held, _, ⟨rfl, rfl⟩, _, _, ⟨enough, rfl⟩, rfl⟩ :=
    ran
  exact .burned found holds enough

theorem ok_ownInstance {world after : World} {call : Call} {role : Role}
    {token argument : Bytes} {nonce : UInt64} {held : Holding} {rest : List Bytes}
    (ran : ownInstance call role world = .ok (token, nonce, held, argument, rest) after) :
    after = world ∧ ∃ number account, nonce = nonceOfBytes number ∧
      OwnInstance call role world token number argument rest account held := by
  simp only [ownInstance, ok_bind, ok_demandSelfCall] at ran
  obtain ⟨_, _, ⟨self, rfl⟩, ran⟩ := ran
  -- Lists of fewer than three arguments are refused.
  rcases arguments : call.input.arguments with _ | ⟨_, _ | ⟨number, _ | ⟨_, _⟩⟩⟩ <;>
    simp only [arguments, ok_refuse] at ran
  simp only [ok_bind, ok_demandRole, get_bind, ok_need, ok_stored, ok_pure, Prod.mk.injEq] at ran
  obtain ⟨_, _, ⟨role, rfl⟩, account, _, ⟨found, rfl⟩, _, _, ⟨holds, rfl⟩, _, _, ⟨rfl, rfl⟩,
    ⟨rfl, rfl, rfl, rfl, rfl⟩, rfl⟩ := ran
  exact ⟨rfl, number, account, rfl, self, arguments, role, found, holds⟩

theorem ok_ownContract {world after : World} {call : Call} {contract : Account}
    (ran : ownContract call world = .ok contract after) :
    after = world ∧ OwnContract call world contract := by
  simp only [ownContract, ok_bind, ok_demand, get_bind, ok_need, ok_pure, beq_iff_eq] at ran
  obtain ⟨_, _, ⟨form, rfl⟩, _, _, ⟨found, rfl⟩, _, _, ⟨owner, rfl⟩, rfl, rfl⟩ := ran
  exact ⟨rfl, form, found, owner⟩

theorem ok_changeRoles {world after : World} {change : List Bytes → Bytes → List Bytes}
    {call : Call} {output : CallOutput} (ran : changeRoles change call world = .ok output after) :
    RolesChanged change call world after ∧ output = .success := by
  simp only [changeRoles, ok_bind, ok_demand, beq_iff_eq] at ran
  obtain ⟨_, _, ⟨system, rfl⟩, ran⟩ := ran
  rcases arguments : call.input.arguments with _ | ⟨_, _ | ⟨_, _⟩⟩ <;>
    simp only [arguments, ok_refuse] at ran
  simp only [ok_bind, get_bind, ok_stored, ok_put, ok_pure] at ran
  obtain ⟨held, _, ⟨holds, rfl⟩, _, _, rfl, rfl, rfl⟩ := ran
  exact ⟨.changed system arguments holds, rfl⟩

end ChainScenario.Builtin
