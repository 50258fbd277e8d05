import ChainScenario.Proofs.Alike
import ChainScenario.Proofs.Entries
import ChainScenario.Proofs.WrittenKeys

/-!
# Instances that a call names

Six functions are told by bytes which instances they are about. A number of more than 64 bits is not
refused: the instance is that of its low 64 bits. Main statements:
- `alike_run`: what other instances anyone holds has no part in a call.
- `run_instances`: a call that ends well is about the instances it names, with their numbers cut.
-/
namespace ChainScenario

open Token

/-! ## Ledgers that agree on slots -/

/-- Two accounts agree but for their slots that are not seen. -/
structure Account.AgreeOn (seen : Bytes → Prop) (account other : Account) : Prop where
  bare : account.bare = other.bare
  stored : ∀ key, (holdingMark <+: key → seen key) → account.stored key = other.stored key

/-- Two ledgers agree but for slots that are not seen. -/
structure World.AgreeOn (seen : Bytes → Prop) (world other : World) : Prop where
  context : world.context = other.context
  lastCreated : world.lastCreated = other.lastCreated
  accounts : ∀ address,
    Option.Rel (Account.AgreeOn seen) (world.account? address) (other.account? address)

section Agreement

variable {seen : Bytes → Prop}

namespace Account.AgreeOn

variable {account other : Account}

theorem refl (account : Account) : account.AgreeOn seen account := ⟨rfl, fun _ _ => rfl⟩

/-- The same write keeps two accounts in agreement, also where they need not agree. -/
theorem put (agree : account.AgreeOn seen other) (key value : Bytes) :
    (account.put key value).AgreeOn seen (other.put key value) where
  bare := agree.bare
  stored key visible := by rw [stored_put, stored_put, agree.stored key visible]

theorem remove (agree : account.AgreeOn seen other) (key : Bytes) :
    (account.remove key).AgreeOn seen (other.remove key) where
  bare := agree.bare
  stored key visible := by rw [stored_remove, stored_remove, agree.stored key visible]

theorem setHolding (agree : account.AgreeOn seen other) (token : Bytes) (nonce : UInt64)
    (holding : Holding) :
    (account.setHolding token nonce holding).AgreeOn seen (other.setHolding token nonce holding) :=
  agree.put _ _

theorem saveHolding (agree : account.AgreeOn seen other) (token : Bytes) (nonce : UInt64)
    (holding : Holding) :
    (account.saveHolding token nonce holding).AgreeOn seen
      (other.saveHolding token nonce holding) := by
  unfold Account.saveHolding
  split
  · exact agree.remove _
  · exact agree.put _ _

/-- A change that does not look at the storage keeps two accounts in agreement. -/
theorem rewrite (agree : account.AgreeOn seen other) (change : Account → Account)
    (stores : ∀ account key, (change account).stored key = account.stored key)
    (bares : ∀ account, (change account).bare = change account.bare) :
    (change account).AgreeOn seen (change other) where
  bare := by rw [bares, bares, agree.bare]
  stored key visible := by rw [stores, stores, agree.stored key visible]

theorem balance_eq (agree : account.AgreeOn seen other) : account.balance = other.balance := by
  change account.bare.balance = other.bare.balance
  rw [agree.bare]

theorem holding?_eq (agree : account.AgreeOn seen other) {token : Bytes} {nonce : UInt64}
    (visible : seen (holdingKey token nonce)) :
    account.holding? token nonce = other.holding? token nonce := by
  unfold Account.holding? decoded
  rw [agree.stored _ fun _ => visible]

/-- Roles are not kept in slots. -/
theorem hasRole_eq (agree : account.AgreeOn seen other) (token role : Bytes) :
    account.hasRole token role = other.hasRole token role := by
  unfold hasRole roles decoded
  rw [agree.stored _ fun marked => absurd marked (unheld_rolesKey token)]

end Account.AgreeOn

namespace World.AgreeOn

variable {world other : World}

theorem accountOrBlank (agree : world.AgreeOn seen other) (address : Bytes) :
    (world.accountOrBlank address).AgreeOn seen (other.accountOrBlank address) := by
  have related := agree.accounts address
  change ((world.account? address).getD _).AgreeOn seen ((other.account? address).getD _)
  generalize world.account? address = found, other.account? address = found' at related ⊢
  cases related with
  | some agree => exact agree
  | none => exact .refl _

theorem setAccount (agree : world.AgreeOn seen other) (address : Bytes) {account account' : Account}
    (same : account.AgreeOn seen account') :
    (world.setAccount address account).AgreeOn seen (other.setAccount address account') where
  context := agree.context
  lastCreated := agree.lastCreated
  accounts found := by
    rw [account?_setAccount, account?_setAccount]
    split
    · exact .some same
    · exact agree.accounts found

end World.AgreeOn
end Agreement

namespace Builtin

open Builtin.Action

/-! ## Actions side by side -/

section Rules

variable {α : Type} {related : World → World → Prop} {seen : Bytes → Prop}

theorem alike_refuse (refusal : Refusal) :
    Alike related (refuse refusal : Action α) (refuse refusal) :=
  alike_throw _

theorem alike_demand (condition : Bool) (refusal : Refusal) :
    Alike related (demand condition refusal) (demand condition refusal) := by
  unfold demand
  split
  · exact alike_pure _
  · exact alike_refuse _

theorem alike_need (value : Option α) (refusal : Refusal) :
    Alike related (need value refusal) (need value refusal) := by
  unfold need
  split
  · exact alike_pure _
  · exact alike_refuse _

theorem alike_stored (result : Except Token.Fault α) :
    Alike related (Action.stored result) (Action.stored result) := by
  unfold Action.stored
  split
  · exact alike_pure _
  · exact alike_throw _

theorem alike_positive (bytes : Bytes) : Alike related (positive bytes) (positive bytes) :=
  (alike_demand _ _).bind fun _ => alike_pure _

theorem alike_put {account other : Account} (agree : account.AgreeOn seen other) (address : Bytes) :
    Alike (World.AgreeOn seen) (put address account) (put address other) :=
  alike_modify fun _ _ same => same.setAccount address agree

/-- An account that must be there is missing on both sides, or the two agree. -/
theorem alike_found {address : Bytes} {refusal : Refusal} {next : Account → Action α}
    (behind : ∀ account other, account.AgreeOn seen other →
      Alike (World.AgreeOn seen) (next account) (next other)) :
    Alike (World.AgreeOn seen)
      ((get : Action World) >>= fun world => need (world.account? address) refusal >>= next)
      ((get : Action World) >>= fun world => need (world.account? address) refusal >>= next) := by
  refine alike_get_bind fun world other agree => ?_
  have related := agree.accounts address
  generalize world.account? address = found, other.account? address = found' at related ⊢
  cases related with
  | some same => exact behind _ _ same _ _ agree
  | none => exact .error _ agree

theorem alike_settle {left right : Action CallOutput} (alike : Alike related left right)
    (gasLeft : UInt64) : Alike related (settle gasLeft left) (settle gasLeft right) := by
  intro world other holds
  unfold settle
  -- a refusal becomes a result on both sides, a fault stays one
  obtain ⟨output, _, _, ran, ran', holds⟩ | ⟨stop, _, _, ran, ran', holds⟩ :=
    (alike world other holds).ends
  · rw [ran, ran']
    exact .ok _ holds
  · rw [ran, ran']
    cases stop with
    | refused refusal => exact .ok _ holds
    | broken fault => exact .error _ holds

end Rules

/-! ## Functions side by side -/

section Functions

variable {seen : Bytes → Prop} {call : Call}

theorem alike_moveTokens {source destination token : Bytes} {nonce : UInt64} {value : Nat}
    (visible : seen (holdingKey token nonce)) :
    Alike (World.AgreeOn seen) (moveTokens source destination token nonce value)
      (moveTokens source destination token nonce value) := by
  refine (alike_demand _ _).bind fun _ => alike_found fun sender other agree => ?_
  -- only the two readings need the slot, the writes keep agreement wherever they go
  rw [agree.holding?_eq visible]
  refine (alike_stored _).bind fun held => (alike_need _ _).bind fun sent =>
    (alike_demand _ _).bind fun _ => (alike_demand _ _).bind fun _ =>
      (alike_put (agree.saveHolding _ _ _) _).bind fun _ => alike_get_bind fun _ _ middle => ?_
  have receiver := middle.accountOrBlank destination
  rw [receiver.holding?_eq visible]
  exact ((alike_stored _).bind fun held => alike_put (receiver.setHolding _ _ _) _) _ _ middle

theorem alike_moveCurrency (source destination : Bytes) (value : Nat) :
    Alike (World.AgreeOn seen) (moveCurrency source destination value)
      (moveCurrency source destination value) := by
  refine (alike_demand _ _).bind fun _ => alike_found fun sender other agree => ?_
  unfold Account.takeFromBalance
  -- the balances are the same on both sides, so both can pay or neither can
  by_cases poor : sender.balance < value
  · have too : other.balance < value := agree.balance_eq ▸ poor
    simp only [if_pos poor, if_pos too]
    exact alike_refuse _
  · have too : ¬other.balance < value := agree.balance_eq ▸ poor
    simp only [if_neg poor, if_neg too]
    have payer := agree.rewrite (fun account =>
      { account with
        balance := account.balance - value
        balanceDelta := account.balanceDelta - value }) (fun _ _ => rfl) fun _ => rfl
    refine (alike_put payer _).bind fun _ => alike_get_bind fun _ _ middle => ?_
    have receiver := (middle.accountOrBlank destination).rewrite (fun account =>
      { account with balance := account.balance + value }) (fun _ _ => rfl) fun _ => rfl
    exact alike_put receiver _ _ _ middle

theorem alike_moveAny {source destination token : Bytes} {nonce : UInt64} {value : Nat}
    (visible : token ≠ currency → seen (holdingKey token nonce)) :
    Alike (World.AgreeOn seen) (moveAny source destination token nonce value)
      (moveAny source destination token nonce value) := by
  unfold moveAny
  split
  · exact alike_moveCurrency _ _ _
  · rename_i tokens
    exact alike_moveTokens (visible tokens)

theorem alike_movements {destination : Bytes} {listed : List (Bytes × Bytes × Bytes)}
    (visible : ∀ movement ∈ listed, movement.1 ≠ currency →
      seen (holdingKey movement.1 (nonceOfBytes movement.2.1))) :
    Alike (World.AgreeOn seen) (movements call destination listed)
      (movements call destination listed) := by
  -- By induction on the movements: each leaves ledgers in agreement to the next.
  induction listed with
  | nil => exact alike_pure _
  | cons movement rest ih =>
    obtain ⟨this, others⟩ := List.forall_mem_cons.1 visible
    exact (alike_positive _).bind fun _ => (alike_moveAny this).bind fun _ =>
      (ih others).bind fun _ => alike_pure _

theorem alike_burnFrom {holder token : Bytes} {nonce : UInt64} {value : Nat}
    (visible : seen (holdingKey token nonce)) :
    Alike (World.AgreeOn seen) (burnFrom holder token nonce value)
      (burnFrom holder token nonce value) := by
  refine alike_found fun account other agree => ?_
  rw [agree.holding?_eq visible]
  exact (alike_stored _).bind fun held => (alike_need _ _).bind fun held =>
    (alike_demand _ _).bind fun _ => alike_put (agree.saveHolding _ _ _) _

theorem alike_demandRole (holder token : Bytes) (role : Role) :
    Alike (World.AgreeOn seen) (demandRole holder token role) (demandRole holder token role) := by
  refine alike_get_bind fun world other agree => ?_
  have related := agree.accounts holder
  generalize world.account? holder = found, other.account? holder = found' at related ⊢
  cases related with
  | some same =>
    dsimp only
    rw [same.hasRole_eq]
    exact ((alike_stored _).bind fun _ => alike_demand _ _) _ _ agree
  | none => exact .error _ agree

theorem alike_ownInstance {role : Role}
    (visible : ∀ token number rest, call.input.arguments = token :: number :: rest →
      seen (holdingKey token (nonceOfBytes number))) :
    Alike (World.AgreeOn seen) (ownInstance call role) (ownInstance call role) := by
  refine (alike_demand _ _).bind fun _ => ?_
  split
  · rename_i token number argument rest arguments
    refine (alike_demandRole _ _ _).bind fun _ => alike_found fun account other agree => ?_
    rw [agree.holding?_eq (visible _ _ _ arguments)]
    exact (alike_stored _).bind fun _ => (alike_need _ _).bind fun _ => alike_pure _
  · exact alike_refuse _

theorem alike_setOwn (token : Bytes) (nonce : UInt64) (holding : Holding) :
    Alike (World.AgreeOn seen) (setOwn call token nonce holding) (setOwn call token nonce holding) :=
  alike_get_bind fun _ _ agree =>
    ((alike_put ((agree.accountOrBlank _).setHolding _ _ _) _).bind fun _ => alike_pure _) _ _ agree

end Functions

/-! ## Named instances -/

/-- The functions that are told which instances they are about. -/
def Function.numbering : List Function :=
  [.instanceTransfer, .multiTransfer, .addQuantity, .burn, .addUris, .updateAttributes]

/-- The tokens and the numbers that arguments of such a function name. Currency has no number. -/
def Function.instances : Function → List Bytes → List (Bytes × Bytes)
  | .multiTransfer, _ :: count :: rest =>
    (((listedMovements? count rest).getD []).filter (·.1 != currency)).map fun movement =>
      (movement.1, movement.2.1)
  | .multiTransfer, _ => []
  | _, token :: number :: _ => [(token, number)]
  | _, _ => []

/-- The slot of an instance that is named by bytes. -/
def slotOf (named : Bytes × Bytes) : Bytes := holdingKey named.1 (nonceOfBytes named.2)

/-- The slots of the instances that a call names. -/
def Function.Sees (function : Function) (call : Call) (key : Bytes) : Prop :=
  ∃ named ∈ function.instances call.input.arguments, key = slotOf named

section Calls

variable {function : Function} {call : Call} {world after : World} {output : CallOutput}

theorem sees_single (single : function ≠ .multiTransfer) {token number : Bytes} {rest : List Bytes}
    (arguments : call.input.arguments = token :: number :: rest) :
    function.Sees call (holdingKey token (nonceOfBytes number)) := by
  refine ⟨(token, number), ?_, rfl⟩
  rw [arguments]
  cases function with
  | multiTransfer => contradiction
  | _ => exact List.mem_singleton_self _

theorem sees_listed {destination count : Bytes} {rest : List Bytes}
    (arguments : call.input.arguments = destination :: count :: rest)
    {listed : List (Bytes × Bytes × Bytes)} (lists : listedMovements? count rest = some listed) :
    ∀ movement ∈ listed, movement.1 ≠ currency →
      Function.multiTransfer.Sees call (holdingKey movement.1 (nonceOfBytes movement.2.1)) := by
  intro movement member tokens
  refine ⟨(movement.1, movement.2.1), ?_, rfl⟩
  simp only [Function.instances, arguments, lists, Option.getD_some]
  exact List.mem_map.2 ⟨movement, List.mem_filter.2 ⟨member, bne_iff_ne.2 tokens⟩, rfl⟩

/-- Of slots a function reads those of the instances alone that its call names. -/
theorem alike_action (takes : function ∈ Function.numbering) (call : Call) :
    Alike (World.AgreeOn (function.Sees call)) (function.action call) (function.action call) := by
  have sees := @sees_single function call
  cases function with
  | instanceTransfer =>
    refine (alike_demand _ _).bind fun _ => ?_
    split
    · rename_i arguments
      exact (alike_demand _ _).bind fun _ => (alike_positive _).bind fun _ =>
        (alike_moveTokens (sees (by decide) arguments)).bind fun _ => alike_pure _
    · exact alike_refuse _
  | multiTransfer =>
    refine (alike_demand _ _).bind fun _ => ?_
    split
    · rename_i count rest arguments
      -- a list that cannot be read is refused on both sides
      cases lists : listedMovements? count rest with
      | none => exact alike_refuse _
      | some listed =>
        exact (alike_movements (sees_listed arguments lists)).bind fun _ => alike_pure _
    · exact alike_refuse _
  | burn =>
    refine (alike_demand _ _).bind fun _ => ?_
    split
    · rename_i arguments
      exact (alike_demandRole _ _ _).bind fun _ => (alike_positive _).bind fun _ =>
        (alike_burnFrom (sees (by decide) arguments)).bind fun _ => alike_pure _
    · exact alike_refuse _
  | addQuantity =>
    exact (alike_ownInstance fun _ _ _ => sees (by decide)).bind fun _ =>
      (alike_positive _).bind fun _ => alike_setOwn _ _ _
  | addUris | updateAttributes =>
    exact (alike_ownInstance fun _ _ _ => sees (by decide)).bind fun _ =>
      (alike_need _ _).bind fun _ => alike_setOwn _ _ _
  | _ => exact absurd takes (by decide)

/-- What anyone holds of instances that a call does not name has no part in it. -/
theorem alike_run (takes : function ∈ Function.numbering) (named : call.function = function.name) :
    Alike (World.AgreeOn (function.Sees call)) (run call) (run call) := by
  refine alike_get_bind fun world other agree => ?_
  have costs : world.builtinCosts = other.builtinCosts :=
    congrArg World.Context.builtinCosts agree.context
  rw [costs, named, Function.ofName?_name]
  cases other.builtinCosts with
  | none => exact .error _ agree
  | some costs =>
    dsimp only
    split
    · exact .ok _ agree
    · exact alike_settle (alike_action takes call) _ _ _ agree

/-- A success leaves alone what all accounts store outside of the slots that its call names. -/
theorem Effect.stored_unnamed (effect : Effect call world function after)
    (takes : function ∈ Function.numbering) {key : Bytes} (unseen : ¬function.Sees call key)
    (address : Bytes) : after.stored address key = world.stored address key := by
  have sees := @sees_single function call
  have apart : ∀ slot, function.Sees call slot → key ≠ slot := by
    rintro slot seen rfl
    exact unseen seen
  cases effect with
  | instanceTransfer _ arguments _ _ moved =>
    exact moved.stored_eq (apart _ (sees (by decide) arguments)) address
  | multiTransfer _ arguments lists moved =>
    exact moved.stored_eq
      (fun movement member tokens => apart _ (sees_listed arguments lists movement member tokens))
      address
  | addQuantity own | addUris own | updateAttributes own =>
    refine World.stored_setAccount_of_same ?_ address
    rw [Account.stored_setHolding (apart _ (sees (by decide) own.arguments)),
      World.stored_of_found own.found]
  | burn _ arguments _ _ burned =>
    exact burned.stored_eq (apart _ (sees (by decide) arguments)) address
  | _ => exact absurd takes (by decide)

/-- A call that ends well has its effect on the instances that it names: it writes to no other slot, and
what is in other slots has no part in it. Their nonces are the named numbers as far as 64 bits go, so that
they are the numbers themselves exactly if these are below `2 ^ 64`. -/
theorem run_instances (takes : function ∈ Function.numbering) (named : call.function = function.name)
    (ran : run call world = .ok output after) (succeeded : output.succeeded) :
    Effect call world function after ∧
    (∀ address key, ¬function.Sees call key → after.stored address key = world.stored address key) ∧
    (∀ other, world.AgreeOn (function.Sees call) other →
      ∃ beyond, run call other = .ok output beyond ∧ after.AgreeOn (function.Sees call) beyond) ∧
    ∀ named ∈ function.instances call.input.arguments,
      (nonceOfBytes named.2).toNat = Bytes.toNat named.2 % UInt64.size ∧
        ((nonceOfBytes named.2).toNat = Bytes.toNat named.2 ↔ Bytes.toNat named.2 < UInt64.size) := by
  obtain ⟨function', named', effect, -⟩ := effect_of_run ran succeeded
  rw [named, Function.ofName?_name, Option.some.injEq] at named'
  subst named'
  refine ⟨effect, fun address key unseen => effect.stored_unnamed takes unseen address, ?_, ?_⟩
  · intro other agree
    -- the call ends alike on the other ledger, and here it ended well
    obtain ⟨_, _, beyond, ran', there, agrees⟩ | ⟨_, _, _, ran', _⟩ :=
      (alike_run takes named world other agree).ends
    · rw [ran] at ran'
      cases ran'
      exact ⟨beyond, there, agrees⟩
    · rw [ran] at ran'
      cases ran'
  · intro named _
    have low := toNat_nonceOfBytes named.2
    refine ⟨low, fun same => ?_, fun below => ?_⟩
    · rw [← same]
      exact UInt64.toNat_lt _
    · rw [low, Nat.mod_eq_of_lt below]

/-- An account with three of an instance. -/
def exhibitor : Account :=
  { Account.blank (List.replicate Address.length 1) with
    storage := .ofList [(holdingKey (Utf8.ofString "PICTURE-123456") 1, [1, 1, 3, 0, 0])] }

/-- A call that sends two of it, under a number of nine bytes. -/
def misnumbered : Call where
  input :=
    { (default : CallInput) with
      caller := exhibitor.address
      arguments := [Utf8.ofString "PICTURE-123456", [1, 0, 0, 0, 0, 0, 0, 0, 1], [2],
        List.replicate Address.length 2] }
  recipient := exhibitor.address
  function := Function.instanceTransfer.name

/-- The call ends well and writes to the first instance only. -/
theorem run_instances_misnumbered : ∃ output after,
    run misnumbered (.alone exhibitor) = .ok output after ∧ output.succeeded ∧
      ∀ address key, key ≠ holdingKey (Utf8.ofString "PICTURE-123456") 1 →
        after.stored address key = (World.alone exhibitor).stored address key := by
  have ended : endedWith (fun output _ => output.succeeded)
      (run misnumbered (.alone exhibitor)) = true := by decide +kernel
  obtain ⟨output, after, ran, succeeded⟩ := ok_of_endedWith ended
  obtain ⟨-, keeps, -, -⟩ := @run_instances .instanceTransfer misnumbered _ _ _ (by decide) rfl ran
    succeeded
  refine ⟨output, after, ran, succeeded, fun address key other => keeps address key ?_⟩
  rintro ⟨named, member, rfl⟩
  obtain rfl := List.mem_singleton.1 member
  exact other rfl

/-- Numbers above 64 bits are among those that calls end well with. -/
theorem wide_number_passes : ¬∀ (function : Function) (call : Call) (world after : World)
    (output : CallOutput), function ∈ Function.numbering → call.function = function.name →
      run call world = .ok output after → output.succeeded →
        ∀ named ∈ function.instances call.input.arguments, Bytes.toNat named.2 < UInt64.size := by
  intro bounded
  have ended : endedWith (fun output _ => output.succeeded)
      (run misnumbered (.alone exhibitor)) = true := by decide +kernel
  obtain ⟨output, after, ran, succeeded⟩ := ok_of_endedWith ended
  have below := bounded .instanceTransfer misnumbered _ _ _ (by decide) rfl ran succeeded _
    List.mem_cons_self
  revert below
  decide

end Calls

end Builtin
end ChainScenario
