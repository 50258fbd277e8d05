import ChainScenario.Builtin.Run
import ChainScenario.Proofs.BuiltinSteps
import ChainScenario.Proofs.Total

/-!
# What built-in functions do

`Effect` states for every built-in function what its success demands of the call and of the ledger,
and what the ledger is afterwards. Main statements: `effect_of_ok`, every success has its effect, and
`ran_of_ok`, the ways in which a call by name ends.
-/
namespace ChainScenario.Builtin

open Builtin.Action Token

/-- Whether a function only moves what there is. -/
def Function.moves : Function → Bool
  | tokenTransfer => true
  | instanceTransfer => true
  | multiTransfer => true
  | _ => false

/-- What a successful call of a function does to the ledger. -/
inductive Effect (call : Call) (world : World) : Function → World → Prop
  | tokenTransfer {token amount : Bytes} {rest : List Bytes} {after : World}
      (arguments : call.input.arguments = token :: amount :: rest)
      (positive : Bytes.toNat amount ≠ 0)
      (moved : TokensMoved call.input.caller call.recipient token 0 (Bytes.toNat amount) world
        after) :
      Effect call world .tokenTransfer after
  | instanceTransfer {token number amount destination : Bytes} {rest : List Bytes} {after : World}
      (self : call.recipient = call.input.caller)
      (arguments : call.input.arguments = token :: number :: amount :: destination :: rest)
      (numbered : nonceOfBytes number ≠ 0)
      (positive : Bytes.toNat amount ≠ 0)
      (moved : TokensMoved call.input.caller destination token (nonceOfBytes number)
        (Bytes.toNat amount) world after) :
      Effect call world .instanceTransfer after
  | multiTransfer {destination count : Bytes} {rest : List Bytes}
      {listed : List (Bytes × Bytes × Bytes)} {after : World}
      (self : call.recipient = call.input.caller)
      (arguments : call.input.arguments = destination :: count :: rest)
      (lists : listedMovements? count rest = some listed)
      (moved : AllMoved call.input.caller destination listed world after) :
      Effect call world .multiTransfer after
  | localMint {token amount : Bytes} {held : Option Holding} {account : Account}
      (self : call.recipient = call.input.caller)
      (arguments : call.input.arguments = [token, amount])
      (role : HasRole world call.input.caller token .localMint)
      (positive : Bytes.toNat amount ≠ 0)
      (found : world.accountOrBlank call.input.caller = account)
      (holds : account.holding? token 0 = .ok held) :
      Effect call world .localMint (world.setAccount call.input.caller (account.setHolding token 0
        { held.getD (.fungible 0) with
          value := (held.getD (.fungible 0)).value + Bytes.toNat amount }))
  | localBurn {token amount : Bytes} {after : World}
      (self : call.recipient = call.input.caller)
      (arguments : call.input.arguments = [token, amount])
      (role : HasRole world call.input.caller token .localBurn)
      (positive : Bytes.toNat amount ≠ 0)
      (burned : Burned call.input.caller token 0 (Bytes.toNat amount) world after) :
      Effect call world .localBurn after
  | create {token amount name share hash attributes uri : Bytes} {uris : List Bytes}
      {account : Account} {nonce : UInt64}
      (self : call.recipient = call.input.caller)
      (arguments : call.input.arguments =
        token :: amount :: name :: share :: hash :: attributes :: uri :: uris)
      (role : HasRole world call.input.caller token .create)
      (positive : Bytes.toNat amount ≠ 0)
      (royalties : share.length ≤ 8 ∧ nonceOfBytes share ≤ maxRoyalties)
      (found : world.accountOrBlank call.input.caller = account)
      (room : (account.lastNonce token).toNat + 1 < UInt64.size)
      (next : nonce = account.lastNonce token + 1) :
      Effect call world .create (world.setAccount call.input.caller
        ((account.setHolding token nonce ⟨.nonFungible, Bytes.toNat amount, [],
          some ⟨nonce, name, call.input.caller, (nonceOfBytes share).toUInt32, hash, uri :: uris,
            attributes⟩⟩).setLastNonce token nonce))
  | addQuantity {token number amount : Bytes} {rest : List Bytes} {account : Account}
      {held : Holding}
      (own : OwnInstance call .addQuantity world token number amount rest account held)
      (positive : Bytes.toNat amount ≠ 0) :
      Effect call world .addQuantity (world.setAccount call.input.caller
        (account.setHolding token (nonceOfBytes number)
          { held with value := held.value + Bytes.toNat amount }))
  | burn {token number amount : Bytes} {after : World}
      (self : call.recipient = call.input.caller)
      (arguments : call.input.arguments = [token, number, amount])
      (role : HasRole world call.input.caller token .burn)
      (positive : Bytes.toNat amount ≠ 0)
      (burned : Burned call.input.caller token (nonceOfBytes number) (Bytes.toNat amount) world
        after) :
      Effect call world .burn after
  | addUris {token number uri : Bytes} {uris : List Bytes} {account : Account} {held : Holding}
      {metadata : Metadata}
      (own : OwnInstance call .addUri world token number uri uris account held)
      (described : held.metadata = some metadata) :
      Effect call world .addUris (world.setAccount call.input.caller
        (account.setHolding token (nonceOfBytes number)
          { held with metadata := some { metadata with uris := metadata.uris ++ uri :: uris } }))
  | updateAttributes {token number attributes : Bytes} {rest : List Bytes} {account : Account}
      {held : Holding} {metadata : Metadata}
      (own : OwnInstance call .updateAttributes world token number attributes rest account held)
      (described : held.metadata = some metadata) :
      Effect call world .updateAttributes (world.setAccount call.input.caller
        (account.setHolding token (nonceOfBytes number)
          { held with metadata := some { metadata with attributes := attributes } }))
  | setRoles {after : World} (changed : RolesChanged grant call world after) :
      Effect call world .setRoles after
  | unsetRoles {after : World} (changed : RolesChanged revoke call world after) :
      Effect call world .unsetRoles after
  | changeOwner {owner : Bytes} {contract : Account}
      (arguments : call.input.arguments = [owner])
      (addressed : owner.length = Address.length)
      (own : OwnContract call world contract) :
      Effect call world .changeOwner
        (world.setAccount call.recipient { contract with owner := owner })
  | claimRewards {contract : Account} {middle : World}
      (arguments : call.input.arguments = [])
      (own : OwnContract call world contract)
      (taken : middle = world.setAccount call.recipient { contract with developerReward := 0 }) :
      Effect call world .claimRewards (middle.setAccount call.input.caller
        { middle.accountOrBlank call.input.caller with
          balance := (middle.accountOrBlank call.input.caller).balance + contract.developerReward })
  | setUsername {username : Bytes} {account : Account}
      (arguments : call.input.arguments = [username])
      (named : username ≠ [])
      (found : world.accountOrBlank call.recipient = account)
      (free : account.username = []) :
      Effect call world .setUsername
        (world.setAccount call.recipient { account with username := username })
  | saveKeyValue {entries : List (Bytes × Bytes)} {account : Account}
      (self : call.recipient = call.input.caller)
      (lists : pairs? call.input.arguments = some entries)
      (allowed : ∀ entry ∈ entries, Address.isProtected entry.1 = false)
      (found : world.accountOrBlank call.recipient = account) :
      Effect call world .saveKeyValue (world.setAccount call.recipient
        (entries.foldl (fun account entry => account.save entry.1 entry.2) account))

/-- A success that moves no currency by its output, deletes no account, and touches only accounts that
are in the ledger afterwards. -/
structure Plain (output : CallOutput) (after : World) : Prop where
  succeeded : output.returnCode = .ok
  idle : ∀ entry ∈ output.changes.toList, entry.2 = .none
  known : ∀ entry ∈ output.changes.toList, (after.account? entry.1).isSome
  deleted : output.deleted = []

theorem Plain.output_succeeded {output : CallOutput} {after : World} (plain : Plain output after) :
    output.succeeded := by
  simp [CallOutput.succeeded, plain.succeeded]

theorem plain_success {output : CallOutput} {after : World} (same : output.changes = .empty)
    (code : output.returnCode = .ok) (deleted : output.deleted = []) : Plain output after :=
  ⟨code, by simp [same, OrdMap.empty], by simp [same, OrdMap.empty], deleted⟩

theorem plain_touching {destination : Bytes} {after : World}
    (known : (after.account? destination).isSome) (logs : List LogEntry) :
    Plain (touching destination logs) after := by
  have only : ∀ entry ∈ (touching destination logs).changes.toList, entry = (destination, .none) := by
    intro entry member
    simpa [touching, OrdMap.insert, OrdMap.put, OrdMap.empty] using member
  refine ⟨rfl, fun entry member => ?_, fun entry member => ?_, rfl⟩
  · rw [only entry member]
  · rw [only entry member]
    exact known

section Receivers

variable {source destination token : Bytes} {nonce : UInt64} {value : Nat} {world after : World}

theorem isSome_setAccount (world : World) (address : Bytes) (account : Account) :
    ((world.setAccount address account).account? address).isSome := by
  rw [World.account?_setAccount, if_pos rfl]
  rfl

theorem TokensMoved.known (moved : TokensMoved source destination token nonce value world after) :
    (after.account? destination).isSome := by
  obtain ⟨-, -, -, -, -, -, -⟩ := moved
  exact isSome_setAccount _ _ _

theorem AnyMoved.known (moved : AnyMoved source destination token nonce value world after) :
    (after.account? destination).isSome := by
  cases moved with
  | currency _ moved =>
    obtain ⟨-, -, -, -⟩ := moved
    exact isSome_setAccount _ _ _
  | tokens _ moved => exact moved.known

theorem AllMoved.known {listed : List (Bytes × Bytes × Bytes)}
    (moved : AllMoved source destination listed world after) (some : listed ≠ []) :
    (after.account? destination).isSome := by
  induction moved with
  | none => contradiction
  | more _ first others ih =>
    -- The last movement is the one that wrote the receiver.
    cases others with
    | none => exact first.known
    | more _ _ _ => exact ih (List.cons_ne_nil _ _)

end Receivers

theorem listed_ne_nil {count : Bytes} {rest : List Bytes} {listed : List (Bytes × Bytes × Bytes)}
    (lists : listedMovements? count rest = some listed) : listed ≠ [] := by
  rintro rfl
  simp only [listedMovements?] at lists
  split at lists
  · cases lists
  · rename_i fits
    -- A count that fits is not zero, so that at least one movement is read or the list is refused.
    obtain ⟨number, same⟩ : ∃ number, (nonceOfBytes count).toNat = number + 1 :=
      ⟨(nonceOfBytes count).toNat - 1, by omega⟩
    rw [same] at lists
    rcases rest with _ | ⟨_, _ | ⟨_, _ | ⟨_, _⟩⟩⟩ <;> simp [triples?] at lists

/-! ## Every success has its effect -/

section Success

open World

variable {call : Call} {world after : World} {output : CallOutput}

private theorem effect_tokenTransfer (ran : tokenTransfer call world = .ok output after) :
    Effect call world .tokenTransfer after ∧ Plain output after := by
  unfold tokenTransfer at ran
  rcases arguments : call.input.arguments with _ | ⟨_, _ | ⟨_, _⟩⟩ <;>
    simp only [arguments, ok_refuse] at ran
  simp only [ok_bind, ok_positive, ok_pure] at ran
  obtain ⟨_, _, ⟨rfl, positive, rfl⟩, _, _, moved, rfl, rfl⟩ := ran
  have moves := ok_moveTokens moved
  exact ⟨.tokenTransfer arguments positive moves, plain_touching moves.known _⟩

private theorem effect_instanceTransfer (ran : instanceTransfer call world = .ok output after) :
    Effect call world .instanceTransfer after ∧ Plain output after := by
  simp only [instanceTransfer, ok_bind, ok_demandSelfCall] at ran
  obtain ⟨_, _, ⟨self, rfl⟩, ran⟩ := ran
  rcases arguments : call.input.arguments with _ | ⟨_, _ | ⟨_, _ | ⟨_, _ | ⟨_, _⟩⟩⟩⟩ <;>
    simp only [arguments, ok_refuse] at ran
  simp only [ok_bind, ok_demand, ok_positive, ok_pure, bne_iff_ne] at ran
  obtain ⟨_, _, ⟨numbered, rfl⟩, _, _, ⟨rfl, positive, rfl⟩, _, _, moved, rfl, rfl⟩ := ran
  have moves := ok_moveTokens moved
  exact ⟨.instanceTransfer self arguments numbered positive moves, plain_touching moves.known _⟩

private theorem effect_multiTransfer (ran : multiTransfer call world = .ok output after) :
    Effect call world .multiTransfer after ∧ Plain output after := by
  simp only [multiTransfer, ok_bind, ok_demandSelfCall] at ran
  obtain ⟨_, _, ⟨self, rfl⟩, ran⟩ := ran
  rcases arguments : call.input.arguments with _ | ⟨_, _ | ⟨_, _⟩⟩ <;>
    simp only [arguments, ok_refuse] at ran
  simp only [ok_bind, ok_need, ok_pure] at ran
  obtain ⟨_, _, ⟨lists, rfl⟩, _, _, moved, rfl, rfl⟩ := ran
  have moves := ok_movements moved
  exact ⟨.multiTransfer self arguments lists moves,
    plain_touching (moves.known (listed_ne_nil lists)) _⟩

private theorem effect_localMint (ran : localMint call world = .ok output after) :
    Effect call world .localMint after ∧ Plain output after := by
  simp only [localMint, ok_bind, ok_demandSelfCall] at ran
  obtain ⟨_, _, ⟨self, rfl⟩, ran⟩ := ran
  rcases arguments : call.input.arguments with _ | ⟨_, _ | ⟨_, _ | ⟨_, _⟩⟩⟩ <;>
    simp only [arguments, ok_refuse] at ran
  simp only [ok_bind, ok_demandRole, ok_positive, get_bind, ok_stored, ok_put, ok_pure] at ran
  obtain ⟨_, _, ⟨role, rfl⟩, _, _, ⟨rfl, positive, rfl⟩, _, _, ⟨holds, rfl⟩, _, _, rfl, rfl, rfl⟩ := ran
  exact ⟨.localMint self arguments role positive rfl holds, plain_success rfl rfl rfl⟩

private theorem effect_localBurn (ran : localBurn call world = .ok output after) :
    Effect call world .localBurn after ∧ Plain output after := by
  simp only [localBurn, ok_bind, ok_demandSelfCall] at ran
  obtain ⟨_, _, ⟨self, rfl⟩, ran⟩ := ran
  rcases arguments : call.input.arguments with _ | ⟨_, _ | ⟨_, _ | ⟨_, _⟩⟩⟩ <;>
    simp only [arguments, ok_refuse] at ran
  simp only [ok_bind, ok_demandRole, ok_positive, ok_pure] at ran
  obtain ⟨_, _, ⟨role, rfl⟩, _, _, ⟨rfl, positive, rfl⟩, _, _, burned, rfl, rfl⟩ := ran
  exact ⟨.localBurn self arguments role positive (ok_burnFrom burned), plain_success rfl rfl rfl⟩

private theorem effect_create (ran : create call world = .ok output after) :
    Effect call world .create after ∧ Plain output after := by
  simp only [create, ok_bind, ok_demandSelfCall] at ran
  obtain ⟨_, _, ⟨self, rfl⟩, ran⟩ := ran
  rcases arguments : call.input.arguments with
    _ | ⟨_, _ | ⟨_, _ | ⟨_, _ | ⟨_, _ | ⟨_, _ | ⟨_, _ | ⟨_, _⟩⟩⟩⟩⟩⟩⟩ <;>
    simp only [arguments, ok_refuse] at ran
  simp only [ok_bind, ok_demandRole, ok_positive, ok_demand, get_bind, ok_put, ok_pure,
    Bool.and_eq_true, decide_eq_true_eq] at ran
  obtain ⟨_, _, ⟨role, rfl⟩, _, _, ⟨rfl, positive, rfl⟩, _, _, ⟨royalties, rfl⟩, _, _, ⟨room, rfl⟩, _, _,
    rfl, rfl, rfl⟩ := ran
  exact ⟨.create self arguments role positive royalties rfl room rfl, plain_success rfl rfl rfl⟩

private theorem ok_setOwn {token : Bytes} {nonce : UInt64} {holding : Holding}
    (ran : setOwn call token nonce holding world = .ok output after) :
    after = world.setAccount call.input.caller
      ((world.accountOrBlank call.input.caller).setHolding token nonce holding) ∧ Plain output after := by
  simp only [setOwn, ok_bind, get_bind, ok_put, ok_pure] at ran
  obtain ⟨_, _, rfl, rfl, rfl⟩ := ran
  exact ⟨rfl, plain_success rfl rfl rfl⟩

private theorem effect_addQuantity (ran : addQuantity call world = .ok output after) :
    Effect call world .addQuantity after ∧ Plain output after := by
  simp only [addQuantity, ok_bind] at ran
  -- The guards are those of `ownInstance`; only the amount is added to what was held.
  obtain ⟨⟨_, _, held, _, _⟩, _, owns, _, _, gives, writes⟩ := ran
  obtain ⟨rfl, _, account, rfl, own⟩ := ok_ownInstance owns
  obtain ⟨rfl, positive, rfl⟩ := ok_positive.1 gives
  obtain ⟨rfl, plain⟩ := ok_setOwn writes
  dsimp only at positive
  rw [accountOrBlank_of_account? own.found] at plain ⊢
  exact ⟨.addQuantity own positive, plain⟩

private theorem effect_burn (ran : burn call world = .ok output after) :
    Effect call world .burn after ∧ Plain output after := by
  simp only [burn, ok_bind, ok_demandSelfCall] at ran
  obtain ⟨_, _, ⟨self, rfl⟩, ran⟩ := ran
  rcases arguments : call.input.arguments with _ | ⟨_, _ | ⟨_, _ | ⟨_, _ | ⟨_, _⟩⟩⟩⟩ <;>
    simp only [arguments, ok_refuse] at ran
  simp only [ok_bind, ok_demandRole, ok_positive, ok_pure] at ran
  obtain ⟨_, _, ⟨role, rfl⟩, _, _, ⟨rfl, positive, rfl⟩, _, _, burned, rfl, rfl⟩ := ran
  exact ⟨.burn self arguments role positive (ok_burnFrom burned), plain_success rfl rfl rfl⟩

private theorem effect_addUris (ran : addUris call world = .ok output after) :
    Effect call world .addUris after ∧ Plain output after := by
  simp only [addUris, ok_bind, ok_need] at ran
  obtain ⟨⟨_, _, held, _, _⟩, _, owns, metadata, _, ⟨described, rfl⟩, writes⟩ := ran
  obtain ⟨rfl, _, account, rfl, own⟩ := ok_ownInstance owns
  obtain ⟨rfl, plain⟩ := ok_setOwn writes
  rw [accountOrBlank_of_account? own.found] at plain ⊢
  exact ⟨.addUris own described, plain⟩

private theorem effect_updateAttributes (ran : updateAttributes call world = .ok output after) :
    Effect call world .updateAttributes after ∧ Plain output after := by
  simp only [updateAttributes, ok_bind, ok_need] at ran
  obtain ⟨⟨_, _, held, _, _⟩, _, owns, metadata, _, ⟨described, rfl⟩, writes⟩ := ran
  obtain ⟨rfl, _, account, rfl, own⟩ := ok_ownInstance owns
  obtain ⟨rfl, plain⟩ := ok_setOwn writes
  rw [accountOrBlank_of_account? own.found] at plain ⊢
  exact ⟨.updateAttributes own described, plain⟩

private theorem effect_changeOwner (ran : changeOwner call world = .ok output after) :
    Effect call world .changeOwner after ∧ Plain output after := by
  unfold changeOwner at ran
  rcases arguments : call.input.arguments with _ | ⟨_, _ | ⟨_, _⟩⟩ <;>
    simp only [arguments, ok_refuse] at ran
  simp only [ok_bind, ok_demand, ok_put, ok_pure, beq_iff_eq] at ran
  obtain ⟨_, _, ⟨addressed, rfl⟩, contract, _, owns, _, _, rfl, rfl, rfl⟩ := ran
  obtain ⟨rfl, own⟩ := ok_ownContract owns
  exact ⟨.changeOwner arguments addressed own, plain_success rfl rfl rfl⟩

private theorem effect_claimRewards (ran : claimRewards call world = .ok output after) :
    Effect call world .claimRewards after ∧ Plain output after := by
  unfold claimRewards at ran
  rcases arguments : call.input.arguments with _ | ⟨_, _⟩ <;>
    simp only [arguments, ok_refuse] at ran
  simp only [ok_bind, get_bind, ok_put, ok_pure] at ran
  obtain ⟨contract, _, owns, _, middle, taken, _, _, rfl, rfl, rfl⟩ := ran
  obtain ⟨rfl, own⟩ := ok_ownContract owns
  exact ⟨.claimRewards arguments own taken, plain_success rfl rfl rfl⟩

private theorem effect_setUsername (ran : setUsername call world = .ok output after) :
    Effect call world .setUsername after ∧ Plain output after := by
  unfold setUsername at ran
  rcases arguments : call.input.arguments with _ | ⟨_, _ | ⟨_, _⟩⟩ <;>
    simp only [arguments, ok_refuse] at ran
  simp only [ok_bind, ok_demand, get_bind, ok_put, ok_pure, Bool.not_eq_true', List.isEmpty_iff,
    List.isEmpty_eq_false_iff] at ran
  obtain ⟨_, _, ⟨named, rfl⟩, _, _, ⟨free, rfl⟩, _, _, rfl, rfl, rfl⟩ := ran
  exact ⟨.setUsername arguments named rfl free, plain_success rfl rfl rfl⟩

private theorem effect_saveKeyValue (ran : saveKeyValue call world = .ok output after) :
    Effect call world .saveKeyValue after ∧ Plain output after := by
  simp only [saveKeyValue, ok_bind, ok_demand, ok_need, get_bind, ok_put, ok_pure, beq_iff_eq,
    List.all_eq_true, Bool.not_eq_true'] at ran
  obtain ⟨_, _, ⟨self, rfl⟩, entries, _, ⟨lists, rfl⟩, _, _, ⟨_, rfl⟩, _, _, ⟨allowed, rfl⟩, _, _, rfl,
    rfl, rfl⟩ := ran
  exact ⟨.saveKeyValue self lists allowed rfl, plain_success rfl rfl rfl⟩

/-- A call that ends well has the effect of its function, moves no currency by its output and deletes
no account. -/
theorem effect_of_ok {function : Function} (ran : function.action call world = .ok output after) :
    Effect call world function after ∧ Plain output after := by
  cases function with
  | tokenTransfer => exact effect_tokenTransfer ran
  | instanceTransfer => exact effect_instanceTransfer ran
  | multiTransfer => exact effect_multiTransfer ran
  | localMint => exact effect_localMint ran
  | localBurn => exact effect_localBurn ran
  | create => exact effect_create ran
  | addQuantity => exact effect_addQuantity ran
  | burn => exact effect_burn ran
  | addUris => exact effect_addUris ran
  | updateAttributes => exact effect_updateAttributes ran
  | setRoles =>
    obtain ⟨changed, rfl⟩ := ok_changeRoles ran
    exact ⟨.setRoles changed, plain_success rfl rfl rfl⟩
  | unsetRoles =>
    obtain ⟨changed, rfl⟩ := ok_changeRoles ran
    exact ⟨.unsetRoles changed, plain_success rfl rfl rfl⟩
  | changeOwner => exact effect_changeOwner ran
  | claimRewards => exact effect_claimRewards ran
  | setUsername => exact effect_setUsername ran
  | saveKeyValue => exact effect_saveKeyValue ran

end Success

/-! ## Calls by name -/

/-- How a call that gives an output ended. -/
inductive Ran (call : Call) (world : World) : CallOutput → World → Prop
  | outOfGas : Ran call world (.failure .outOfGas "not enough gas") world
  | refused {function : Function} {refusal : Refusal} {after : World}
      (named : Function.ofName? call.function = some function)
      (ran : function.action call world = .error (.refused refusal) after) :
      Ran call world (.failure .userError refusal.message) after
  | ok {function : Function} {output : CallOutput} {after : World} {gasLeft : UInt64}
      (named : Function.ofName? call.function = some function)
      (effect : Effect call world function after)
      (plain : Plain output after) :
      Ran call world { output with gasRemaining := gasLeft } after

/-- A call by name that gives an output runs out of gas, or is a settled action of the named function. -/
private theorem settled_of_run {call : Call} {world after : World} {output : CallOutput}
    (ran : run call world = .ok output after) :
    output = .failure .outOfGas "not enough gas" ∧ after = world ∨
      ∃ function gasLeft, Function.ofName? call.function = some function ∧
        settle gasLeft (function.action call) world = .ok output after := by
  rcases run_cases call world with ⟨fault, -, ends⟩ | ends | ⟨function, gasLeft, named, ends⟩
  · rw [ran] at ends
    cases ends
  · rw [ran] at ends
    cases ends
    exact .inl ⟨rfl, rfl⟩
  · exact .inr ⟨function, gasLeft, named, ends ▸ ran⟩

/-- A settled action gives an output also when it refuses. -/
theorem ok_settle {action : Action CallOutput} {gasLeft : UInt64} {world after : World}
    {output : CallOutput} (ran : settle gasLeft action world = .ok output after) :
    (∃ result, action world = .ok result after ∧ output = { result with gasRemaining := gasLeft }) ∨
      ∃ refusal, action world = .error (.refused refusal) after ∧
        output = .failure .userError refusal.message := by
  unfold settle at ran
  split at ran
  · rename_i result _ acted
    simp only [EStateM.Result.ok.injEq] at ran
    obtain ⟨rfl, rfl⟩ := ran
    exact .inl ⟨result, acted, rfl⟩
  · rename_i refusal _ acted
    simp only [EStateM.Result.ok.injEq] at ran
    obtain ⟨rfl, rfl⟩ := ran
    exact .inr ⟨refusal, acted, rfl⟩
  · cases ran

theorem ran_of_ok {call : Call} {world after : World} {output : CallOutput}
    (ran : run call world = .ok output after) : Ran call world output after := by
  rcases settled_of_run ran with ⟨rfl, rfl⟩ | ⟨function, gasLeft, named, settles⟩
  · exact .outOfGas
  · rcases ok_settle settles with ⟨result, acted, rfl⟩ | ⟨refusal, acted, rfl⟩
    · obtain ⟨effect, plain⟩ := effect_of_ok acted
      exact .ok named effect plain
    · exact .refused named acted

/-- A call by name that ends well is an action of the named function. -/
theorem acted_of_run {call : Call} {world after : World} {output : CallOutput}
    (ran : run call world = .ok output after) (succeeded : output.succeeded) :
    ∃ function result gasLeft, Function.ofName? call.function = some function ∧
      function.action call world = .ok result after ∧
      output = { result with gasRemaining := gasLeft } := by
  rcases settled_of_run ran with ⟨rfl, -⟩ | ⟨function, gasLeft, named, settles⟩
  · simp [CallOutput.succeeded, CallOutput.failure] at succeeded
  · rcases ok_settle settles with ⟨result, acted, rfl⟩ | ⟨refusal, -, rfl⟩
    · exact ⟨function, result, gasLeft, named, acted, rfl⟩
    · simp [CallOutput.succeeded, CallOutput.failure] at succeeded

/-- A call by name that ends well has the effect of the named function. -/
theorem effect_of_run {call : Call} {world after : World} {output : CallOutput}
    (ran : run call world = .ok output after) (succeeded : output.succeeded) :
    ∃ function, Function.ofName? call.function = some function ∧
      Effect call world function after ∧ Plain output after := by
  obtain ⟨function, result, gasLeft, named, acted, rfl⟩ := acted_of_run ran succeeded
  obtain ⟨effect, plain⟩ := effect_of_ok acted
  exact ⟨function, named, effect, plain.succeeded, plain.idle, plain.known, plain.deleted⟩

/-! ## Calls one after another -/

/-- Whether a call ends well. -/
def succeeds (call : Call) (world : World) : Bool :=
  endedWith (fun output _ => output.succeeded) (run call world)

/-- What is left of a ledger after some calls. -/
def afterCalls : List Call → World → World
  | [], world => world
  | call :: rest, world => afterCalls rest (stateAfter (run call world))

/-- Whether all of some calls end well. -/
def allSucceed : List Call → World → Bool
  | [], _ => true
  | call :: rest, world => succeeds call world && allSucceed rest (stateAfter (run call world))

end ChainScenario.Builtin
