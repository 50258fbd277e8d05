import ChainScenario.Proofs.BuiltinRefusals
import ChainScenario.Proofs.Slots

/-!
# Keys that built-in functions write

A built-in function writes to the storage of an account only under keys of its own kind. Under any
other key every account stores the same before and after.

Main statements:
- `Effect.stored_eq`: what a success leaves alone.
- `unwritten_rewardKey`: no built-in function writes where rewards accumulate.
- `stored_run`: what a call leaves alone however it ends.
-/
namespace ChainScenario

open Token

namespace Account

variable {account : Account} {token key : Bytes} {nonce : UInt64} {holding : Holding}

theorem stored_setHolding (other : key ≠ holdingKey token nonce) :
    (account.setHolding token nonce holding).stored key = account.stored key := by
  rw [setHolding, stored_put, if_neg other]

theorem stored_saveHolding (other : key ≠ holdingKey token nonce) :
    (account.saveHolding token nonce holding).stored key = account.stored key := by
  unfold saveHolding
  split
  · rw [stored_remove, if_neg other]
  · exact stored_setHolding other

end Account

namespace World

/-- What an account of a ledger stores under a key, nothing if it is not there. -/
def stored (world : World) (address key : Bytes) : Bytes := (world.accountOrBlank address).stored key

variable {world : World} {address key : Bytes} {account : Account}

theorem stored_of_found (found : world.account? address = some account) :
    world.stored address key = account.stored key := by
  rw [stored, accountOrBlank_of_account? found]

theorem stored_setAccount (world : World) (written other key : Bytes) (account : Account) :
    (world.setAccount written account).stored other key =
      if other = written then account.stored key else world.stored other key := by
  rw [stored, accountOrBlank_setAccount]
  split <;> rfl

/-- A write that keeps what an account stores under a key keeps it for all accounts. -/
theorem stored_setAccount_of_same (same : account.stored key = world.stored address key)
    (other : Bytes) : (world.setAccount address account).stored other key = world.stored other key :=
  view_setAccount (·.stored key) same other

end World

namespace Builtin

open Builtin.Action World

/-- The keys under which a function may write. -/
def Function.Writes : Function → Bytes → Prop
  | create, key => holdingMark <+: key ∨ nonceMark <+: key
  | setRoles, key => rolesMark <+: key
  | unsetRoles, key => rolesMark <+: key
  | saveKeyValue, key => Address.isProtected key = false
  | changeOwner, _ => False
  | claimRewards, _ => False
  | setUsername, _ => False
  | _, key => holdingMark <+: key

/-- No built-in function writes under a key. -/
def Unwritten (key : Bytes) : Prop := ∀ function : Function, ¬function.Writes key

/-- Of the protocol's keys that are no slots, creations write last numbers, and changes of roles write
roles. -/
theorem Function.writes_cases {function : Function} {key : Bytes} (writes : function.Writes key)
    (protects : Address.isProtected key = true) (unheld : ¬holdingMark <+: key) :
    (function = .create ∧ nonceMark <+: key) ∨
      ((function = .setRoles ∨ function = .unsetRoles) ∧ rolesMark <+: key) := by
  cases function with
  | create => exact .inl ⟨rfl, writes.resolve_left unheld⟩
  | setRoles => exact .inr ⟨.inl rfl, writes⟩
  | unsetRoles => exact .inr ⟨.inr rfl, writes⟩
  | saveKeyValue =>
    rw [Writes, protects] at writes
    cases writes
  | changeOwner | claimRewards | setUsername => exact writes.elim
  | _ => exact absurd writes unheld

theorem unwritten_rewardKey : Unwritten Address.rewardKey := by
  intro function writes
  rcases Function.writes_cases writes (by decide) (by decide) with ⟨-, numbered⟩ | ⟨-, marked⟩
  · exact absurd numbered (by decide)
  · exact absurd marked (by decide)

theorem ne_holdingKey {key : Bytes} (unmarked : ¬holdingMark <+: key) (token : Bytes)
    (nonce : UInt64) : key ≠ holdingKey token nonce := by
  rintro rfl
  exact unmarked (marked_holdingKey token nonce)

section Movements

variable {source destination token key : Bytes} {nonce : UInt64} {value : Nat} {world after : World}

theorem TokensMoved.stored_eq (moved : TokensMoved source destination token nonce value world after)
    (other : key ≠ holdingKey token nonce) (address : Bytes) :
    after.stored address key = world.stored address key := by
  obtain ⟨-, found, -, -, -, taken, -⟩ := moved
  rename_i middle _
  have first : middle.stored address key = world.stored address key := by
    rw [taken]
    apply stored_setAccount_of_same
    rw [Account.stored_saveHolding other, stored_of_found found]
  rw [← first]
  exact stored_setAccount_of_same (Account.stored_setHolding other) address

theorem CurrencyMoved.stored_eq (moved : CurrencyMoved source destination value world after)
    (address key : Bytes) : after.stored address key = world.stored address key := by
  obtain ⟨-, found, pays, taken⟩ := moved
  rename_i payer middle
  have first : middle.stored address key = world.stored address key := by
    rw [taken]
    apply stored_setAccount_of_same
    rw [stored_of_found found, Account.stored, Account.stored, Account.storage_takeFromBalance pays]
  rw [← first]
  refine stored_setAccount_of_same ?_ address
  rfl

theorem AnyMoved.stored_eq (moved : AnyMoved source destination token nonce value world after)
    (other : token ≠ Token.currency → key ≠ holdingKey token nonce) (address : Bytes) :
    after.stored address key = world.stored address key := by
  cases moved with
  | currency _ moved => exact moved.stored_eq address key
  | tokens tokens moved => exact moved.stored_eq (other tokens) address

theorem AllMoved.stored_eq {listed : List (Bytes × Bytes × Bytes)}
    (moved : AllMoved source destination listed world after)
    (other : ∀ movement ∈ listed, movement.1 ≠ currency →
      key ≠ holdingKey movement.1 (nonceOfBytes movement.2.1))
    (address : Bytes) : after.stored address key = world.stored address key := by
  induction moved with
  | none => rfl
  | more _ first _ ih =>
    obtain ⟨this, rest⟩ := List.forall_mem_cons.1 other
    rw [ih rest, first.stored_eq this]

theorem Burned.stored_eq (burned : Burned source token nonce value world after)
    (other : key ≠ holdingKey token nonce) (address : Bytes) :
    after.stored address key = world.stored address key := by
  obtain ⟨found, -, -⟩ := burned
  apply stored_setAccount_of_same
  rw [Account.stored_saveHolding other, stored_of_found found]

end Movements

section Calls

variable {call : Call} {world after : World} {key : Bytes}

theorem RolesChanged.stored_eq {change : List Bytes → Bytes → List Bytes}
    (changed : RolesChanged change call world after) (unmarked : ¬rolesMark <+: key)
    (address : Bytes) : after.stored address key = world.stored address key := by
  obtain ⟨-, -, -⟩ := changed
  rename_i token _ _ _
  have other : key ≠ rolesKey token := by
    rintro rfl
    exact unmarked (List.prefix_append _ _)
  exact stored_setAccount_of_same (Account.stored_setRoles _ _ _ other) address

/-- A success leaves alone what all accounts store under keys that its function does not write. -/
theorem Effect.stored_eq {function : Function} (effect : Effect call world function after)
    (other : ¬function.Writes key) (address : Bytes) :
    after.stored address key = world.stored address key := by
  cases effect with
  | tokenTransfer _ _ moved => exact moved.stored_eq (ne_holdingKey other _ _) address
  | instanceTransfer _ _ _ _ moved => exact moved.stored_eq (ne_holdingKey other _ _) address
  | multiTransfer _ _ _ moved =>
    exact moved.stored_eq (fun _ _ _ => ne_holdingKey other _ _) address
  | localMint _ _ _ _ found =>
    refine stored_setAccount_of_same ?_ address
    rw [Account.stored_setHolding (ne_holdingKey other _ _), ← found]
    rfl
  | localBurn _ _ _ _ burned => exact burned.stored_eq (ne_holdingKey other _ _) address
  | @create token _ _ _ _ _ _ _ _ nonce _ _ _ _ _ found =>
    obtain ⟨unheld, unnumbered⟩ := not_or.1 other
    have apart : key ≠ lastNonceKey token := by
      rintro rfl
      exact unnumbered (List.prefix_append _ _)
    refine stored_setAccount_of_same ?_ address
    rw [Account.stored_setLastNonce _ _ _ apart, Account.stored_setHolding (ne_holdingKey unheld _ _),
      ← found]
    rfl
  | addQuantity own | addUris own | updateAttributes own =>
    refine stored_setAccount_of_same ?_ address
    rw [Account.stored_setHolding (ne_holdingKey other _ _), stored_of_found own.found]
  | burn _ _ _ _ burned => exact burned.stored_eq (ne_holdingKey other _ _) address
  | setRoles changed => exact changed.stored_eq other address
  | unsetRoles changed => exact changed.stored_eq other address
  | changeOwner _ _ own =>
    refine stored_setAccount_of_same ?_ address
    rw [stored_of_found own.found]
    rfl
  | @claimRewards contract middle _ own taken =>
    have first : middle.stored address key = world.stored address key := by
      rw [taken]
      refine stored_setAccount_of_same ?_ address
      rw [stored_of_found own.found]
      rfl
    rw [← first]
    refine stored_setAccount_of_same ?_ address
    rfl
  | setUsername _ _ found =>
    refine stored_setAccount_of_same ?_ address
    rw [World.stored, found]
    rfl
  | @saveKeyValue entries account _ _ allowed found =>
    -- the function refuses keys of the protocol, and this key is one of them
    have apart : ∀ entry ∈ entries, key ≠ entry.1 := by
      rintro entry listed rfl
      exact other (allowed entry listed)
    refine stored_setAccount_of_same ?_ address
    rw [Account.stored_saveAll apart, World.stored, found]

end Calls

/-! ## Calls that stop on the way -/

section Stopped

variable {source destination token address key : Bytes} {nonce : UInt64} {value : Nat}
  {call : Call} {world : World}

/-- A movement of tokens may break off once the sender has paid, but no other key is concerned. -/
private theorem keeps_stored_moveTokens (other : key ≠ holdingKey token nonce) :
    Keeps (fun world => world.stored address key) (moveTokens source destination token nonce value) := by
  refine keeps_iff_from.2 fun world => .reading (keeps_demand _ _) fun _ _ => .reading keeps_get ?_
  rintro _ ⟨⟩
  refine .reading (keeps_need _ _) fun sender found => ?_
  obtain ⟨found, -⟩ := ok_need.1 found
  -- Up to the first write everything only reads; behind it the receiver may turn out unreadable.
  refine .reading (keeps_stored _) fun _ _ => .reading (keeps_need _ _) fun sent _ =>
    .reading (keeps_demand _ _) fun _ _ => .reading (keeps_demand _ _) fun _ _ => .bind ?_ fun _ => ?_
  · apply stored_setAccount_of_same
    rw [Account.stored_saveHolding other, stored_of_found found]
  · refine keeps_iff_from.2 fun middle => .reading keeps_get ?_
    rintro _ ⟨⟩
    refine .reading (keeps_stored _) fun held _ => ?_
    exact stored_setAccount_of_same (Account.stored_setHolding other) address

private theorem keeps_stored_moveAny (unheld : ¬holdingMark <+: key) :
    Keeps (fun world => world.stored address key) (moveAny source destination token nonce value) := by
  unfold moveAny
  split
  · intro world
    cases ran : moveCurrency source destination value world with
    | ok _ after => exact (ok_moveCurrency ran).stored_eq address key
    | error stop after =>
      rw [stopsCleanly_moveCurrency _ _ _ _ _ _ ran]
      rfl
  · exact keeps_stored_moveTokens (ne_holdingKey unheld token nonce)

private theorem keeps_stored_movements (unheld : ¬holdingMark <+: key)
    (listed : List (Bytes × Bytes × Bytes)) :
    Keeps (fun world => world.stored address key) (movements call destination listed) := by
  induction listed with
  | nil => exact keeps_pure _
  | cons first rest ih =>
    exact (keeps_positive _).bind fun _ => (keeps_stored_moveAny unheld).bind fun _ =>
      ih.bind fun _ => keeps_pure _

/-- However a transfer ends, it leaves alone what is stored under a key that is no slot. -/
private theorem keeps_stored_transfer {function : Function} (moves : function.moves)
    (unheld : ¬holdingMark <+: key) :
    Keeps (fun world => world.stored address key) (function.action call) := by
  cases function with
  | tokenTransfer =>
    change Keeps _ (tokenTransfer call)
    unfold tokenTransfer
    split
    · exact (keeps_positive _).bind fun _ =>
        (keeps_stored_moveTokens (ne_holdingKey unheld _ _)).bind fun _ => keeps_pure _
    · exact keeps_refuse _
  | instanceTransfer =>
    refine (keeps_demand _ _).bind fun _ => ?_
    split
    · exact (keeps_demand _ _).bind fun _ => (keeps_positive _).bind fun _ =>
        (keeps_stored_moveTokens (ne_holdingKey unheld _ _)).bind fun _ => keeps_pure _
    · exact keeps_refuse _
  | multiTransfer =>
    refine (keeps_demand _ _).bind fun _ => ?_
    split
    · exact (keeps_need _ _).bind fun _ => (keeps_stored_movements unheld _).bind fun _ =>
        keeps_pure _
    · exact keeps_refuse _
  | _ => cases moves

/-- A call leaves alone what an account stores under a key that is no slot, if a success of the named
function does. -/
theorem stored_run (unheld : ¬holdingMark <+: key)
    (spared : ∀ function after, Function.ofName? call.function = some function →
      Effect call world function after → after.stored address key = world.stored address key) :
    KeepsFrom (fun world => world.stored address key) world (run call) := by
  refine keepsFrom_run fun function named => ?_
  cases moves : function.moves with
  | true => exact keeps_stored_transfer moves unheld world
  | false =>
    cases ran : function.action call world with
    | ok output after =>
      rw [KeepsFrom, ran]
      exact spared function after named (effect_of_ok ran).1
    | error stop after =>
      rw [KeepsFrom, ran, stopsCleanly_action moves call world stop after ran]
      rfl

end Stopped

end Builtin
end ChainScenario
