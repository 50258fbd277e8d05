import ChainScenario.Proofs.Identity
import ChainScenario.Proofs.WrittenKeys

/-!
# Validator rewards

Rewards add up in the storage of their receiver, under a key that built-in functions do not write and
that no other result of a transaction asks for.

Main statements:
- `stored_transact`: what a transaction does to the number stored there.
- `rewards_accumulate`: over any transactions it grows by the rewards that were committed.
-/
namespace ChainScenario

namespace World

variable {world paid after : World} {address key : Bytes}

/-! ## What leaves the storage alone -/

theorem stored_of_accounts (same : after.accounts = world.accounts) (address key : Bytes) :
    after.stored address key = world.stored address key := by
  rw [stored, stored, accountOrBlank, accountOrBlank, same]

theorem stored_charged (world : World) (transaction : Transaction) (address key : Bytes) :
    (world.charged transaction).stored address key = world.stored address key := by
  unfold charged
  dsimp only
  split
  · rename_i found
    refine stored_setAccount_of_same ?_ address
    rw [stored_of_found found]
    rfl
  · rfl

theorem stored_updateBalance {delta : Int} (ran : updateBalance address delta world = .ok () after)
    (other key : Bytes) : after.stored other key = world.stored other key := by
  obtain ⟨account, changed, found, adds, rfl⟩ := ok_updateBalance ran
  refine stored_setAccount_of_same ?_ other
  rw [stored_of_found found, Account.stored, Account.stored, Account.storage_addToBalance adds]

theorem stored_commit (world : World) (address key : Bytes) :
    world.commit.stored address key = world.stored address key := by
  have kept : (world.commit.account? address).map Account.storage =
      (world.account? address).map Account.storage := by
    rw [account?_commit, Option.map_map]
    rfl
  cases found : world.account? address with
  | none =>
    rw [found, Option.map_none, Option.map_eq_none_iff] at kept
    rw [stored, stored, accountOrBlank_of_missing found, accountOrBlank_of_missing kept]
  | some account =>
    rw [found, Option.map_some, Option.map_eq_some_iff] at kept
    obtain ⟨committed, there, same⟩ := kept
    rw [stored_of_found there, stored_of_found found, Account.stored, Account.stored, same]

/-! ## A single change -/

/-- A change that writes nothing leaves all that is stored. -/
theorem stored_applied_idle {change : AccountChange} (idle : change.storage = [])
    (applies : applyChanges (OrdMap.empty.insert address change) [] paid = .ok () after)
    (other key : Bytes) : after.stored other key = paid.stored other key := by
  obtain ⟨account, adds, rfl⟩ := ok_applyChanges_single applies
  refine stored_setAccount_of_same ?_ other
  have rewritten : (change.rewrite account).storage = account.storage := by
    unfold AccountChange.rewrite
    rw [idle]
    dsimp only [List.foldl_nil]
    split_ifs <;> rfl
  rw [Account.stored, rewritten, Account.storage_addToBalance adds]
  rfl

/-- A change that writes once writes there only. -/
theorem stored_applied_once {change : AccountChange} {value : Bytes}
    (once : change.storage = [(key, value)])
    (applies : applyChanges (OrdMap.empty.insert address change) [] paid = .ok () after)
    (other : Bytes) :
    after.stored other key = if other = address then value else paid.stored other key := by
  obtain ⟨account, -, rfl⟩ := ok_applyChanges_single applies
  rw [stored_setAccount]
  split
  · unfold AccountChange.rewrite
    rw [once, List.foldl_cons, List.foldl_nil, Account.stored_save, if_pos rfl]
  · rfl

end World

open World

/-! ## Before the result is applied -/

theorem Dummy.Acted.stored_eq {world after : World} {key : Bytes} (acted : Dummy.Acted world after)
    (unwritten : Builtin.Unwritten key) (address : Bytes) :
    after.stored address key = world.stored address key := by
  cases acted with
  | idle => rfl
  | named => rfl
  | builtin effect => exact effect.stored_eq (unwritten _) address

namespace Run

section Enacted

variable {tx : String} {transaction : Transaction} {world middle paid after : World}
  {output : CallOutput} {key : Bytes}

theorem Evolved.stored_eq (evolved : Evolved world after) (unwritten : Builtin.Unwritten key)
    (address : Bytes) : after.stored address key = world.stored address key := by
  cases evolved with
  | acted acted => exact acted.stored_eq unwritten address
  | moved _ effect acted =>
    rw [acted.stored_eq unwritten, effect.stored_eq (unwritten _)]

theorem Paid.stored_eq (pays : Paid transaction world paid) (address key : Bytes) :
    paid.stored address key = world.stored address key := by
  cases pays with
  | sender _ pays => exact stored_updateBalance pays address key
  | nobody => rfl

/-! ## One transaction -/

/-- A call that ended well asks for no write to storage. -/
theorem Answered.stored_applied {call : Call} (answered : Answered call world middle output)
    (grows : middle.Grows paid)
    (applies : applyChanges output.changes output.deleted paid = .ok () after)
    (address key : Bytes) : after.stored address key = paid.stored address key := by
  obtain ⟨-, -, -, called⟩ := answered
  cases called with
  | builtin _ _ plain => rw [applied_plain plain grows applies]
  | upgraded => exact stored_applied_idle rfl applies address key

/-- What a transaction that ends well adds to the rewards of an account. -/
def granted (transaction : Transaction) (address : Bytes) : Nat :=
  if transaction.kind = .reward ∧ address = transaction.receiver.value then transaction.value.value
  else 0

theorem granted_of_other {address : Bytes} (other : transaction.kind ≠ .reward) :
    granted transaction address = 0 :=
  if_neg fun both => other both.1

/-- A result that is applied adds its reward, if it is one, to what was stored before. -/
theorem Enacted.reward_eq (enacted : Enacted tx transaction world middle output)
    (pays : Paid transaction middle paid)
    (applies : applyChanges output.changes output.deleted paid = .ok () after) (address : Bytes) :
    Bytes.toNat (after.stored address Address.rewardKey) =
      Bytes.toNat (world.stored address Address.rewardKey) + granted transaction address := by
  have before : paid.stored address Address.rewardKey = world.stored address Address.rewardKey := by
    rw [pays.stored_eq, enacted.evolved.1.stored_eq Builtin.unwritten_rewardKey]
  cases enacted with
  | deployed kind =>
    rw [granted_of_other (by simp [kind]), stored_applied_idle rfl applies, before, Nat.add_zero]
  | answered kind answered =>
    have other : transaction.kind ≠ .reward := by
      rcases kind with kind | kind | kind <;> simp [kind]
    rw [granted_of_other other, answered.stored_applied pays.grows applies, before, Nat.add_zero]
  | credited kind =>
    rw [granted_of_other (by simp [kind]), stored_applied_idle rfl applies, before, Nat.add_zero]
  | moved kind _ _ _ plain =>
    rw [granted_of_other (by simp [kind]), applied_plain plain pays.grows applies, before,
      Nat.add_zero]
  | @rewarded receiver kind found =>
    rw [stored_applied_once rfl applies]
    by_cases here : address = transaction.receiver.value
    · rw [if_pos here, Bytes.toNat_ofNat, here, stored_of_found found, granted,
        if_pos ⟨kind, rfl⟩]
    · rw [if_neg here, before, granted, if_neg fun both => here both.2, Nat.add_zero]

theorem Completed.reward_eq (completed : Completed tx transaction world output after)
    (address : Bytes) :
    Bytes.toNat (after.stored address Address.rewardKey) =
      Bytes.toNat (world.stored address Address.rewardKey) + granted transaction address := by
  obtain ⟨⟨-, enacted, pays, applies, -⟩⟩ := completed
  have charged : (world.charged transaction).backup.stored address Address.rewardKey =
      world.stored address Address.rewardKey := stored_charged _ _ _ _
  rw [stored_commit, enacted.reward_eq pays applies, charged]

end Enacted

/-- Whether a transaction is committed. -/
def commits (tx : String) (transaction : Transaction) (executor : Executor Dummy) : Bool :=
  endedWith (fun output _ => output.succeeded) (transact Dummy.machine tx transaction executor)

/-- Only a reward that is committed changes the rewards of an account, by its value. -/
theorem stored_transact (tx : String) (transaction : Transaction) (executor : Executor Dummy)
    (address : Bytes) :
    Bytes.toNat ((stateAfter (transact Dummy.machine tx transaction executor)).world.stored address
        Address.rewardKey) =
      Bytes.toNat (executor.world.stored address Address.rewardKey) +
        if commits tx transaction executor then granted transaction address else 0 := by
  rcases transact_ends executor tx transaction with
    ⟨output, after, ran, succeeded, completed⟩ | ⟨failed, undone⟩
  · have committed : commits tx transaction executor = true := by
      rw [commits, ran]
      exact succeeded
    rw [if_pos committed, ran]
    exact completed.reward_eq address
  · have uncommitted : commits tx transaction executor = false := by
      rw [commits]
      cases ran : transact Dummy.machine tx transaction executor with
      | ok output after => exact failed output after ran
      | error fault after => rfl
    rw [stored_of_accounts undone.accounts, stored_charged, uncommitted]
    rfl

/-! ## Transactions one after another -/

/-- What is left of an executor after some transactions, however each of them ends. -/
def afterAll : List (String × Transaction) → Executor Dummy → Executor Dummy
  | [], executor => executor
  | (tx, transaction) :: rest, executor =>
    afterAll rest (stateAfter (transact Dummy.machine tx transaction executor))

/-- The values of the rewards to an account that are committed along some transactions. -/
def rewardsTo (address : Bytes) : List (String × Transaction) → Executor Dummy → Nat
  | [], _ => 0
  | (tx, transaction) :: rest, executor =>
    (if commits tx transaction executor then granted transaction address else 0) +
      rewardsTo address rest (stateAfter (transact Dummy.machine tx transaction executor))

/-- Validator rewards are accounted exactly. Whatever transactions run, the number that an account stores
as its rewards grows by the values of the rewards to it that were committed. -/
theorem rewards_accumulate (address : Bytes) (transactions : List (String × Transaction))
    (executor : Executor Dummy) :
    Bytes.toNat ((afterAll transactions executor).world.stored address Address.rewardKey) =
      Bytes.toNat (executor.world.stored address Address.rewardKey) +
        rewardsTo address transactions executor := by
  induction transactions generalizing executor with
  | nil => rfl
  | cons first rest ih =>
    obtain ⟨tx, transaction⟩ := first
    rw [afterAll, ih, stored_transact, rewardsTo, Nat.add_assoc]

end Run
end ChainScenario
