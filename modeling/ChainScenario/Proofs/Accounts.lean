import ChainScenario.Proofs.Action

/-!
# Writes to the accounts

What one write to the accounts of a ledger changes, and what a change that a result asks for comes to.
-/
namespace ChainScenario.World

/-- A ledger with a single account, in which built-in functions are free. -/
def alone (account : Account) : World :=
  { (new []).putAccount account with builtinCosts := some .empty }

theorem account?_setAccount (world : World) (address other : Bytes) (account : Account) :
    (world.setAccount address account).account? other =
      if other = address then some account else world.account? other :=
  OrdMap.get?_insert world.accounts address other account

theorem accountOrBlank_setAccount (world : World) (address other : Bytes) (account : Account) :
    (world.setAccount address account).accountOrBlank other =
      if other = address then account else world.accountOrBlank other := by
  change ((world.setAccount address account).account? other).getD _ = _
  rw [account?_setAccount]
  split <;> rfl

@[simp] theorem accountOrBlank_setAccount_self (world : World) (address : Bytes)
    (account : Account) : (world.setAccount address account).accountOrBlank address = account := by
  rw [accountOrBlank_setAccount, if_pos rfl]

/-- A write that keeps a view of its account keeps that view of every account. -/
theorem view_setAccount {α : Type} (view : Account → α) {world : World} {address : Bytes}
    {account : Account} (same : view account = view (world.accountOrBlank address))
    (other : Bytes) : view ((world.setAccount address account).accountOrBlank other) =
      view (world.accountOrBlank other) := by
  rw [accountOrBlank_setAccount]
  split
  · rename_i here
    rw [here, same]
  · rfl

theorem accountOrBlank_of_account? {world : World} {address : Bytes} {account : Account}
    (found : world.account? address = some account) : world.accountOrBlank address = account := by
  change (world.account? address).getD _ = _
  rw [found]
  rfl

theorem accountOrBlank_of_missing {world : World} {address : Bytes}
    (missing : world.account? address = none) : world.accountOrBlank address = .blank address := by
  change (world.account? address).getD _ = _
  rw [missing]
  rfl

theorem setAccount_setAccount (world : World) (address : Bytes) (first second : Account) :
    (world.setAccount address first).setAccount address second =
      world.setAccount address second := by
  have same : (world.accounts.insert address first).insert address second =
      world.accounts.insert address second := by
    -- Two ordered maps are the same if every look-up in them is.
    refine OrdMap.ext_get? fun other => ?_
    simp only [OrdMap.get?_insert]
    split <;> rfl
  simp only [setAccount, same]

/-- To write what is there changes nothing. -/
theorem setAccount_of_account? {world : World} {address : Bytes} {account : Account}
    (found : world.account? address = some account) : world.setAccount address account = world := by
  have same : world.accounts.insert address account = world.accounts := by
    refine OrdMap.ext_get? fun other => ?_
    rw [OrdMap.get?_insert]
    split
    · rename_i here
      rw [here]
      exact found.symm
    · rfl
  simp only [setAccount, same]

/-! ## Changes that a result asks for -/

theorem ok_ofExcept {α : Type} {result : Except World.Fault α} {world after : World} {value : α} :
    Action.ofExcept result world = .ok value after ↔ result = .ok value ∧ after = world := by
  cases result <;> simp [Action.ofExcept]

/-- A balance is changed of an account that is there and can bear it. -/
theorem ok_updateBalance {address : Bytes} {delta : Int} {world after : World} {done : PUnit}
    (ran : updateBalance address delta world = .ok done after) :
    ∃ account changed, world.account? address = some account ∧
      account.addToBalance delta = .ok changed ∧ after = world.setAccount address changed := by
  simp only [updateBalance, get_bind] at ran
  cases found : world.account? address with
  | none => simp [found] at ran
  | some account =>
    simp only [found, ok_bind, ok_ofExcept, ok_modify] at ran
    obtain ⟨changed, start, ⟨adds, rfl⟩, rfl⟩ := ran
    exact ⟨account, changed, rfl, adds, rfl⟩

/-- A change is made in full, or only adds a blank account that was not there. -/
theorem applyChange_eq (address : Bytes) (change : AccountChange) (world : World) :
    applyChange address change world =
      match (world.accountOrBlank address).addToBalance change.balanceDelta with
      | .ok account => .ok () (world.setAccount address (change.rewrite account))
      | .error fault =>
        .error fault (world.setAccount address (world.accountOrBlank address)) := by
  have placed : (modify fun world => world.setAccount address (world.accountOrBlank address) :
      Action Unit) world = .ok () (world.setAccount address (world.accountOrBlank address)) := rfl
  -- The blank account is placed first, and stays if the balance cannot be changed.
  rw [applyChange, bind_ok _ placed, get_bind, accountOrBlank_setAccount_self]
  cases (world.accountOrBlank address).addToBalance change.balanceDelta with
  | error fault => rfl
  | ok account => exact congrArg (EStateM.Result.ok ()) (setAccount_setAccount _ _ _ _)

theorem ok_applyChange {address : Bytes} {change : AccountChange} {world after : World} :
    applyChange address change world = .ok () after ↔
      ∃ account, (world.accountOrBlank address).addToBalance change.balanceDelta = .ok account ∧
        after = world.setAccount address (change.rewrite account) := by
  rw [applyChange_eq]
  cases (world.accountOrBlank address).addToBalance change.balanceDelta with
  | error fault => simp
  | ok account => simp [eq_comm]

/-- A change that asks for nothing does nothing to an account that is there. -/
theorem applyChange_none {world : World} {address : Bytes}
    (known : (world.account? address).isSome) :
    applyChange address .none world = .ok () world := by
  obtain ⟨account, found⟩ := Option.isSome_iff_exists.1 known
  have unmoved : account.addToBalance AccountChange.none.balanceDelta = .ok account := by
    simp [Account.addToBalance, AccountChange.none]
  have unwritten : AccountChange.none.rewrite account = account := by
    simp [AccountChange.rewrite, AccountChange.none]
  rw [applyChange_eq, accountOrBlank_of_account? found]
  simp only [unmoved, unwritten, setAccount_of_account? found]

private theorem applyEach_idle {world : World} {entries : List (Bytes × AccountChange)}
    (idle : ∀ entry ∈ entries, entry.2 = .none)
    (known : ∀ entry ∈ entries, (world.account? entry.1).isSome) :
    (entries.forM fun entry => applyChange entry.1 entry.2 : Action Unit) world = .ok () world := by
  induction entries with
  | nil => rfl
  | cons entry rest ih =>
    have first : applyChange entry.1 entry.2 world = .ok () world := by
      rw [idle entry (by simp)]
      exact applyChange_none (known entry (by simp))
    refine (bind_ok _ first).trans (ih (fun other member => idle other ?_) fun other member =>
      known other ?_) <;> exact List.mem_cons_of_mem _ member

theorem applyChanges_idle {changes : OrdMap Bytes AccountChange} {world : World}
    (idle : ∀ entry ∈ changes.toList, entry.2 = .none)
    (known : ∀ entry ∈ changes.toList, (world.account? entry.1).isSome) :
    applyChanges changes [] world = .ok () world :=
  bind_ok _ (applyEach_idle idle known)

/-- A single change is applied to its account. -/
theorem ok_applyChanges_single {address : Bytes} {change : AccountChange} {world after : World}
    (ran : applyChanges (OrdMap.empty.insert address change) [] world = .ok () after) :
    ∃ paid, (world.accountOrBlank address).addToBalance change.balanceDelta = .ok paid ∧
      after = world.setAccount address (change.rewrite paid) := by
  obtain ⟨_, middle, each, ended⟩ := ok_bind.1 ran
  obtain ⟨_, _, first, rest⟩ := ok_bind.1 each
  obtain ⟨-, rfl⟩ := ok_pure.1 rest
  obtain rfl := ok_modify.1 ended
  exact ok_applyChange.1 first

end ChainScenario.World
