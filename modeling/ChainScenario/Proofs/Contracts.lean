import ChainScenario.Proofs.Identity

/-!
# Contracts are well formed

Only settings of the state are validated; whatever else writes code keeps contracts well formed by itself.
Main statement: `Reachable.contracts_wellFormed`.
-/
namespace ChainScenario

/-! ## One account -/

/-- The hash and the flag of an account follow from its code. -/
structure Account.Coded (account : Account) : Prop where
  isContract : account.isContract = !account.code.isEmpty
  codeHash : account.codeHash = if account.code.isEmpty then [] else Blake3.digest account.code

/-- Code only stands at the address of a contract, and has an owner. -/
structure Account.WellFormed (account : Account) : Prop extends account.Coded where
  placed : account.code ≠ [] → Address.isContract account.address
  owned : account.code ≠ [] → account.owner ≠ []

namespace Account

variable {account old new : Account}

theorem Coded.wellFormed (coded : account.Coded) (valid : account.validate = .ok ()) :
    account.WellFormed := by
  obtain ⟨-, shaped⟩ := ok_validate valid
  exact { coded with
    placed := fun some => (shaped some).1
    owned := fun some => (shaped some).2 }

theorem wellFormed_blank (address : Bytes) : (blank address).WellFormed :=
  ⟨⟨rfl, rfl⟩, fun some => absurd rfl some, fun some => absurd rfl some⟩

theorem WellFormed.remains (formed : old.WellFormed) (remains : old.Remains new) : new.WellFormed where
  isContract := by
    rw [remains.isContract, remains.code]
    exact formed.isContract
  codeHash := by
    rw [remains.codeHash, remains.code]
    exact formed.codeHash
  placed := by
    rw [remains.code, remains.address]
    exact formed.placed
  owned := by
    rw [remains.code]
    intro some
    rcases remains.owner with same | renewed
    · rw [same]
      exact formed.owned some
    · -- a new owner has an address, which is not empty
      intro none
      rw [none] at renewed
      cases renewed

theorem Installed.wellFormed {owner : Bytes} (installed : old.Installed owner new)
    (form : Address.isContract old.address) (owned : owner ≠ []) : new.WellFormed where
  isContract := by
    rw [installed.isContract, List.isEmpty_eq_false_iff.2 installed.coded, Bool.not_false]
  codeHash := by
    rw [if_neg (mt List.isEmpty_iff.1 installed.coded), installed.codeHash]
  placed _ := by
    rw [installed.address]
    exact form
  owned _ := by
    rw [installed.owner]
    exact owned

end Account

namespace AccountSetting

theorem coded_toAccount {setting : AccountSetting} {written : Account}
    (converts : setting.toAccount = .ok written) : written.Coded := by
  obtain ⟨rfl, -⟩ := ok_toAccount converts
  exact ⟨rfl, rfl⟩

/-- An update takes all of this from the old account, or from the code that is written. -/
theorem coded_merge (setting : AccountSetting) {old : Account} (new : Account) (coded : old.Coded) :
    (setting.merge old new).Coded := by
  unfold merge
  dsimp only
  split
  · exact ⟨rfl, rfl⟩
  · exact ⟨coded.isContract, coded.codeHash⟩

end AccountSetting

/-! ## All accounts -/

/-- An account is well formed, and its own address is the one it is found at. -/
def Account.WellFormedAt (address : Bytes) (account : Account) : Prop :=
  account.address = address ∧ account.WellFormed

/-- The sender and the receiver of a transaction are addresses, where its kind has them. -/
structure Transaction.Addressed (transaction : Transaction) : Prop where
  sender : transaction.kind.hasSender → transaction.sender.value.length = Address.length
  receiver : transaction.kind.hasReceiver → transaction.receiver.value.length = Address.length

theorem SetState.wellFormed (step : SetState) :
    Maintains (World.Each Account.WellFormedAt) step.apply := by
  apply step.each
  · intro setting written converts valid
    exact ⟨rfl, (AccountSetting.coded_toAccount converts).wellFormed valid⟩
  · intro setting written old converts before valid
    exact ⟨rfl, (setting.coded_merge written before.2.toCoded).wellFormed valid⟩

namespace Run

/-- What installs code is called by somebody with an address. -/
theorem length_caller {transaction : Transaction} (addressed : transaction.Addressed)
    (reaches : transaction.kind.hasArguments) :
    (calling transaction).sender.value.length = Address.length := by
  have sender := addressed.sender
  have receiver := addressed.receiver
  cases kind : transaction.kind <;> simp only [calling, kind] at reaches sender receiver ⊢
  case query => exact receiver rfl
  case transfer | reward => cases reaches
  all_goals exact sender rfl

theorem lasting_wellFormed {transaction : Transaction} (addressed : transaction.Addressed) :
    Lasting transaction Account.WellFormedAt where
  remains := by
    rintro address old new ⟨here, formed⟩ remains
    exact ⟨remains.address.trans here, formed.remains remains⟩
  blank _ := ⟨rfl, Account.wellFormed_blank _⟩
  received _ _ := ⟨rfl, Account.wellFormed_blank _⟩
  installed := by
    rintro reaches address old new where? ⟨here, formed⟩ installed
    have form : Address.isContract old.address := by
      rcases where? with form | coded
      · rw [here]
        exact form
      · exact formed.placed coded
    refine ⟨installed.address.trans here, installed.wellFormed form fun none => ?_⟩
    have length := length_caller addressed reaches
    rw [none] at length
    cases length

/-- Whatever sets the state or is sent, and however it ends, contracts stay well formed: code stands at the
address of a contract and has an owner, and the flag and the hash of every account follow from its code. -/
theorem Reachable.contracts_wellFormed {executor : Executor Dummy}
    (reached : Reachable (fun _ => True) Transaction.Addressed executor) :
    ∀ address account, executor.world.account? address = some account →
      account.address = address ∧ account.WellFormed := by
  have each : executor.world.Each Account.WellFormedAt := by
    induction reached with
    | new => exact .of_empty (fun _ => rfl) rfl
    | start _ schedule ih =>
      have kept : Keeps (fun executor : Executor Dummy => executor.world.accounts)
          (startMachine Dummy.machine schedule) := keeps_startMachine _ _ fun _ _ => rfl
      have expected : Keeps (fun executor : Executor Dummy => executor.world.mocks)
          (startMachine Dummy.machine schedule) := keeps_startMachine _ _ fun _ _ => rfl
      exact ih.of_accounts (kept _) (expected _)
    | set _ _ ih => exact maintains_onWorld (SetState.wellFormed _) id _ ih
    | transact _ tx addressed ih => exact (lasting_wellFormed addressed).transact _ tx ih
  exact each.accounts

/-! ### A contract that was upgraded -/

/-- The owner of the contract below. -/
def founder : Bytes := List.replicate Address.length 1

/-- Where its contract is deployed. -/
def foundation : Bytes := Address.mock founder 0 Dummy.machine.vmType

/-- The state after the founder has deployed a contract and then given it other code. -/
def refounded : Executor Dummy :=
  let started := stateAfter (startMachine Dummy.machine .standard (.new Dummy.machine))
  let opened := stateAfter (onWorld (SetState.apply
    { comment := "", accounts := [{ address := .implied founder }] }) id started)
  let deployed := stateAfter (transact Dummy.machine "found"
    { Transaction.blank .deploy with sender := .implied founder, code := .implied [1] } opened)
  stateAfter (transact Dummy.machine "refound"
    { Transaction.blank .upgrade with
      sender := .implied founder
      receiver := .implied foundation
      code := .implied [2] } deployed)

theorem reachable_refounded : Reachable (fun _ => True) Transaction.Addressed refounded := by
  unfold refounded
  refine .transact (.transact (.set (.start .new .standard) trivial) "found" ?_) "refound" ?_
  · exact ⟨fun _ => rfl, nofun⟩
  · exact ⟨fun _ => rfl, fun _ => Address.length_mock _ _ _⟩

/-- It has the hash of the code that it was given last. -/
theorem contracts_wellFormed_refounded : ∃ contract,
    Reachable (fun _ => True) Transaction.Addressed refounded ∧
      refounded.world.account? foundation = some contract ∧ contract.code = [2] ∧
      contract.isContract = true ∧ contract.codeHash = Blake3.digest [2] ∧
      Address.isContract foundation ∧ contract.owner ≠ [] := by
  have code : (refounded.world.account? foundation).map (·.code) = some [2] := by decide +kernel
  obtain ⟨contract, found, code⟩ := Option.map_eq_some_iff.1 code
  obtain ⟨here, formed⟩ := reachable_refounded.contracts_wellFormed foundation contract found
  have coded : contract.code ≠ [] := by simp [code]
  have flag : contract.isContract = true := by
    rw [formed.isContract, code]
    rfl
  have hash : contract.codeHash = Blake3.digest [2] := by
    rw [formed.codeHash, code, List.isEmpty_cons, if_neg Bool.false_ne_true]
  have placed := formed.placed coded
  rw [here] at placed
  exact ⟨contract, reachable_refounded, found, code, flag, hash, placed, formed.owned coded⟩

end Run
end ChainScenario
