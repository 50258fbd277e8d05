import ChainScenario.Proofs.Currency
import ChainScenario.Proofs.Outcome

/-!
# Transactions neither make nor lose currency

Main statement: `transact_wealth`, a transaction takes the gas that its sender pays out of the ledger
and puts the value of a reward into it, and changes the sum of all currency in no other way, however it
ends.
-/
namespace ChainScenario

open World

/-! ## Before the result is applied -/

theorem Dummy.Acted.wealth_eq {world after : World} (acted : Dummy.Acted world after) :
    after.wealth = world.wealth := by
  cases acted with
  | idle => rfl
  | named _ => rfl
  | builtin effect => exact effect.wealth_eq

namespace Run

theorem Evolved.wealth_eq {world after : World} (evolved : Evolved world after) :
    after.wealth = world.wealth := by
  cases evolved with
  | acted acted => exact acted.wealth_eq
  | moved _ effect acted => rw [acted.wealth_eq, effect.wealth_eq]

/-- What a result asks for adds up to nothing or to a value. -/
private theorem total_of_asks {output : CallOutput} {value : Nat} (asks : output.Asks value) :
    sumOfDeltas output.changes = 0 ∨ sumOfDeltas output.changes = value := by
  rcases asks.changes with idle | ⟨address, change, single, credits, -⟩
  · exact .inl (sumOfDeltas_of_idle idle)
  · rw [single, sumOfDeltas_single, credits]
    exact .inr rfl

section Performed

variable {tx : String} {transaction : Transaction} {world middle paid after : World}
  {output : CallOutput}

/-- The value of a reward is handed out. -/
theorem Enacted.total_of_reward (enacted : Enacted tx transaction world middle output)
    (kind : transaction.kind = .reward) :
    sumOfDeltas output.changes = transaction.value.value := by
  cases enacted with
  | rewarded => exact sumOfDeltas_single _ _
  | deployed other | credited other | moved other => simp [kind] at other
  | answered other => simp [kind] at other

theorem Paid.wealth_eq (pays : Paid transaction world paid) :
    (paid.wealth : Int) + (if transaction.kind.hasSender then transaction.value.value else 0 : Nat) =
      world.wealth := by
  cases pays with
  | sender sends pays =>
    have taken := wealth_updateBalance pays
    rw [if_pos sends]
    omega
  | nobody free => simp [free]

/-- What a transaction gives to the ledger if it ends well: a reward is new currency. -/
def minted (transaction : Transaction) : Nat :=
  if transaction.kind = .reward then transaction.value.value else 0

/-- What a transaction gives to accounts is paid by its sender, or is a reward. -/
theorem Performed.wealth_eq (performed : Performed tx transaction world output after)
    (worthless : transaction.kind.hasValue = false → transaction.value.value = 0) :
    after.wealth = world.wealth + minted transaction := by
  obtain ⟨-, enacted, pays, applies, balanced⟩ := performed
  obtain ⟨evolved, asks⟩ := enacted.evolved
  rw [asks.deleted] at applies
  have kept := evolved.wealth_eq
  have taken := pays.wealth_eq
  have given := wealth_applyChanges applies
  have sums : sumOfDeltas output.changes =
      (if transaction.kind.hasSender then transaction.value.value else 0 : Nat) +
        minted transaction := by
    cases kind : transaction.kind with
    | query =>
      have nothing := worthless (by rw [kind]; rfl)
      have total := total_of_asks asks
      simp only [nothing] at total
      simpa [minted, kind, Transaction.Kind.hasSender] using total
    | reward => simpa [minted, kind, Transaction.Kind.hasSender] using enacted.total_of_reward kind
    | _ => simpa [minted, kind, Transaction.Kind.hasSender] using balanced (by rw [kind]; rfl)
  omega

end Performed

theorem wealth_perform {tx : String} {transaction : Transaction} {gas : UInt64}
    {executor after : Executor Dummy} {output : CallOutput}
    (worthless : transaction.kind.hasValue = false → transaction.value.value = 0)
    (ran : perform Dummy.machine tx transaction gas executor = .ok output after)
    (succeeded : output.succeeded) :
    after.world.wealth = executor.world.wealth + minted transaction :=
  (performed_of_ok ran succeeded).wealth_eq worthless

end Run

namespace World

/-- The gas that the sender of a transaction pays: all of it, or none if the balance does not cover
it. -/
def gasPaid (world : World) (transaction : Transaction) : Nat :=
  match transaction.kind.hasSender, world.account? transaction.sender.value with
  | true, some sender =>
    let gas := gasCost transaction.gasLimit.value transaction.gasPrice.value
    if gas ≤ sender.balance then gas else 0
  | _, _ => 0

theorem wealth_charged (world : World) (transaction : Transaction) :
    (world.charged transaction).wealth + world.gasPaid transaction = world.wealth := by
  unfold charged gasPaid
  -- The nonce is raised in both branches; only the first one takes the gas.
  cases sends : transaction.kind.hasSender with
  | false => rfl
  | true =>
    cases found : world.account? transaction.sender.value with
    | none => rfl
    | some sender =>
      dsimp only [gasCost]
      split
      · have write := world.wealth_setAccount transaction.sender.value { sender with
          nonce := sender.nonce + 1
          balance := sender.balance -
            transaction.gasLimit.value.toNat * transaction.gasPrice.value.toNat }
        rw [accountOrBlank_of_account? found] at write
        simp only [Account.wealth] at write ⊢
        omega
      · have write := world.wealth_setAccount transaction.sender.value { sender with
          nonce := sender.nonce + 1 }
        rw [accountOrBlank_of_account? found] at write
        simp only [Account.wealth] at write ⊢
        omega

end World

namespace Run

/-- Currency is conserved: a transaction, however it ends, takes what its sender pays for gas out of the
ledger and puts in the value of a reward that was given. -/
theorem transact_wealth (executor : Executor Dummy) (tx : String) (transaction : Transaction)
    (worthless : transaction.kind.hasValue = false → transaction.value.value = 0) :
    match transact Dummy.machine tx transaction executor with
    | .ok output after =>
      after.world.wealth + executor.world.gasPaid transaction =
        executor.world.wealth + if output.succeeded then minted transaction else 0
    | .error _ after =>
      after.world.wealth + executor.world.gasPaid transaction = executor.world.wealth := by
  by_cases missing : executor.world.lacksSender transaction
  · have unpaid : executor.world.gasPaid transaction = 0 := by
      simp only [lacksSender, Bool.and_eq_true, Option.isNone_iff_eq_none] at missing
      simp [gasPaid, missing.1, missing.2]
    rw [transact_eq_of_lacksSender missing, unpaid]
    rfl
  · have paid := executor.world.wealth_charged transaction
    rw [transact_eq missing, bracket_eq (keeps_perform _ _ _), Executor.world_withWorld]
    cases ran : perform Dummy.machine tx transaction (availableGas transaction)
        ((executor.withWorld (executor.world.charged transaction)).withWorld
          (executor.world.charged transaction).backup) with
    | ok output after =>
      by_cases succeeded : output.succeeded
      · have performed : after.world.wealth = (executor.world.charged transaction).wealth +
          minted transaction := wealth_perform worthless ran succeeded
        have committed := after.world.wealth_commit
        simp only [if_pos succeeded, Executor.world_withWorld]
        omega
      · simp only [if_neg succeeded]
        exact paid
    | error fault after => exact paid

/-- A contract that owns itself, with a balance of three and a reward of four. -/
def selfOwned : Account :=
  { Account.blank (List.replicate Address.length 0) with
    balance := 3
    developerReward := 4
    code := Utf8.ofString "code"
    owner := List.replicate Address.length 0 }

/-- A query by which a contract claims its rewards. -/
def claimQuery : Transaction :=
  { Transaction.blank .query with
    receiver := .implied selfOwned.address
    function := "ClaimDeveloperRewards" }

/-- A contract that pays its reward out to itself keeps all of its currency. -/
theorem transact_wealth_claim :
    (claimQuery.kind.hasValue = false → claimQuery.value.value = 0) ∧
      match transact Dummy.machine "claim" claimQuery (.alone selfOwned) with
      | .ok output after => output.succeeded ∧ after.world.wealth = 7
      | .error _ _ => False := by
  refine ⟨fun _ => rfl, ?_⟩
  have ends : (match transact Dummy.machine "claim" claimQuery (.alone selfOwned) with
      | .ok output _ => output.succeeded
      | .error _ _ => false) = true := by decide +kernel
  have law := transact_wealth (.alone selfOwned) "claim" claimQuery fun _ => rfl
  cases ran : transact Dummy.machine "claim" claimQuery (.alone selfOwned) with
  | error fault after => simp [ran] at ends
  | ok output after =>
    simp only [ran] at law ends
    have before : (Executor.alone selfOwned).world.wealth = 7 := by decide
    have unpaid : (Executor.alone selfOwned).world.gasPaid claimQuery = 0 := rfl
    have unminted : minted claimQuery = 0 := rfl
    simp only [before, unpaid, ends, unminted, if_true, Nat.add_zero] at law
    exact ⟨ends, law⟩

end Run
end ChainScenario
