import ChainScenario.Proofs.BuiltinIntegrity
import ChainScenario.Proofs.Creation
import ChainScenario.Proofs.Gathering
import ChainScenario.Proofs.SetState

/-!
# Stored tokens are never corrupt

Whoever writes to the storage of accounts, a setting, a built-in function or a reward, writes what can
be read. Main statement: `ReachableWithin.tokens_intact`.
-/
namespace ChainScenario

open Token

/-! ## Settings -/

/-- A setting writes to no storage key of the protocol. -/
def AccountSetting.Unprotected (setting : AccountSetting) : Prop :=
  ∀ entry ∈ setting.storage, Address.isProtected entry.1.value = false

instance (setting : AccountSetting) : Decidable setting.Unprotected :=
  inferInstanceAs (Decidable (∀ entry ∈ setting.storage, _))

/-- A step writes to no storage key of the protocol, except by the tokens it lists. -/
def SetState.Unprotected (step : SetState) : Prop :=
  ∀ setting ∈ step.accounts, setting.Unprotected

instance (step : SetState) : Decidable step.Unprotected :=
  inferInstanceAs (Decidable (∀ setting ∈ step.accounts, _))

theorem readable_withLastNonce {account : Account} (readable : account.Every Readable) (token : Bytes)
    (nonce : Option (Written UInt64)) : (account.withLastNonce token nonce).Every Readable := by
  cases nonce with
  | none => exact readable
  | some nonce => exact readable.save fun some => (intact_nonceBytes some _).readable

/-- A balance of zero is not stored, and neither are a last nonce of zero and an empty list of roles. -/
theorem readable_savedToken {account : Account} (readable : account.Every Readable)
    (setting : TokenSetting) : (account.savedToken setting).Every Readable := by
  have holds := List.foldlRecOn setting.instances
    (Account.withInstance · setting.identifier.value (valueOr 0 setting.frozen != 0))
    (motive := Account.Every Readable) readable
    fun account before one _ => before.saveHolding fun some => readable_write some _ _
  have numbered := readable_withLastNonce holds setting.identifier.value setting.lastNonce
  exact numbered.setRoles fun some => readable_writeRoles some _

theorem readable_plain {setting : AccountSetting} (unprotected : setting.Unprotected) :
    setting.plain.Every Readable :=
  List.foldlRecOn setting.storage _ (motive := Account.Every Readable) (Account.every_blank _)
    fun _ before entry listed =>
      before.put (intact_of_unprotected (unprotected entry listed)).readable

theorem readable_meant {setting : AccountSetting} (unprotected : setting.Unprotected) :
    setting.meant.Every Readable := by
  have saved := List.foldlRecOn setting.tokens Account.savedToken (motive := Account.Every Readable)
    (readable_plain unprotected) fun account before token _ => readable_savedToken before token
  exact saved.of_storage rfl

/-- An update leaves entries of both accounts. -/
theorem readable_merge {setting : AccountSetting} {old new : Account} (before : old.Every Readable)
    (written : new.Every Readable) : (setting.merge old new).Every Readable := by
  have both : ∀ (entries : List (Bytes × Bytes)) (storage : OrdMap Bytes Bytes),
      (∀ key value, storage.get? key = some value → Readable key value) →
        (∀ entry ∈ entries, Readable entry.1 entry.2) →
          ∀ key value, (storage.insertAll entries).get? key = some value → Readable key value := by
    -- by induction on the new entries, for every storage they are set in
    intro entries
    induction entries with
    | nil => exact fun storage kept _ => kept
    | cons entry rest ih =>
      intro storage kept added
      apply ih (storage.insert entry.1 entry.2)
      · intro key value found
        rw [OrdMap.get?_insert] at found
        split at found
        · rename_i here
          cases found
          exact here ▸ added entry List.mem_cons_self
        · exact kept key value found
      · exact fun other member => added other (List.mem_cons_of_mem _ member)
  exact both new.storage.toList old.storage before fun entry member =>
    written entry.1 entry.2 (OrdMap.get?_of_mem member)

theorem SetState.readable {step : SetState} (unprotected : step.Unprotected) :
    Maintains (World.Every Readable) step.apply := by
  refine step.maintains_apply (fun setting listed => setting.maintains_apply ?_ ?_) ?_ ?_
  · intro world written readable converts _
    obtain ⟨rfl, -⟩ := AccountSetting.ok_toAccount converts
    exact readable.setAccount (readable_meant (unprotected setting listed))
  · intro world written old readable converts found _
    obtain ⟨rfl, -⟩ := AccountSetting.ok_toAccount converts
    have new := readable_meant (unprotected setting listed)
    exact readable.setAccount (readable_merge (readable _ old found) new)
  · exact fun world other same _ _ readable => readable.of_accounts same
  · exact fun world added _ readable => readable.of_accounts rfl

/-! ## Transactions -/

namespace World

theorem sound_charged {world : World} (transaction : Transaction) (sound : world.Sound) :
    (world.charged transaction).Sound := by
  unfold charged
  dsimp only
  split
  · rename_i sender _ found
    constructor
    · exact sound.intact.setAccount ((sound.intact _ sender found).of_storage rfl)
    · intro slot
      rw [supply_setAccount_of_stored (by rw [accountOrBlank_of_account? found]; rfl)]
      exact sound.small slot
  · exact sound

theorem readable_updateBalance {address : Bytes} {delta : Int} {world after : World}
    (readable : world.Every Readable) (ran : updateBalance address delta world = .ok () after) :
    after.Every Readable := by
  obtain ⟨account, changed, found, adds, rfl⟩ := ok_updateBalance ran
  exact readable.setAccount ((readable _ account found).of_storage (Account.storage_addToBalance adds))

theorem readable_rewrite {change : AccountChange} {account : Account}
    (readable : account.Every Readable)
    (writes : ∀ write ∈ change.storage, Readable write.1 write.2) :
    (change.rewrite account).Every Readable := by
  unfold AccountChange.rewrite
  apply Account.Every.saveAll _ writes
  apply readable.of_storage
  split <;> split <;> rfl

theorem readable_applyChange {address : Bytes} {change : AccountChange} {world after : World}
    (readable : world.Every Readable)
    (writes : ∀ write ∈ change.storage, Readable write.1 write.2)
    (ran : applyChange address change world = .ok () after) : after.Every Readable := by
  obtain ⟨account, adds, rfl⟩ := ok_applyChange.1 ran
  have changed := (readable.accountOrBlank address).of_storage (Account.storage_addToBalance adds)
  exact readable.setAccount (readable_rewrite changed writes)

private theorem readable_applyEach {entries : List (Bytes × AccountChange)} {world after : World}
    (readable : world.Every Readable)
    (writes : ∀ entry ∈ entries, ∀ write ∈ entry.2.storage, Readable write.1 write.2)
    (ran : (entries.forM fun entry => applyChange entry.1 entry.2 : Action Unit) world =
      .ok () after) : after.Every Readable := by
  induction entries generalizing world with
  | nil =>
    obtain ⟨-, rfl⟩ := ok_pure.1 ran
    exact readable
  | cons entry rest ih =>
    obtain ⟨_, middle, first, others⟩ := ok_bind.1 ran
    have between := readable_applyChange readable (writes entry List.mem_cons_self) first
    exact ih between (fun other member => writes other (List.mem_cons_of_mem _ member)) others

theorem readable_applyChanges {changes : OrdMap Bytes AccountChange} {deleted : List Bytes}
    {world after : World} (readable : world.Every Readable)
    (writes : ∀ entry ∈ changes.toList, ∀ write ∈ entry.2.storage, Readable write.1 write.2)
    (ran : applyChanges changes deleted world = .ok () after) : after.Every Readable := by
  simp only [applyChanges, ok_bind, ok_modify] at ran
  obtain ⟨_, middle, applied, rfl⟩ := ran
  exact (readable_applyEach readable writes applied).deleteAll

end World

theorem Dummy.Acted.readable {world after : World} (acted : Dummy.Acted world after)
    (sound : world.Sound) : after.Every Readable := by
  cases acted with
  | idle => exact sound.readable
  | named _ => exact sound.readable.of_accounts rfl
  | builtin effect => exact effect.readable sound

namespace Run

/-- Moved tokens leave a sound ledger to the machine. -/
theorem Evolved.readable {world after : World} (evolved : Evolved world after)
    (sound : world.Sound) : after.Every Readable := by
  cases evolved with
  | acted acted => exact acted.readable sound
  | moved moves effect acted => exact acted.readable (effect.sound moves sound)

/-- A result asks for no entry of storage but that of a reward. -/
private theorem readable_of_asks {output : CallOutput} {value : Nat} (asks : output.Asks value) :
    ∀ entry ∈ output.changes.toList, ∀ write ∈ entry.2.storage, Readable write.1 write.2 := by
  intro entry listed write asked
  rcases asks.changes with idle | ⟨address, change, single, -, rewards⟩
  · rw [idle entry listed] at asked
    cases asked
  · rw [single] at listed
    obtain rfl : entry = (address, change) := List.mem_singleton.1 listed
    have key := rewards write asked
    rw [key]
    exact intact_rewardKey.readable

theorem Paid.readable {transaction : Transaction} {world paid : World}
    (pays : Paid transaction world paid) (readable : world.Every Readable) : paid.Every Readable := by
  cases pays with
  | sender _ pays => exact World.readable_updateBalance readable pays
  | nobody => exact readable

theorem Performed.readable {tx : String} {transaction : Transaction} {world after : World}
    {output : CallOutput} (performed : Performed tx transaction world output after)
    (sound : world.Sound) : after.Every Readable := by
  obtain ⟨-, enacted, pays, applies, -⟩ := performed
  obtain ⟨evolved, asks⟩ := enacted.evolved
  have paid := pays.readable (evolved.readable sound)
  exact World.readable_applyChanges paid (readable_of_asks asks) applies

/-- A transaction on a sound ledger leaves everything readable, however it ends. -/
theorem readable_transact {executor : Executor Dummy} (sound : executor.world.Sound) (tx : String)
    (transaction : Transaction) :
    (stateAfter (transact Dummy.machine tx transaction executor)).world.Every Readable := by
  have charged := World.sound_charged transaction sound
  -- what ends well is kept, everything else goes back to what was charged
  have ends := transact_ends executor tx transaction
  rcases ends with ⟨output, after, ran, -, completed⟩ | ⟨-, undone⟩
  · rw [ran, stateAfter]
    generalize after.world = kept at completed
    obtain ⟨performed⟩ := completed
    have copied : (executor.world.charged transaction).backup.Sound :=
      ⟨charged.intact.of_accounts rfl, charged.small⟩
    exact (performed.readable copied).commit
  · exact charged.readable.of_accounts undone.accounts

/-! ## Runs -/

theorem ReachableWithin.readable {transactions : Transaction → Prop} {executor : Executor Dummy}
    (reached : ReachableWithin SetState.Unprotected transactions World.Bounded executor) :
    executor.world.Every Readable := by
  -- what is readable is sound as long as the ledger is in memory, which each step is asked to keep
  induction reached with
  | new _ =>
    intro address account found
    cases found
  | start _ schedule _ ih =>
    have kept : Keeps (fun executor : Executor Dummy => executor.world.accounts)
        (startMachine Dummy.machine schedule) := keeps_startMachine _ _ fun _ _ => rfl
    exact ih.of_accounts (kept _)
  | set _ allowed _ ih => exact maintains_onWorld (SetState.readable allowed) id _ ih
  | transact before tx _ _ ih => exact readable_transact (ih.sound before.within) tx _

/-- A run that starts from the empty ledger, writes to no key of the protocol but through tokens and
keeps its ledgers in memory never corrupts a token: what the storage keys promise is there, built-in
functions find no fault in what is stored, and the tokens of every account can be gathered. -/
theorem ReachableWithin.tokens_intact {executor : Executor Dummy}
    (reached : ReachableWithin SetState.Unprotected (fun _ => True) World.Bounded executor) :
    executor.world.Every Intact ∧
      (∀ call cause after, Builtin.run call executor.world ≠ .error (.tokenStorage cause) after) ∧
        ∀ address, ∃ records, executor.world.tokens address = .ok records := by
  have sound := reached.readable.sound reached.within
  refine ⟨sound.intact, ?_, World.tokens_ok sound.intact⟩
  intro call cause after
  exact Builtin.run_unbroken sound call cause

/-- The instances that were painted and delivered stay what they are. -/
theorem tokens_intact_delivered :
    ReachableWithin SetState.Unprotected (fun _ => True) World.Bounded Builtin.delivered ∧
      Builtin.delivered.world.Every Intact := by
  have reached : ReachableWithin SetState.Unprotected (fun _ => True) World.Bounded
      Builtin.delivered := by
    refine .transact (.transact (.set (.start (.new ?_) .standard ?_) ?_ ?_) "paint" trivial ?_)
      "deliver" trivial ?_ <;> decide +kernel
  exact ⟨reached, reached.tokens_intact.1⟩

end Run
end ChainScenario
