import ChainScenario.Proofs.Bystanders
import ChainScenario.Proofs.Outcome
import ChainScenario.Proofs.Reachable

/-!
# Accounts stay who they are

A transaction leaves every account its address and its code, but for at most one account in which it
installs code, and lets nobody into the ledger but accounts with addresses and the receiver of currency.
Main statements: `renewed_transact`, and `Lasting.transact`, by which what a transaction cannot break for
one account holds of all of them.
-/
namespace ChainScenario

open World

/-! ## One account before and after -/

/-- An account keeps its address and its code, and belongs to whom it did or to a new owner. -/
structure Account.Remains (old new : Account) : Prop where
  address : new.address = old.address
  code : new.code = old.code
  codeHash : new.codeHash = old.codeHash
  isContract : new.isContract = old.isContract
  owner : new.owner = old.owner ∨ new.owner.length = Address.length

/-- An account keeps its address and has code, which belongs to an owner. -/
structure Account.Installed (owner : Bytes) (old new : Account) : Prop where
  address : new.address = old.address
  coded : new.code ≠ []
  codeHash : new.codeHash = Blake3.digest new.code
  isContract : new.isContract = true
  owner : new.owner = owner

namespace Account

variable {account changed : Account} {delta : Int} {change : AccountChange}

theorem Remains.refl (account : Account) : Remains account account :=
  ⟨rfl, rfl, rfl, rfl, .inl rfl⟩

theorem Remains.trans {first second third : Account} (before : Remains first second)
    (behind : Remains second third) : Remains first third where
  address := behind.address.trans before.address
  code := behind.code.trans before.code
  codeHash := behind.codeHash.trans before.codeHash
  isContract := behind.isContract.trans before.isContract
  owner := by
    rcases behind.owner with same | renewed
    · rw [same]
      exact before.owner
    · exact .inr renewed

/-- Storage has no part in this. -/
theorem Remains.of_bare (same : changed.bare = account.bare) : Remains account changed where
  address := (congrArg Account.address same :)
  code := (congrArg Account.code same :)
  codeHash := (congrArg Account.codeHash same :)
  isContract := (congrArg Account.isContract same :)
  owner := .inl (congrArg Account.owner same :)

theorem remains_addToBalance (adds : account.addToBalance delta = .ok changed) :
    Remains account changed := by
  unfold addToBalance at adds
  dsimp only at adds
  split at adds
  · cases adds
  · cases adds
    exact ⟨rfl, rfl, rfl, rfl, .inl rfl⟩

theorem remains_takeFromBalance {value : Nat} (takes : account.takeFromBalance value = .ok changed) :
    Remains account changed := by
  unfold takeFromBalance at takes
  split at takes
  · cases takes
  · cases takes
    exact ⟨rfl, rfl, rfl, rfl, .inl rfl⟩

theorem remains_rewrite (plain : change.code = []) (account : Account) :
    Remains account (change.rewrite account) := by
  have raised : Remains account
      (if account.nonce < change.nonce then { account with nonce := change.nonce } else account) := by
    split <;> exact ⟨rfl, rfl, rfl, rfl, .inl rfl⟩
  simp only [AccountChange.rewrite, plain, List.isEmpty_nil, if_true]
  exact raised.trans (.of_bare (bare_saveAll _ _))

theorem installed_rewrite (coded : change.code ≠ []) (account : Account) :
    Installed change.codeDeployer account (change.rewrite account) := by
  have filled : change.code.isEmpty = false := List.isEmpty_eq_false_iff.2 coded
  simp only [AccountChange.rewrite, filled, Bool.false_eq_true, if_false]
  -- what is written to storage behind the code changes nothing of it
  have last := Remains.of_bare (bare_saveAll
    { (if account.nonce < change.nonce then { account with nonce := change.nonce }
        else account).withCode change.code with
      codeMetadata := change.codeMetadata
      owner := change.codeDeployer } change.storage)
  constructor
  · rw [last.address]
    simp only [withCode]
    split <;> rfl
  · rw [last.code]
    exact coded
  · rw [last.codeHash, last.code]
    simp only [withCode, filled, Bool.false_eq_true, if_false]
  · rw [last.isContract]
    simp only [withCode, filled, Bool.not_false]
  · exact (congrArg Account.owner (bare_saveAll _ _) :)

end Account

/-! ## The ledger before and after -/

/-- A commit settles the pending changes of balances, and nothing else. -/
theorem World.Stands.commit {relation : Account → Account → Prop}
    (reflexive : ∀ account, relation account account)
    (settles : ∀ account, relation account { account with balanceDelta := 0 }) (world : World)
    (address : Bytes) : Stands relation address world world.commit := by
  constructor
  · intro known
    rw [account?_commit, Option.isSome_map]
    exact known
  · change relation ((world.account? address).getD _) ((world.commit.account? address).getD _)
    rw [account?_commit]
    cases world.account? address with
    | none => exact reflexive _
    | some account => exact settles account

/-- Every account of a ledger remains, deployments are expected where they were, and new accounts have
addresses. -/
structure World.Grows (world after : World) : Prop where
  stands : ∀ address, Stands Account.Remains address world after
  newcomers : ∀ address, (after.account? address).isSome →
    (world.account? address).isSome ∨ address.length = Address.length
  mocks : after.mocks = world.mocks

namespace World.Grows

variable {world middle after : World}

theorem refl (world : World) : Grows world world :=
  ⟨fun _ => .refl Account.Remains.refl, fun _ => .inl, rfl⟩

theorem trans (before : Grows world middle) (behind : Grows middle after) : Grows world after where
  stands address := (before.stands address).trans .trans (behind.stands address)
  newcomers address known := by
    rcases behind.newcomers address known with between | addressed
    · exact before.newcomers address between
    · exact .inr addressed
  mocks := behind.mocks.trans before.mocks

theorem known (grows : Grows world after) {address : Bytes}
    (before : (world.account? address).isSome) : (after.account? address).isSome :=
  (grows.stands address).known before

/-- An account that is there remains from one that was there, or from a blank one at an address. -/
theorem reads (grows : Grows world after) {address : Bytes} {new : Account}
    (found : after.account? address = some new) :
    ∃ old : Account, old.Remains new ∧ (world.account? address = some old ∨
      address.length = Address.length ∧ old = .blank address) := by
  have related := (grows.stands address).related
  rw [accountOrBlank_of_account? found] at related
  refine ⟨_, related, ?_⟩
  cases before : world.account? address with
  | some old => exact .inl (congrArg some (accountOrBlank_of_account? before).symm)
  | none =>
    rw [accountOrBlank_of_missing before]
    rcases grows.newcomers address (by rw [found]; rfl) with known | addressed
    · rw [before] at known
      cases known
    · exact .inr ⟨addressed, rfl⟩

/-- Only the accounts and the addresses of deployments count. -/
theorem of_accounts (grows : Grows world middle) (accounts : after.accounts = middle.accounts)
    (mocks : after.mocks = middle.mocks) : Grows world after := by
  refine ⟨fun address => (grows.stands address).of_accounts accounts, fun address => ?_,
    mocks.trans grows.mocks⟩
  rw [show after.account? address = middle.account? address from congrArg (·.get? address) accounts]
  exact grows.newcomers address

theorem write {address : Bytes} {account : Account}
    (allowed : (world.account? address).isSome ∨ address.length = Address.length)
    (remains : (world.accountOrBlank address).Remains account) :
    Grows world (world.setAccount address account) where
  stands _ := .write Account.Remains.refl fun _ => remains
  newcomers other known := by
    rw [account?_setAccount] at known
    split at known
    · rename_i here
      rw [here]
      exact allowed
    · exact .inl known
  mocks := rfl

/-- A write to an account that is there. -/
theorem write_found {address : Bytes} {old account : Account}
    (found : world.account? address = some old) (remains : old.Remains account) :
    Grows world (world.setAccount address account) := by
  refine write (.inl (by rw [found]; rfl)) ?_
  rw [accountOrBlank_of_account? found]
  exact remains

theorem commit (world : World) : Grows world world.commit where
  stands := Stands.commit Account.Remains.refl (fun _ => ⟨rfl, rfl, rfl, rfl, .inl rfl⟩) world
  newcomers address known := by
    rw [account?_commit, Option.isSome_map] at known
    exact .inl known
  mocks := rfl

end World.Grows

/-! ## Built-in functions -/

namespace Builtin

section Movements

variable {source destination token : Bytes} {nonce : UInt64} {value : Nat} {world after : World}

theorem TokensMoved.grows (moved : TokensMoved source destination token nonce value world after) :
    world.Grows after := by
  obtain ⟨addressed, found, -, -, -, taken, -⟩ := moved
  rename_i sender sent middle held
  have first : world.Grows middle := by
    rw [taken]
    exact .write_found found (.of_bare (Account.bare_saveHolding _ _ _ _))
  exact first.trans (.write (.inr addressed) (.of_bare (Account.bare_setHolding _ _ _ _)))

theorem CurrencyMoved.grows (moved : CurrencyMoved source destination value world after) :
    world.Grows after := by
  obtain ⟨addressed, found, pays, taken⟩ := moved
  rename_i sender payer middle
  have first : world.Grows middle := by
    rw [taken]
    exact .write_found found (Account.remains_takeFromBalance pays)
  exact first.trans (.write (.inr addressed) ⟨rfl, rfl, rfl, rfl, .inl rfl⟩)

theorem AnyMoved.grows (moved : AnyMoved source destination token nonce value world after) :
    world.Grows after := by
  cases moved with
  | currency _ moved => exact moved.grows
  | tokens _ moved => exact moved.grows

theorem AllMoved.grows {listed : List (Bytes × Bytes × Bytes)}
    (moved : AllMoved source destination listed world after) : world.Grows after := by
  induction moved with
  | none => exact .refl _
  | more _ first _ ih => exact first.grows.trans ih

theorem Burned.grows (burned : Burned source token nonce value world after) : world.Grows after := by
  obtain ⟨found, -, -⟩ := burned
  exact .write_found found (.of_bare (Account.bare_saveHolding _ _ _ _))

end Movements

variable {call : Call} {world after : World}

theorem RolesChanged.grows {change : List Bytes → Bytes → List Bytes}
    (changed : RolesChanged change call world after)
    (recipient : (world.account? call.recipient).isSome) : world.Grows after := by
  obtain ⟨-, -, -⟩ := changed
  exact .write (.inl recipient) (.of_bare (Account.bare_setRoles _ _ _))

/-- Built-in functions leave all accounts who they are, and let accounts into the ledger only by moving
something to them, if their caller and, unless they move something, their recipient are there. -/
theorem Effect.grows {function : Function} (effect : Effect call world function after)
    (caller : (world.account? call.input.caller).isSome)
    (recipient : function.moves = false → (world.account? call.recipient).isSome) :
    world.Grows after := by
  cases effect with
  | tokenTransfer _ _ moved => exact moved.grows
  | instanceTransfer _ _ _ _ moved => exact moved.grows
  | multiTransfer _ _ _ moved => exact moved.grows
  | localMint _ _ _ _ found =>
    exact .write (.inl caller) (.of_bare (by rw [Account.bare_setHolding, found]))
  | localBurn _ _ _ _ burned => exact burned.grows
  | create _ _ _ _ _ found =>
    exact .write (.inl caller) (.of_bare (by
      rw [Account.bare_setLastNonce, Account.bare_setHolding, found]))
  | addQuantity own => exact .write_found own.found (.of_bare (Account.bare_setHolding _ _ _ _))
  | burn _ _ _ _ burned => exact burned.grows
  | addUris own => exact .write_found own.found (.of_bare (Account.bare_setHolding _ _ _ _))
  | updateAttributes own => exact .write_found own.found (.of_bare (Account.bare_setHolding _ _ _ _))
  | setRoles changed => exact changed.grows (recipient rfl)
  | unsetRoles changed => exact changed.grows (recipient rfl)
  | changeOwner _ addressed own => exact .write_found own.found ⟨rfl, rfl, rfl, rfl, .inr addressed⟩
  | @claimRewards contract middle _ own taken =>
    have first : world.Grows middle := by
      rw [taken]
      exact .write_found own.found ⟨rfl, rfl, rfl, rfl, .inl rfl⟩
    exact first.trans (.write (.inl (first.known caller)) ⟨rfl, rfl, rfl, rfl, .inl rfl⟩)
  | setUsername _ _ found =>
    refine .write (.inl (recipient rfl)) ?_
    rw [found]
    exact ⟨rfl, rfl, rfl, rfl, .inl rfl⟩
  | saveKeyValue _ _ _ found =>
    refine .write (.inl (recipient rfl)) (.of_bare ?_)
    rw [Account.bare_saveAll, found]

/-- So does the function that moves the tokens of a call. -/
theorem Effect.grows_convert {function : Function} (effect : Effect (convert call) world function after)
    (moves : function.moves) (caller : (world.account? call.input.caller).isSome) :
    world.Grows after := by
  refine effect.grows ?_ ?_
  · unfold convert
    split <;> exact caller
  · rw [moves]
    exact nofun

theorem Plain.grows {output : CallOutput} (plain : Plain output world) (grows : world.Grows after) :
    Plain output after :=
  { plain with known := fun entry listed => grows.known (plain.known entry listed) }

end Builtin

/-! ## Transactions -/

namespace World

theorem grows_charged (world : World) (transaction : Transaction) :
    world.Grows (world.charged transaction) := by
  unfold charged
  dsimp only
  split
  · rename_i found
    exact .write_found found ⟨rfl, rfl, rfl, rfl, .inl rfl⟩
  · exact .refl world

theorem grows_updateBalance {address : Bytes} {delta : Int} {world after : World}
    (ran : updateBalance address delta world = .ok () after) : world.Grows after := by
  obtain ⟨account, changed, found, adds, rfl⟩ := ok_updateBalance ran
  exact .write_found found (Account.remains_addToBalance adds)

/-- Where code is deployed: at the address of a contract, or where it is expected. -/
def Deploys (world : World) (address : Bytes) : Prop :=
  Address.isContract address ∨ ∃ mock ∈ world.mocks, mock.address = address

theorem deploys_deploymentAddress (world : World) (creator : Bytes) (nonce : UInt64) :
    world.Deploys (world.deploymentAddress creator nonce) := by
  unfold deploymentAddress
  split
  · rename_i mock found
    exact .inr ⟨mock, List.mem_of_find?_eq_some found, rfl⟩
  · exact .inl (Address.isContract_mock _ _ _)

end World

namespace Run

/-- The one write of a transaction that does more than to leave an account as it is; code is only written
by a kind that has arguments, since the others do not reach the machine. -/
inductive SoleWrite (transaction : Transaction) (world : World) : Bytes → Account → Prop
  /-- Currency alone may be sent to anybody. -/
  | received {account : Account} (kind : transaction.kind = .transfer)
      (bare : transaction.payments = [])
      (remains : (world.accountOrBlank transaction.receiver.value).Remains account) :
      SoleWrite transaction world transaction.receiver.value account
  | deployed {address : Bytes} {account : Account} (kind : transaction.kind.hasArguments)
      (deploys : world.Deploys address)
      (changed : (world.accountOrBlank address).Remains account ∨
        (world.accountOrBlank address).Installed (calling transaction).sender.value account) :
      SoleWrite transaction world address account
  | upgraded {address : Bytes} {old account : Account} (kind : transaction.kind.hasArguments)
      (found : world.account? address = some old) (coded : old.code ≠ [])
      (installed : old.Installed (calling transaction).sender.value account) :
      SoleWrite transaction world address account

/-- Every account remains, but for one write. -/
inductive Renewed (transaction : Transaction) (world after : World) : Prop
  | grown (grows : world.Grows after) : Renewed transaction world after
  | written {middle : World} {address : Bytes} {account : Account} (before : world.Grows middle)
      (written : SoleWrite transaction middle address account)
      (behind : (middle.setAccount address account).Grows after) : Renewed transaction world after

theorem Renewed.trans_grows {transaction : Transaction} {world middle after : World}
    (renewed : Renewed transaction world middle) (grows : middle.Grows after) :
    Renewed transaction world after := by
  cases renewed with
  | grown before => exact .grown (before.trans grows)
  | written before written behind => exact .written before written (behind.trans grows)

theorem Renewed.of_grows {transaction : Transaction} {world middle after : World}
    (grows : world.Grows middle) (renewed : Renewed transaction middle after) :
    Renewed transaction world after := by
  cases renewed with
  | grown behind => exact .grown (grows.trans behind)
  | written before written behind => exact .written (grows.trans before) written behind

/-! ### Up to the result -/

theorem Delivered.grows {call : Call} {world after : World} (delivered : Delivered call world after)
    (caller : (world.account? call.input.caller).isSome) : world.Grows after := by
  cases delivered with
  | none => exact .refl world
  | moved _ moves effect => exact effect.grows_convert moves caller

/-- The sender of a transaction is there, if its kind has one. -/
def Sends (world : World) (transaction : Transaction) : Prop :=
  transaction.kind.hasSender → (world.account? transaction.sender.value).isSome

theorem caller_calling {tx : String} {transaction : Transaction} {world : World} {receiver : Account}
    (sends : Sends world transaction)
    (kind : transaction.kind = .upgrade ∨ transaction.kind = .query ∨ transaction.kind = .call)
    (found : world.account? transaction.receiver.value = some receiver) :
    (world.account? (callOf (calling transaction) (transactionHash tx)).input.caller).isSome := by
  unfold Sends at sends
  rcases kind with kind | kind | kind <;> simp only [calling, kind] at sends ⊢
  · exact sends rfl
  · -- a query is called by its receiver
    change (world.account? transaction.receiver.value).isSome
    rw [found]
    rfl
  · exact sends rfl

theorem recipient_calling (tx : String) (transaction : Transaction) :
    (callOf (calling transaction) (transactionHash tx)).recipient = transaction.receiver.value := by
  unfold calling
  split <;> rfl

/-! ### The result -/

section Applied

variable {transaction : Transaction} {tx : String} {world middle paid after : World}
  {output : CallOutput}

theorem applied_single {address : Bytes} {change : AccountChange}
    (applies : applyChanges (OrdMap.empty.insert address change) [] paid = .ok () after) :
    ∃ account, (paid.accountOrBlank address).Remains account ∧
      after = paid.setAccount address (change.rewrite account) := by
  obtain ⟨account, adds, same⟩ := ok_applyChanges_single applies
  exact ⟨account, Account.remains_addToBalance adds, same⟩

theorem applied_plain (plain : Builtin.Plain output middle) (grows : middle.Grows paid)
    (applies : applyChanges output.changes output.deleted paid = .ok () after) : after = paid := by
  have there := plain.grows grows
  rw [there.deleted, applyChanges_idle there.idle there.known] at applies
  cases applies
  rfl

/-- Code is installed in an account that may have got currency before. -/
theorem installed_of_remains {old between : Account} {change : AccountChange} {owner : Bytes}
    (remains : old.Remains between) (coded : change.code ≠ [])
    (deployer : change.codeDeployer = owner) : old.Installed owner (change.rewrite between) := by
  have installed := Account.installed_rewrite coded between
  rw [deployer] at installed
  exact { installed with address := installed.address.trans remains.address }

theorem Answered.renewed {call : Call} (answered : Answered call world middle output)
    (kind : transaction.kind.hasArguments)
    (caller : (world.account? call.input.caller).isSome)
    (calls : call.input.caller = (calling transaction).sender.value) (grows : middle.Grows paid)
    (applies : applyChanges output.changes output.deleted paid = .ok () after) :
    Renewed transaction world after := by
  obtain ⟨found, coded, delivered, called⟩ := answered
  rename_i receiver between
  have before := delivered.grows caller
  cases called with
  | builtin _ effect plain =>
    have known : (world.account? call.recipient).isSome := by rw [found]; rfl
    have acted := effect.grows (before.known caller) fun _ => before.known known
    obtain rfl := applied_plain plain grows applies
    exact .grown ((before.trans acted).trans grows)
  | upgraded _ _ _ given =>
    obtain ⟨account, remains, rfl⟩ := applied_single applies
    have all := before.trans grows
    -- the contract that is upgraded is the one that was called, and still has code
    obtain ⟨old, there⟩ := Option.isSome_iff_exists.1 (all.known (by rw [found]; rfl))
    have stays := (all.stands call.recipient).related
    rw [accountOrBlank_of_account? found, accountOrBlank_of_account? there] at stays
    rw [accountOrBlank_of_account? there] at remains
    refine .written all (.upgraded kind there ?_ ?_) (.refl _)
    · rw [stays.code]
      exact coded
    · exact installed_of_remains remains given calls

/-- What is done and then applied renews the ledger, whatever else it is paid in between. -/
theorem Enacted.renewed (enacted : Enacted tx transaction world middle output)
    (sends : Sends world transaction) (grows : middle.Grows paid)
    (applies : applyChanges output.changes output.deleted paid = .ok () after) :
    Renewed transaction world after := by
  cases enacted with
  | @deployed address kind placed =>
    have named : world.Grows { world with lastCreated := address } :=
      (Grows.refl world).of_accounts rfl rfl
    have all := named.trans grows
    obtain ⟨account, remains, rfl⟩ := applied_single applies
    refine .written all (.deployed (by rw [kind]; rfl) ?_ ?_) (.refl _)
    · rw [placed]
      rcases deploys_deploymentAddress world transaction.sender.value _ with form | ⟨mock, listed, same⟩
      · exact .inl form
      · exact .inr ⟨mock, by rw [all.mocks]; exact listed, same⟩
    · have own : (calling transaction).sender = transaction.sender := by simp only [calling, kind]
      by_cases coded : transaction.code.value = []
      · exact .inl (remains.trans (Account.remains_rewrite coded account))
      · exact .inr (installed_of_remains remains coded (by rw [own]; rfl))
  | answered kind answered =>
    obtain ⟨found, -, -, -⟩ := id answered
    rw [recipient_calling] at found
    refine answered.renewed ?_ (caller_calling sends kind found) rfl grows applies
    rcases kind with kind | kind | kind <;> rw [kind] <;> rfl
  | credited kind bare =>
    obtain ⟨account, remains, rfl⟩ := applied_single applies
    exact .written grows (.received kind bare (remains.trans (Account.remains_rewrite rfl account)))
      (.refl _)
  | moved kind _ moves effect plain =>
    have caller : (world.account? transaction.sender.value).isSome := sends (by rw [kind]; rfl)
    obtain rfl := applied_plain plain grows applies
    exact .grown ((effect.grows_convert moves caller).trans grows)
  | rewarded _ found =>
    obtain ⟨account, remains, rfl⟩ := applied_single applies
    have before : (world.account? transaction.receiver.value).isSome := by rw [found]; rfl
    exact .grown (grows.trans
      (.write (.inl (grows.known before)) (remains.trans (Account.remains_rewrite rfl account))))

end Applied

/-! ### Whole transactions -/

theorem Paid.grows {transaction : Transaction} {world paid : World}
    (pays : Paid transaction world paid) : world.Grows paid := by
  cases pays with
  | sender _ pays => exact grows_updateBalance pays
  | nobody => exact .refl world

/-- Who can pay is there. -/
theorem sends_of_canPay {transaction : Transaction} {world : World}
    (able : canPay world transaction) : Sends world transaction := by
  intro sender
  cases found : world.account? transaction.sender.value with
  | some _ => rfl
  | none => simp [canPay, sender, found] at able

/-- A transaction that ended well: its sender was charged and had enough, what its kind does was done, the
sender paid its value, and what the result asks for was applied. -/
inductive Fulfilled (tx : String) (transaction : Transaction) (world : World) (output : CallOutput) :
    World → Prop
  | intro {start middle paid applied : World} (charged : world.Grows start)
      (sends : Sends start transaction) (enacted : Enacted tx transaction start middle output)
      (pays : middle.Grows paid)
      (applies : applyChanges output.changes output.deleted paid = .ok () applied) :
      Fulfilled tx transaction world output applied.commit

section Fulfilled

variable {tx : String} {transaction : Transaction} {executor after : Executor Dummy}
  {output : CallOutput}

theorem Completed.fulfilled {world after : World}
    (completed : Completed tx transaction world output after) :
    Fulfilled tx transaction world output after := by
  obtain ⟨⟨able, enacted, pays, applies, -⟩⟩ := completed
  have copied : world.Grows (world.charged transaction).backup :=
    (grows_charged world transaction).of_accounts rfl rfl
  exact .intro copied (sends_of_canPay able) enacted pays.grows applies

theorem fulfilled_transact (ran : transact Dummy.machine tx transaction executor = .ok output after)
    (succeeded : output.succeeded) : Fulfilled tx transaction executor.world output after.world := by
  rcases transact_ends executor tx transaction with ⟨result, final, ended, -, completed⟩ | ⟨failed, -⟩
  · cases ran.symm.trans ended
    exact completed.fulfilled
  · rw [failed output after ran] at succeeded
    cases succeeded

/-- A transaction that does not end well changes nobody. -/
theorem grows_transact (failed : ∀ output after,
      transact Dummy.machine tx transaction executor = .ok output after → output.succeeded = false) :
    executor.world.Grows (stateAfter (transact Dummy.machine tx transaction executor)).world := by
  rcases transact_ends executor tx transaction with ⟨output, after, ran, succeeded, -⟩ | ⟨-, undone⟩
  · rw [failed output after ran] at succeeded
    cases succeeded
  · -- it goes back to what was charged, and the expected deployments are as before
    have charged := grows_charged executor.world transaction
    exact charged.of_accounts undone.accounts (undone.mocks.trans charged.mocks.symm)

theorem Fulfilled.renewed {world after : World} (fulfilled : Fulfilled tx transaction world output after) :
    Renewed transaction world after := by
  obtain ⟨charged, sends, enacted, pays, applies⟩ := fulfilled
  exact ((enacted.renewed sends pays applies).of_grows charged).trans_grows (.commit _)

/-- Whoever is sent currency alone is in the ledger afterwards. -/
theorem Fulfilled.receives {world after : World} (fulfilled : Fulfilled tx transaction world output after)
    (kind : transaction.kind = .transfer) (bare : transaction.payments = []) :
    (after.account? transaction.receiver.value).isSome := by
  obtain ⟨-, -, enacted, -, applies⟩ := fulfilled
  apply (Grows.commit _).known
  cases enacted with
  | credited =>
    obtain ⟨account, -, rfl⟩ := applied_single applies
    exact Builtin.isSome_setAccount _ _ _
  | moved _ pays => exact absurd bare pays
  | deployed other | rewarded other => simp [kind] at other
  | answered other => simp [kind] at other

/-- However a transaction ends, every account stays who it is, but for one that may get code or come into
the ledger with currency. -/
theorem renewed_transact (executor : Executor Dummy) (tx : String) (transaction : Transaction) :
    Renewed transaction executor.world
      (stateAfter (transact Dummy.machine tx transaction executor)).world := by
  by_cases good : ∃ output after, transact Dummy.machine tx transaction executor = .ok output after ∧
      output.succeeded
  · obtain ⟨output, after, ran, succeeded⟩ := good
    rw [ran]
    exact (fulfilled_transact ran succeeded).renewed
  · refine .grown (grows_transact fun output after ran => ?_)
    rw [Bool.eq_false_iff]
    exact fun succeeded => good ⟨output, after, ran, succeeded⟩

end Fulfilled

end Run

/-! ## What holds of every account -/

/-- A property of addresses and the accounts at them holds throughout a ledger, and deployments are
expected at addresses of contracts. -/
structure World.Each (holds : Bytes → Account → Prop) (world : World) : Prop where
  accounts : ∀ address account, world.account? address = some account → holds address account
  mocks : ∀ mock ∈ world.mocks, Address.isContract mock.address

namespace World.Each

variable {holds : Bytes → Account → Prop} {world after : World}

theorem of_empty (none : ∀ address, world.account? address = none) (mocks : world.mocks = []) :
    world.Each holds where
  accounts address account found := by
    rw [none address] at found
    cases found
  mocks := by
    rw [mocks]
    exact nofun

theorem of_accounts (each : world.Each holds) (accounts : after.accounts = world.accounts)
    (mocks : after.mocks = world.mocks) : after.Each holds where
  accounts address account found := by
    refine each.accounts address account ?_
    rw [← found]
    exact congrArg (·.get? address) accounts.symm
  mocks := by
    rw [mocks]
    exact each.mocks

theorem setAccount (each : world.Each holds) {address : Bytes} {account : Account}
    (fits : holds address account) : (world.setAccount address account).Each holds where
  accounts other found written := by
    rw [account?_setAccount] at written
    split at written
    · rename_i here
      cases written
      rw [here]
      exact fits
    · exact each.accounts other found written
  mocks := each.mocks

theorem deploys (each : world.Each holds) {address : Bytes} (deploys : world.Deploys address) :
    Address.isContract address := by
  rcases deploys with form | ⟨mock, listed, same⟩
  · exact form
  · rw [← same]
    exact each.mocks mock listed

end World.Each

theorem Account.ok_validate {account : Account} (valid : account.validate = .ok ()) :
    account.address.length = Address.length ∧
      (account.code ≠ [] → Address.isContract account.address ∧ account.owner ≠ []) := by
  unfold validate at valid
  by_cases addressed : account.address.length = Address.length
  · refine ⟨addressed, fun coded => ?_⟩
    have some : account.code.isEmpty = false := List.isEmpty_eq_false_iff.2 coded
    by_cases form : Address.isContract account.address
    · refine ⟨form, fun none => ?_⟩
      simp [addressed, form, some, none] at valid
    · simp [addressed, form, some] at valid
  · simp [addressed] at valid

/-- What holds of every account that a step sets or updates holds throughout the ledger that it leaves. -/
theorem SetState.each {holds : Bytes → Account → Prop} (step : SetState)
    (sets : ∀ setting written, AccountSetting.toAccount setting = .ok written →
      written.validate = .ok () → holds written.address written)
    (merges : ∀ setting written old, AccountSetting.toAccount setting = .ok written →
      holds setting.address.value old → (setting.merge old written).validate = .ok () →
        holds (setting.merge old written).address (setting.merge old written)) :
    Maintains (World.Each holds) step.apply := by
  refine step.maintains_apply (fun setting _ => setting.maintains_apply ?_ ?_) ?_ ?_
  · exact fun world written each converts valid => each.setAccount (sets setting written converts valid)
  · intro world written old each converts found valid
    have before := each.accounts _ _ found
    exact each.setAccount (merges setting written old converts before valid)
  · exact fun world other accounts _ mocks each => each.of_accounts accounts mocks
  · intro world added contracts each
    refine ⟨each.accounts, fun mock listed => ?_⟩
    rcases List.mem_append.1 listed with before | new
    · exact each.mocks mock before
    · exact contracts mock new

namespace Run

/-- A property of addresses and accounts that holds of blank accounts and that remaining accounts keep. -/
structure Persistent (holds : Bytes → Account → Prop) : Prop where
  remains : ∀ {address : Bytes} {old new : Account}, holds address old → old.Remains new →
    holds address new
  blank : ∀ {address : Bytes}, address.length = Address.length → holds address (.blank address)

/-- A property of addresses and accounts that a transaction cannot break. -/
structure Lasting (transaction : Transaction) (holds : Bytes → Account → Prop) : Prop
    extends Persistent holds where
  received : transaction.kind = .transfer → transaction.payments = [] →
    holds transaction.receiver.value (.blank transaction.receiver.value)
  installed : transaction.kind.hasArguments → ∀ {address : Bytes} {old new : Account},
    Address.isContract address ∨ old.code ≠ [] → holds address old →
      old.Installed (calling transaction).sender.value new → holds address new

section Lasting

variable {transaction : Transaction} {holds : Bytes → Account → Prop} {world after : World}

theorem holds_accountOrBlank (each : world.Each holds) {address : Bytes}
    (blank : holds address (.blank address)) : holds address (world.accountOrBlank address) := by
  cases found : world.account? address with
  | some account =>
    rw [accountOrBlank_of_account? found]
    exact each.accounts address account found
  | none =>
    rw [accountOrBlank_of_missing found]
    exact blank

theorem Persistent.grows (persistent : Persistent holds) (each : world.Each holds)
    (grows : world.Grows after) : after.Each holds where
  accounts address account found := by
    obtain ⟨old, remains, before | ⟨addressed, rfl⟩⟩ := grows.reads found
    · exact persistent.remains (each.accounts address old before) remains
    · exact persistent.remains (persistent.blank addressed) remains
  mocks := by
    rw [grows.mocks]
    exact each.mocks

theorem Lasting.written (lasting : Lasting transaction holds) (each : world.Each holds)
    {address : Bytes} {account : Account} (written : SoleWrite transaction world address account) :
    (world.setAccount address account).Each holds := by
  apply each.setAccount
  cases written with
  | received kind bare remains =>
    exact lasting.remains (holds_accountOrBlank each (lasting.received kind bare)) remains
  | deployed kind deploys changed =>
    have form := each.deploys deploys
    have old := holds_accountOrBlank each (lasting.blank (Address.length_of_isContract form))
    rcases changed with remains | installed
    · exact lasting.remains old remains
    · exact lasting.installed kind (.inl form) old installed
  | upgraded kind found coded installed =>
    exact lasting.installed kind (.inr coded) (each.accounts _ _ found) installed

/-- What a transaction cannot break for one account holds throughout the ledger that it leaves. -/
theorem Lasting.transact (executor : Executor Dummy) (tx : String)
    (lasting : Lasting transaction holds) (each : executor.world.Each holds) :
    (stateAfter (transact Dummy.machine tx transaction executor)).world.Each holds := by
  cases renewed_transact executor tx transaction with
  | grown grows => exact lasting.toPersistent.grows each grows
  | written before written behind =>
    exact lasting.toPersistent.grows (lasting.written (lasting.toPersistent.grows each before) written) behind

end Lasting

end Run
end ChainScenario
