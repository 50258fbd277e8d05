import ChainScenario.Proofs.Supply

/-!
# Accounts that did not call

Built-in functions write to accounts that a call names, yet they take nothing from anybody but the
caller. Main statement: `run_spares`.
-/
namespace ChainScenario

open Token

/-! ## One account before and after -/

/-- An account stands in a relation to what it was before, and is there if it was. -/
structure World.Stands (relation : Account → Account → Prop) (address : Bytes)
    (world after : World) : Prop where
  known : (world.account? address).isSome → (after.account? address).isSome
  related : relation (world.accountOrBlank address) (after.accountOrBlank address)

namespace World.Stands

variable {relation : Account → Account → Prop} {address : Bytes} {world middle after : World}

theorem refl (reflexive : ∀ account, relation account account) : Stands relation address world world :=
  ⟨id, reflexive _⟩

theorem trans (transitive : ∀ {first second third}, relation first second → relation second third →
      relation first third)
    (before : Stands relation address world middle) (behind : Stands relation address middle after) :
    Stands relation address world after :=
  ⟨behind.known ∘ before.known, transitive before.related behind.related⟩

theorem mono {weaker : Account → Account → Prop} (stands : Stands relation address world after)
    (weakens : ∀ {before after}, relation before after → weaker before after) :
    Stands weaker address world after :=
  ⟨stands.known, weakens stands.related⟩

/-- Only the accounts count. -/
theorem of_accounts (stands : Stands relation address world middle)
    (accounts : after.accounts = middle.accounts) : Stands relation address world after := by
  have same : after.account? address = middle.account? address :=
    congrArg (·.get? address) accounts
  have blank : after.accountOrBlank address = middle.accountOrBlank address :=
    congrArg (·.getD address (.blank address)) accounts
  constructor
  · rw [same]
    exact stands.known
  · rw [blank]
    exact stands.related

/-- A write to another account does not count. -/
theorem elsewhere (stands : Stands relation address world middle) {written : Bytes}
    (apart : address ≠ written) (account : Account) :
    Stands relation address world (middle.setAccount written account) := by
  constructor
  · intro known
    rw [account?_setAccount, if_neg apart]
    exact stands.known known
  · rw [accountOrBlank_setAccount, if_neg apart]
    exact stands.related

theorem write (reflexive : ∀ account, relation account account) {written : Bytes} {account : Account}
    (here : address = written → relation (world.accountOrBlank written) account) :
    Stands relation address world (world.setAccount written account) := by
  by_cases same : address = written
  · subst same
    constructor
    · intro _
      rw [account?_setAccount, if_pos rfl]
      rfl
    · rw [accountOrBlank_setAccount_self]
      exact here rfl
  · exact (refl reflexive).elsewhere same account

end World.Stands

/-! ## Gifts -/

/-- An account was at most given currency and tokens. -/
structure Account.Credited (before after : Account) : Prop where
  balance : before.balance ≤ after.balance
  amounts : ∀ slot, holdingMark <+: slot → before.amountIn slot ≤ after.amountIn slot
  storage : ∀ key, ¬holdingMark <+: key → after.storage.get? key = before.storage.get? key
  rest : { after.bare with balance := before.balance } = before.bare

namespace Account.Credited

theorem refl (account : Account) : Credited account account :=
  ⟨Nat.le_refl _, fun _ _ => Nat.le_refl _, fun _ _ => rfl, rfl⟩

theorem trans {first second third : Account} (before : Credited first second)
    (behind : Credited second third) : Credited first third := by
  constructor
  · exact Nat.le_trans before.balance behind.balance
  · intro slot marked
    exact Nat.le_trans (before.amounts slot marked) (behind.amounts slot marked)
  · intro key unmarked
    rw [behind.storage key unmarked, before.storage key unmarked]
  · have rest := congrArg (fun bare => { bare with balance := first.balance }) behind.rest
    exact Eq.trans rest before.rest

/-- A holding that is set to no less than before is a gift. -/
theorem setHolding {account : Account} {token : Bytes} {nonce : UInt64} {held : Option Holding}
    {holding : Holding} (holds : account.holding? token nonce = .ok held) (fits : holding.Fits)
    (more : held.elim 0 (·.value) ≤ holding.value) :
    Credited account (account.setHolding token nonce holding) := by
  constructor
  · exact Nat.le_refl _
  · intro slot _
    rw [amountIn_setHolding account token nonce fits]
    split
    · rename_i here
      rw [here, amountIn_of_holding? holds]
      exact more
    · exact Nat.le_refl _
  · intro key unmarked
    have other : key ≠ holdingKey token nonce := by
      rintro rfl
      exact unmarked (marked_holdingKey token nonce)
    change (account.storage.insert _ _).get? key = _
    rw [OrdMap.get?_insert, if_neg other]
  · rfl

end Account.Credited

namespace Builtin

open World Account

section Movements

variable {source destination token other : Bytes} {nonce : UInt64} {value : Nat}
  {world after : World}

/-- Of the two accounts in a movement of tokens, only the source can lose. -/
theorem TokensMoved.credits (moved : TokensMoved source destination token nonce value world after)
    (small : (Bytes.ofNat (world.supply (holdingKey token nonce))).length < UInt64.size)
    (apart : other ≠ source) : Stands Credited other world after := by
  obtain ⟨-, found, holds, enough, -, taken, reads⟩ := moved
  rename_i middle _
  have fits := fits_moved found holds enough (taken ▸ reads) small
  have first : Stands Credited other world middle := by
    rw [taken]
    exact (Stands.refl Credited.refl).elsewhere apart _
  refine Stands.trans Credited.trans first (Stands.write Credited.refl ?_)
  -- the receiver is looked up after the source was written, so what it held is what was read
  intro _
  apply Credited.setHolding reads fits
  rw [value_received]
  exact Nat.le_add_right _ _

theorem CurrencyMoved.credits (moved : CurrencyMoved source destination value world after)
    (apart : other ≠ source) : Stands Credited other world after := by
  obtain ⟨-, -, -, taken⟩ := moved
  rename_i middle
  have first : Stands Credited other world middle := by
    rw [taken]
    exact (Stands.refl Credited.refl).elsewhere apart _
  refine Stands.trans Credited.trans first (Stands.write Credited.refl ?_)
  intro _
  exact ⟨Nat.le_add_right _ _, fun _ _ => Nat.le_refl _, fun _ _ => rfl, rfl⟩

theorem AnyMoved.credits (moved : AnyMoved source destination token nonce value world after)
    (small : ∀ slot, (Bytes.ofNat (world.supply slot)).length < UInt64.size)
    (apart : other ≠ source) : Stands Credited other world after := by
  cases moved with
  | currency _ moved => exact moved.credits apart
  | tokens _ moved => exact moved.credits (small _) apart

/-- Movements one after another give to everybody but their source. -/
theorem AllMoved.credits {listed : List (Bytes × Bytes × Bytes)}
    (moved : AllMoved source destination listed world after)
    (small : ∀ slot, (Bytes.ofNat (world.supply slot)).length < UInt64.size)
    (apart : other ≠ source) : Stands Credited other world after := by
  induction moved with
  | none => exact Stands.refl Credited.refl
  | more _ first _ ih =>
    have kept := first.supply_eq small
    have others := ih fun slot => by rw [kept slot]; exact small slot
    exact Stands.trans Credited.trans (first.credits small apart) others

end Movements

/-! ## What a call leaves to others -/

/-- The caller rules over an account: it is the recipient, and a contract of the caller. -/
def Rules (call : Call) (address : Bytes) (account : Account) : Prop :=
  address = call.recipient ∧ Address.isContract address ∧ account.owner = call.input.caller

/-- What belongs to an account was left to it by a call. -/
structure Spared (call : Call) (address : Bytes) (before after : Account) : Prop where
  balance : before.balance ≤ after.balance
  amounts : ∀ slot, holdingMark <+: slot → before.amountIn slot ≤ after.amountIn slot
  nonce : after.nonce = before.nonce
  code : after.code = before.code
  codeMetadata : after.codeMetadata = before.codeMetadata
  storage : ∀ key, ¬holdingMark <+: key → ¬rolesMark <+: key →
    after.storage.get? key = before.storage.get? key
  roles : ∀ key, rolesMark <+: key → after.storage.get? key ≠ before.storage.get? key →
    call.input.caller = Address.tokenSystem
  owner : after.owner ≠ before.owner → Rules call address before
  developerReward : after.developerReward ≠ before.developerReward → Rules call address before
  username : after.username ≠ before.username → before.username = [] ∧ address = call.recipient

section Spared

variable {call : Call} {address : Bytes} {before after : Account}

theorem Spared.of_credited (credited : Credited before after) : Spared call address before after where
  balance := credited.balance
  amounts := credited.amounts
  nonce := (congrArg Account.nonce credited.rest :)
  code := (congrArg Account.code credited.rest :)
  codeMetadata := (congrArg Account.codeMetadata credited.rest :)
  storage := fun key unmarked _ => credited.storage key unmarked
  roles := fun key marked changed => by
    -- no key has both marks
    obtain ⟨token, rfl⟩ := marked
    exact absurd (credited.storage _ (unheld_rolesKey token)) changed
  owner := fun changed => absurd (congrArg Account.owner credited.rest) changed
  developerReward := fun changed => absurd (congrArg Account.developerReward credited.rest) changed
  username := fun changed => absurd (congrArg Account.username credited.rest) changed

theorem Spared.refl (account : Account) : Spared call address account account :=
  .of_credited (Credited.refl account)

/-- Only the token system can change roles, and nothing else changes with them. -/
theorem Spared.setRoles (system : call.input.caller = Address.tokenSystem) (account : Account)
    (token : Bytes) (roles : List Bytes) :
    Spared call address account (account.setRoles token roles) := by
  have bare := Account.bare_setRoles account token roles
  constructor
  case balance => exact Nat.le_of_eq (congrArg Account.balance bare).symm
  case amounts =>
    intro slot marked
    have same := Account.stored_setRoles account token roles (slot_ne_rolesKey marked token)
    exact Nat.le_of_eq (Account.amountIn_of_stored same).symm
  case storage =>
    intro key _ unmarked
    have other : key ≠ rolesKey token := by
      rintro rfl
      exact unmarked (List.prefix_append _ _)
    exact Account.get?_setRoles account token roles other
  case roles => exact fun _ _ _ => system
  case nonce => exact (congrArg Account.nonce bare :)
  case code => exact (congrArg Account.code bare :)
  case codeMetadata => exact (congrArg Account.codeMetadata bare :)
  case owner => exact fun changed => absurd (congrArg Account.owner bare) changed
  case developerReward => exact fun changed => absurd (congrArg Account.developerReward bare) changed
  case username => exact fun changed => absurd (congrArg Account.username bare) changed

/-- The owner and the rewards of a contract are up to the caller that owns it. -/
theorem Spared.ruled (rules : Rules call address before) (owner : Bytes) (reward : Nat) :
    Spared call address before { before with owner := owner, developerReward := reward } :=
  { Spared.refl before with
    owner := fun _ => rules
    developerReward := fun _ => rules }

theorem Spared.named (free : before.username = []) (username : Bytes)
    (here : address = call.recipient) :
    Spared call address before { before with username := username } :=
  { Spared.refl before with username := fun _ => ⟨free, here⟩ }

end Spared

section Calls

variable {call : Call} {world after : World} {output : CallOutput} {other : Bytes}

theorem RolesChanged.spares {change : List Bytes → Bytes → List Bytes}
    (changed : RolesChanged change call world after) :
    Stands (Spared call other) other world after := by
  obtain ⟨system, -, -⟩ := changed
  apply Stands.write Spared.refl
  intro _
  exact .setRoles system _ _ _

/-- The caller rules over the contract that it was found to own. -/
private theorem rules_of_own {contract : Account} (own : OwnContract call world contract) :
    Rules call call.recipient (world.accountOrBlank call.recipient) := by
  rw [accountOrBlank_of_account? own.found]
  exact ⟨rfl, own.form, own.owner⟩

/-- No success of a built-in function takes from anybody but the caller. -/
theorem Effect.spares {function : Function} (effect : Effect call world function after)
    (inMemory : InMemory call world) (apart : other ≠ call.input.caller) :
    Stands (Spared call other) other world after := by
  have spared : Stands (Spared call other) other world world := .refl Spared.refl
  cases effect with
  -- what is sent comes from the caller
  | tokenTransfer _ _ moved =>
    exact (moved.credits (inMemory.supply_small _) apart).mono .of_credited
  | instanceTransfer _ _ _ _ moved =>
    exact (moved.credits (inMemory.supply_small _) apart).mono .of_credited
  | multiTransfer _ _ _ moved =>
    exact (moved.credits inMemory.supply_small apart).mono .of_credited
  -- these write only to the caller
  | localMint => exact spared.elsewhere apart _
  | localBurn _ _ _ _ burned =>
    obtain ⟨-, -, -⟩ := burned
    exact spared.elsewhere apart _
  | create => exact spared.elsewhere apart _
  | addQuantity => exact spared.elsewhere apart _
  | burn _ _ _ _ burned =>
    obtain ⟨-, -, -⟩ := burned
    exact spared.elsewhere apart _
  | addUris => exact spared.elsewhere apart _
  | updateAttributes => exact spared.elsewhere apart _
  | saveKeyValue self =>
    rw [← self] at apart
    exact spared.elsewhere apart _
  -- and these to the recipient, each with a condition of its own
  | setRoles changed => exact changed.spares
  | unsetRoles changed => exact changed.spares
  | changeOwner _ _ own =>
    apply Stands.write Spared.refl
    rintro rfl
    have rules := rules_of_own own
    rw [accountOrBlank_of_account? own.found] at rules ⊢
    exact .ruled rules _ _
  | claimRewards _ own taken =>
    rw [taken]
    apply Stands.elsewhere _ apart
    apply Stands.write Spared.refl
    rintro rfl
    have rules := rules_of_own own
    rw [accountOrBlank_of_account? own.found] at rules ⊢
    exact .ruled rules _ _
  | setUsername _ _ found free =>
    apply Stands.write Spared.refl
    rintro rfl
    rw [found]
    exact .named free _ rfl

/-- A call of a built-in function that gives an output takes nothing from an account other than the
caller: neither currency, tokens, nonce, code nor storage, and roles, owner, rewards and user name only
change by leave. -/
theorem run_spares (inMemory : InMemory call world) (ran : run call world = .ok output after)
    (apart : other ≠ call.input.caller) : Stands (Spared call other) other world after := by
  cases ran_of_ok ran with
  | outOfGas => exact .refl Spared.refl
  | @refused function _ _ _ refuses =>
    by_cases multi : function = .multiTransfer
    · subst multi
      obtain ⟨_, _, moved⟩ := refused_multiTransfer refuses
      exact (moved.credits inMemory.supply_small apart).mono .of_credited
    · rw [refusesCleanly_action multi call world _ after refuses]
      exact .refl Spared.refl
  | ok _ effect _ => exact effect.spares inMemory apart

end Calls

/-- An account that holds eight of the token of `minter`. -/
def payee : Account :=
  { Account.blank (List.replicate Address.length 2) with
    storage := .ofList [(holdingKey (Utf8.ofString "TOKEN-123456") 0, [0, 1, 8, 0, 0])] }

/-- The call by which `minter` sends it two more. -/
def payment : Call where
  input := ⟨minter.address, [Utf8.ofString "TOKEN-123456", [2]], 0, 0, 0, [], [], []⟩
  recipient := payee.address
  function := "ESDTTransfer"

/-- The receiver has no less than before. -/
theorem run_spares_payee :
    match run payment ((World.alone minter).putAccount payee) with
    | .ok output after => output.succeeded ∧
      8 ≤ (after.accountOrBlank payee.address).amountIn (holdingKey (Utf8.ofString "TOKEN-123456") 0)
    | .error _ _ => False := by
  have inMemory : InMemory payment ((World.alone minter).putAccount payee) :=
    ⟨by decide +kernel, by decide +kernel, by decide +kernel, by decide +kernel⟩
  have before : (((World.alone minter).putAccount payee).accountOrBlank payee.address).amountIn
      (holdingKey (Utf8.ofString "TOKEN-123456") 0) = 8 := by decide +kernel
  have ends : (match run payment ((World.alone minter).putAccount payee) with
      | .ok output _ => output.succeeded
      | .error _ _ => false) = true := by decide +kernel
  cases ran : run payment ((World.alone minter).putAccount payee) with
  | error fault after => simp [ran] at ends
  | ok output after =>
    simp only [ran] at ends
    have spared := run_spares inMemory ran (by decide : payee.address ≠ payment.input.caller)
    have amounts := spared.related.amounts _ (marked_holdingKey (Utf8.ofString "TOKEN-123456") 0)
    rw [before] at amounts
    exact ⟨ends, amounts⟩

end Builtin
end ChainScenario
