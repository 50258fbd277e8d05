import ChainScenario.Proofs.Creation

/-!
# Roles behind supplies

A supply changes only if the caller has a role for it. The role is looked up under the identifier that
a call names first, the supply under its slot, which instances of other tokens may share. Main
statements: `Effect.supplyChanged`, the functions that change a supply, and `run_supply_roles`, the
roles that they need.
-/
namespace ChainScenario.Builtin

open World Token

/-! ## Roles -/

/-- The caller has a role by which there may come to be more of an instance. -/
def MayRaise (world : World) (caller token : Bytes) (nonce : UInt64) : Prop :=
  if nonce = 0 then HasRole world caller token .localMint
  else HasRole world caller token .create ∨ HasRole world caller token .addQuantity

/-- The caller has a role by which there may come to be less of an instance. -/
def MayLower (world : World) (caller token : Bytes) (nonce : UInt64) : Prop :=
  if nonce = 0 then HasRole world caller token .localBurn
  else HasRole world caller token .burn

/-! ## Calls that change a supply -/

/-- The functions that change the supply of a slot, with the identifier that the call names first and
the role of the caller for it. -/
inductive SupplyChanged (call : Call) (world after : World) (slot : Bytes) : Function → Prop
  | minted {token : Bytes} (named : call.input.arguments.head? = some token)
      (here : holdingKey token 0 = slot)
      (role : HasRole world call.input.caller token .localMint)
      (more : world.supply slot < after.supply slot) :
      SupplyChanged call world after slot .localMint
  | burnedFungible {token : Bytes} (named : call.input.arguments.head? = some token)
      (here : holdingKey token 0 = slot)
      (role : HasRole world call.input.caller token .localBurn)
      (less : after.supply slot < world.supply slot) :
      SupplyChanged call world after slot .localBurn
  | created {token : Bytes} {nonce : UInt64} (named : call.input.arguments.head? = some token)
      (here : holdingKey token nonce = slot) (numbered : nonce ≠ 0)
      (role : HasRole world call.input.caller token .create) :
      SupplyChanged call world after slot .create
  | added {token number : Bytes} (named : call.input.arguments.head? = some token)
      (second : call.input.arguments.getD 1 [] = number)
      (here : holdingKey token (nonceOfBytes number) = slot)
      (role : HasRole world call.input.caller token .addQuantity)
      (more : world.supply slot < after.supply slot) :
      SupplyChanged call world after slot .addQuantity
  | burned {token number : Bytes} (named : call.input.arguments.head? = some token)
      (second : call.input.arguments.getD 1 [] = number)
      (here : holdingKey token (nonceOfBytes number) = slot)
      (role : HasRole world call.input.caller token .burn)
      (less : after.supply slot < world.supply slot) :
      SupplyChanged call world after slot .burn

section Changes

variable {call : Call} {world after : World} {slot : Bytes} {function : Function}

/-- The number after one that is not the last is not zero. -/
private theorem next_ne_zero {last : UInt64} (room : last.toNat + 1 < UInt64.size) : last + 1 ≠ 0 := by
  intro wrapped
  have raised := congrArg UInt64.toNat wrapped
  rw [UInt64.toNat_add] at raised
  change (last.toNat + 1) % UInt64.size = 0 at raised
  rw [Nat.mod_eq_of_lt room] at raised
  omega

private theorem grown_of_added {before later amount : Nat} {here : Prop} [Decidable here]
    (law : (later : Int) = before + if here then (amount : Int) else 0)
    (changed : later ≠ before) : here ∧ before < later := by
  split at law
  · exact ⟨‹_›, by omega⟩
  · omega

private theorem shrunk_of_taken {before later amount : Nat} {here : Prop} [Decidable here]
    (law : (later : Int) = before + if here then -(amount : Int) else 0)
    (changed : later ≠ before) : here ∧ later < before := by
  split at law
  · exact ⟨‹_›, by omega⟩
  · omega

/-- A successful call that changed a supply is one of five, and its caller has the role for it. -/
theorem Effect.supplyChanged (effect : Effect call world function after)
    (inMemory : InMemory call world) (marked : holdingMark <+: slot)
    (changed : after.supply slot ≠ world.supply slot) :
    SupplyChanged call world after slot function := by
  by_cases creates : function = .create
  -- The creation may overwrite, so its own law is used: nothing changes elsewhere.
  · subst creates
    cases effect with
    | @create token _ _ _ _ _ _ _ _ nonce _ arguments role _ _ found room next =>
      subst found next
      refine .created (by rw [arguments]; rfl) ?_ (next_ne_zero room) role
      exact (Classical.not_not.1 fun other => changed (supply_created_elsewhere marked other)).symm
  · have law := effect.supply_eq inMemory creates marked
    cases effect with
    | localMint _ arguments role _ _ _ =>
      rw [arguments] at law
      obtain ⟨here, more⟩ := grown_of_added law changed
      exact .minted (by rw [arguments]; rfl) here.symm role more
    | localBurn _ arguments role _ _ =>
      rw [arguments] at law
      obtain ⟨here, less⟩ := shrunk_of_taken law changed
      exact .burnedFungible (by rw [arguments]; rfl) here.symm role less
    | addQuantity own _ =>
      rw [own.arguments] at law
      obtain ⟨here, more⟩ := grown_of_added law changed
      exact .added (by rw [own.arguments]; rfl) (by rw [own.arguments]; rfl) here.symm own.role more
    | burn _ arguments role _ _ =>
      rw [arguments] at law
      obtain ⟨here, less⟩ := shrunk_of_taken law changed
      exact .burned (by rw [arguments]; rfl) (by rw [arguments]; rfl) here.symm role less
    | create => contradiction
    -- the others change no supply
    | _ => exact absurd (Int.ofNat.inj (law.trans (Int.add_zero _))) changed

/-- A call is about an instance: it names an identifier first that has the slot of the instance under
some number. If both identifiers have the usual form, it names that of the instance. -/
structure IsAbout (call : Call) (token : Bytes) (nonce : UInt64) (other : Bytes) (number : UInt64) :
    Prop where
  named : call.input.arguments.head? = some other
  shared : holdingKey other number = holdingKey token nonce
  same : IsIdentifier token → IsIdentifier other → other = token ∧ number = nonce

theorem isAbout_of_shared {token other : Bytes} {nonce number : UInt64}
    (named : call.input.arguments.head? = some other)
    (shared : holdingKey other number = holdingKey token nonce) :
    IsAbout call token nonce other number :=
  ⟨named, shared, fun usual too => holdingKey_inj too usual shared⟩

/-- A successful call raises or lowers the supply of an instance only if it names an identifier first
that has the slot of the instance, and its caller has the role for it. Two functions for numbered
instances are left out where they are given the number zero, and so is a creation that lowers a
supply. -/
theorem run_supply_roles {output : CallOutput} (inMemory : InMemory call world)
    (called : Function.ofName? call.function = some function)
    (numbered : function = .addQuantity ∨ function = .burn →
      nonceOfBytes (call.input.arguments.getD 1 []) ≠ 0)
    (ran : run call world = .ok output after) (succeeded : output.succeeded) (token : Bytes)
    (nonce : UInt64) :
    (world.supply (holdingKey token nonce) < after.supply (holdingKey token nonce) →
      ∃ other number, IsAbout call token nonce other number ∧
        MayRaise world call.input.caller other number) ∧
    (after.supply (holdingKey token nonce) < world.supply (holdingKey token nonce) →
      function ≠ .create → ∃ other number, IsAbout call token nonce other number ∧
        MayLower world call.input.caller other number) := by
  obtain ⟨_, found, effect, -⟩ := effect_of_run ran succeeded
  obtain rfl := Option.some.inj (found.symm.trans called)
  have marked := marked_holdingKey token nonce
  constructor
  · intro grown
    cases effect.supplyChanged inMemory marked (Nat.ne_of_gt grown) with
    | minted named here role _ => exact ⟨_, 0, isAbout_of_shared named here, role⟩
    | burnedFungible _ _ _ less => omega
    | @created _ fresh named here positive role =>
      refine ⟨_, fresh, isAbout_of_shared named here, ?_⟩
      rw [MayRaise, if_neg positive]
      exact .inl role
    | added named second here role _ =>
      have positive := numbered (.inl rfl)
      rw [second] at positive
      refine ⟨_, _, isAbout_of_shared named here, ?_⟩
      rw [MayRaise, if_neg positive]
      exact .inr role
    | burned _ _ _ _ less => omega
  · intro shrunk kept
    cases effect.supplyChanged inMemory marked (Nat.ne_of_lt shrunk) with
    | minted _ _ _ more => omega
    | burnedFungible named here role _ => exact ⟨_, 0, isAbout_of_shared named here, role⟩
    | created => contradiction
    | added _ _ _ _ more => omega
    | burned named second here role _ =>
      have positive := numbered (.inr rfl)
      rw [second] at positive
      refine ⟨_, _, isAbout_of_shared named here, ?_⟩
      rw [MayLower, if_neg positive]
      exact role

end Changes

/-- The call by which three of a token become eight. -/
theorem run_mintCall : ∃ output after, run mintCall (.alone minter) = .ok output after ∧
    output.succeeded ∧ (World.alone minter).supply (holdingKey (Utf8.ofString "TOKEN-123456") 0) <
      after.supply (holdingKey (Utf8.ofString "TOKEN-123456") 0) := by
  have ended : endedWith (fun output after => decide (output.succeeded ∧
      (World.alone minter).supply (holdingKey (Utf8.ofString "TOKEN-123456") 0) <
        after.supply (holdingKey (Utf8.ofString "TOKEN-123456") 0)))
      (run mintCall (.alone minter)) = true := by decide +kernel
  obtain ⟨output, after, ran, facts⟩ := ok_of_endedWith ended
  exact ⟨output, after, ran, of_decide_eq_true facts⟩

theorem inMemory_mintCall : InMemory mintCall (.alone minter) :=
  ⟨by decide +kernel, by decide +kernel, by decide +kernel, by decide +kernel⟩

/-- There are more of the token afterwards, so its maker has a role for what it named. -/
theorem run_supply_roles_mint : ∃ other number,
    IsAbout mintCall (Utf8.ofString "TOKEN-123456") 0 other number ∧
      MayRaise (.alone minter) mintCall.input.caller other number := by
  obtain ⟨output, after, ran, succeeded, grown⟩ := run_mintCall
  have called : Function.ofName? mintCall.function = some .localMint := by decide +kernel
  exact (run_supply_roles inMemory_mintCall called (by decide) ran succeeded
    (Utf8.ofString "TOKEN-123456") 0).1 grown

/-- The slot of a token is also that of the identifier without its last byte, under that byte as a
number, for which nobody has a role. -/
theorem supply_not_by_role :
    ¬∀ (call : Call) (world after : World) (output : CallOutput), InMemory call world →
      run call world = .ok output after → output.succeeded → ∀ token nonce,
        (world.supply (holdingKey token nonce) < after.supply (holdingKey token nonce) →
          MayRaise world call.input.caller token nonce) ∧
        (after.supply (holdingKey token nonce) < world.supply (holdingKey token nonce) →
          MayLower world call.input.caller token nonce) := by
  intro byRole
  obtain ⟨output, after, ran, succeeded, grown⟩ := run_mintCall
  have shared : holdingKey (Utf8.ofString "TOKEN-123456") 0 =
      holdingKey (Utf8.ofString "TOKEN-12345") 0x36 := by decide +kernel
  rw [shared] at grown
  have claimed := (byRole _ _ _ _ inMemory_mintCall ran succeeded _ _).1 grown
  have roleless : ∀ role, (role = Role.create ∨ role = Role.addQuantity) →
      ¬HasRole (.alone minter) minter.address (Utf8.ofString "TOKEN-12345") role := by
    rintro role either ⟨account, found, has⟩
    have there : (World.alone minter).account? minter.address = some minter := by rfl
    obtain rfl := Option.some.inj (there.symm.trans found)
    rcases either with rfl | rfl <;> revert has <;> decide +kernel
  rw [MayRaise, if_neg (by decide)] at claimed
  rcases claimed with creates | adds
  · exact roleless _ (.inl rfl) creates
  · exact roleless _ (.inr rfl) adds

end ChainScenario.Builtin
