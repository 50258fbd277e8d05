import ChainScenario.Proofs.Creation
import ChainScenario.Proofs.Entries
import ChainScenario.Proofs.WrittenKeys
import Mathlib.Data.List.Nodup

/-!
# Numbers of created instances

An account numbers the instances of a token that it creates, and remembers the last number in its
storage, next to what it holds and to what it stores for itself. Nothing but a creation writes to that
entry, so that no number is given twice.

Main statements:
- `lastNumber_run_idle`, `lastNumber_run_created`: what one call does to the last number.
- `created_numbers`: over any calls the numbers that an account gives are consecutive, and after the
  greatest number of 64 bits there is none.
-/
namespace ChainScenario

open Token

/-! ## The last number -/

/-- The last number that an account gave to an instance of a token. -/
def World.lastNumber (world : World) (creator token : Bytes) : UInt64 :=
  (world.accountOrBlank creator).lastNonce token

theorem World.lastNumber_of_stored {world after : World} {creator token : Bytes}
    (same : after.stored creator (lastNonceKey token) = world.stored creator (lastNonceKey token)) :
    after.lastNumber creator token = world.lastNumber creator token :=
  congrArg nonceOfBytes same

theorem Account.lastNonce_setLastNonce (account : Account) (token : Bytes) (nonce : UInt64) :
    (account.setLastNonce token nonce).lastNonce token = nonce := by
  rw [lastNonce, setLastNonce, stored_save, if_pos rfl, nonceOfBytes_nonceBytes]

namespace Builtin

open World

/-! ## One call -/

/-- An account would create an instance of a token by a call. -/
def Creates (creator token : Bytes) (call : Call) : Prop :=
  Function.ofName? call.function = some .create ∧ call.input.caller = creator ∧
    call.input.arguments.head? = some token

instance (creator token : Bytes) (call : Call) : Decidable (Creates creator token call) :=
  inferInstanceAs (Decidable (_ ∧ _ ∧ _))

/-- What a call returns if an account created an instance of a token by it. -/
def created? (creator token : Bytes) (call : Call) (world : World) : Option (List Bytes) :=
  if Creates creator token call then
    match run call world with
    | .ok output _ => if output.succeeded then some output.returnData else none
    | .error _ _ => none
  else none

section Calls

variable {creator token : Bytes} {call : Call} {world after : World} {data : List Bytes}

theorem created?_eq_some : created? creator token call world = some data ↔
    Creates creator token call ∧ ∃ output after, run call world = .ok output after ∧
      output.succeeded ∧ output.returnData = data := by
  rw [created?, Option.ite_none_right_eq_some]
  refine and_congr_right fun _ => ?_
  cases run call world with
  | ok output after => simp
  | error fault after => simp

theorem succeeds_of_created? (creates : Creates creator token call) :
    succeeds call world = (created? creator token call world).isSome := by
  rw [succeeds, created?, if_pos creates]
  cases run call world with
  | ok output after => cases succeeded : output.succeeded <;> simp [endedWith, succeeded]
  | error fault after => rfl

/-- No function but the creation writes where a last number is stored. -/
theorem unwritten_lastNonceKey {function : Function} (other : function ≠ .create) (token : Bytes) :
    ¬function.Writes (lastNonceKey token) := by
  have marked : nonceMark <+: lastNonceKey token := List.prefix_append _ _
  intro writes
  rcases Function.writes_cases writes (protected_of_marked (by decide) marked)
    (unheld_lastNonceKey token) with ⟨creates, -⟩ | ⟨-, roles⟩
  · exact other creates
  · exact not_marked marked (by decide) (by decide) roles

/-- A creation by another account, or of another token, leaves a last number as it is stored. -/
theorem stored_created_elsewhere (effect : Effect call world .create after)
    (elsewhere : ¬(call.input.caller = creator ∧ call.input.arguments.head? = some token)) :
    after.stored creator (lastNonceKey token) = world.stored creator (lastNonceKey token) := by
  cases effect with
  | @create other _ _ _ _ _ _ _ account _ _ arguments _ _ _ found =>
    rw [arguments, List.head?_cons, Option.some.injEq] at elsewhere
    rw [stored_setAccount]
    split <;> rename_i here
    · subst here
      have apart : lastNonceKey token ≠ lastNonceKey other := fun same =>
        elsewhere ⟨rfl, (List.append_cancel_left same).symm⟩
      have unheld := ne_holdingKey (unheld_lastNonceKey token)
      rw [Account.stored_setLastNonce _ _ _ apart, Account.stored_setHolding (unheld _ _), ← found]
      rfl
    · rfl

/-- A call by which an account does not create an instance of a token leaves its last number, however
the call ends. -/
theorem lastNumber_run_idle (silent : created? creator token call world = none) :
    (stateAfter (run call world)).lastNumber creator token = world.lastNumber creator token := by
  by_cases creates : Creates creator token call
  · -- A creation that gave no number did not end well, so that it did nothing.
    have failed : succeeds call world = false := by
      rw [succeeds_of_created? creates, silent, Option.isSome_none]
    rw [stateAfter_run_of_failed creates.1 rfl failed]
  · apply lastNumber_of_stored
    apply stored_run (unheld_lastNonceKey token)
    intro function after named effect
    by_cases other : function = .create
    · subst other
      exact stored_created_elsewhere effect fun here => creates ⟨named, here⟩
    · exact effect.stored_eq (unwritten_lastNonceKey other token) creator

/-- A creation gives the next number, which is then the last one. -/
theorem lastNumber_run_created (created : created? creator token call world = some data) :
    data = [Bytes.ofNat ((world.lastNumber creator token).toNat + 1)] ∧
      ((stateAfter (run call world)).lastNumber creator token).toNat =
        (world.lastNumber creator token).toNat + 1 := by
  obtain ⟨⟨named, rfl, about⟩, output, after, ran, succeeded, rfl⟩ := created?_eq_some.1 created
  obtain ⟨function, result, gasLeft, called, acted, rfl⟩ := acted_of_run ran succeeded
  obtain rfl : function = .create := Option.some.inj (called.symm.trans named)
  have returned := returned_create acted
  rw [ran, stateAfter]
  cases (effect_of_ok acted).1 with
  | @create first _ _ _ _ _ _ _ account nonce _ arguments _ _ _ found room next =>
    rw [arguments, List.head?_cons, Option.some.injEq] at about
    subst about found
    rw [arguments, List.headD_cons] at returned
    have risen : (world.lastNumber call.input.caller first + 1).toNat =
        (world.lastNumber call.input.caller first).toNat + 1 := by
      rw [UInt64.toNat_add]
      exact Nat.mod_eq_of_lt room
    constructor
    · rw [← risen]
      exact returned
    · rw [lastNumber, accountOrBlank_setAccount_self, Account.lastNonce_setLastNonce, next]
      exact risen

end Calls

/-! ## Calls one after another -/

/-- What calls returned by which an account created instances of a token, in order. -/
def creations (creator token : Bytes) : List Call → World → List (List Bytes)
  | [], _ => []
  | call :: rest, world =>
    (created? creator token call world).toList ++
      creations creator token rest (stateAfter (run call world))

/-- The next numbers after one, each as it is returned. -/
def numbersAfter (last count : Nat) : List (List Bytes) :=
  (List.range' (last + 1) count).map fun number => [Bytes.ofNat number]

theorem nodup_numbersAfter (last count : Nat) : (numbersAfter last count).Nodup := by
  refine List.Nodup.map (fun one other same => ?_) List.nodup_range'
  -- A number can be read from its bytes.
  have number := congrArg Bytes.toNat (List.singleton_inj.1 same)
  rwa [Bytes.toNat_ofNat, Bytes.toNat_ofNat] at number

/-- An account that creates instances of a token by some calls, among others, gives them the next numbers
in order. -/
theorem creations_eq (creator token : Bytes) (calls : List Call) (world : World) :
    creations creator token calls world = numbersAfter (world.lastNumber creator token).toNat
        (creations creator token calls world).length ∧
      ((afterCalls calls world).lastNumber creator token).toNat =
        (world.lastNumber creator token).toNat + (creations creator token calls world).length := by
  -- By induction on the calls: the first one leaves the last number, or raises it by what it returns.
  induction calls generalizing world with
  | nil => exact ⟨rfl, rfl⟩
  | cons call rest ih =>
    obtain ⟨numbered, last⟩ := ih (stateAfter (run call world))
    rw [creations, afterCalls, last]
    cases made : created? creator token call world with
    | none =>
      rw [lastNumber_run_idle made] at numbered ⊢
      exact ⟨numbered, rfl⟩
    | some data =>
      obtain ⟨rfl, next⟩ := lastNumber_run_created made
      rw [next] at numbered ⊢
      simp only [Option.toList_some, List.singleton_append, List.length_cons]
      constructor
      · rw [numbersAfter, List.range'_succ, List.map_cons, ← numbersAfter, ← numbered]
      · omega

/-- An account never gives a number twice. Over any calls, however each of them ends, the creations of an
account for a token return consecutive numbers, the first of which is one above its last number at the
beginning, so that no number is returned twice. An account whose last number is the greatest of 64 bits
creates no other instance, and each attempt leaves the ledger as it was. -/
theorem created_numbers (creator token : Bytes) (calls : List Call) (world : World) :
    creations creator token calls world = numbersAfter (world.lastNumber creator token).toNat
        (creations creator token calls world).length ∧
      (creations creator token calls world).Nodup ∧
      ((afterCalls calls world).lastNumber creator token).toNat =
        (world.lastNumber creator token).toNat + (creations creator token calls world).length ∧
      ∀ (call : Call) (start : World), Creates creator token call →
        (start.lastNumber creator token).toNat + 1 = UInt64.size →
          succeeds call start = false ∧ stateAfter (run call start) = start := by
  obtain ⟨numbered, last⟩ := creations_eq creator token calls world
  have distinct : (creations creator token calls world).Nodup := by
    rw [numbered]
    exact nodup_numbersAfter _ _
  refine ⟨numbered, distinct, last, fun call start creates full => ?_⟩
  have failed : succeeds call start = false := by
    rw [succeeds_of_created? creates]
    cases made : created? creator token call start with
    | none => rfl
    | some data =>
      -- The number behind the greatest would have to be one of 64 bits.
      have next := (lastNumber_run_created made).2
      have below := UInt64.toNat_lt ((stateAfter (run call start)).lastNumber creator token)
      rw [next, full] at below
      exact absurd below (by decide)
  exact ⟨failed, stateAfter_run_of_failed creates.1 rfl failed⟩

/-- An account that may create instances of a token and has but one number left. -/
def engraver : Account :=
  { Account.blank (List.replicate Address.length 1) with
    storage := .ofList [(rolesKey picture, writeRoles [Role.create.name]),
      (lastNonceKey picture, List.replicate 7 255 ++ [254])] }

/-- A call of the account to itself. -/
def engraving (function : Function) (arguments : List Bytes) : Call where
  input := ⟨engraver.address, arguments, 0, 0, 0, [], [], []⟩
  recipient := engraver.address
  function := function.name

/-- The account creates an instance, tries to overwrite the number, gives the instance away and tries to
create another one. -/
def engravings : List Call :=
  [engraving .create (creation 5),
    engraving .saveKeyValue [lastNonceKey picture, [1]],
    engraving .instanceTransfer [picture, List.replicate 8 255, [5], List.replicate Address.length 2],
    engraving .create (creation 7)]

/-- Only the first creation gets a number, the greatest one. -/
theorem created_numbers_engravings :
    creations engraver.address picture engravings (.alone engraver) = [[List.replicate 8 255]] ∧
      succeeds (engraving .create (creation 7)) (afterCalls engravings (.alone engraver)) = false := by
  obtain ⟨numbered, -, last, full⟩ :=
    created_numbers engraver.address picture engravings (.alone engraver)
  have before : ((World.alone engraver).lastNumber engraver.address picture).toNat =
      UInt64.size - 2 := by decide +kernel
  have one : (creations engraver.address picture engravings (.alone engraver)).length = 1 := by
    decide +kernel
  have creates : Creates engraver.address picture (engraving .create (creation 7)) := by decide +kernel
  rw [before, one] at last numbered
  refine ⟨numbered.trans (by decide +kernel), (full _ _ creates ?_).1⟩
  rw [last]
  rfl

end Builtin
end ChainScenario
