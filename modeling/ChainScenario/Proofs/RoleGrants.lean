import ChainScenario.Proofs.Entries
import ChainScenario.Proofs.WrittenKeys
import Mathlib.Data.List.Infix

/-!
# Roles follow the grants

The roles of an account for a token are changed by the calls that rule on them, and by no other call.
Each of these reads the list of roles, edits it and writes it back, so that it is the last ruling on a
role that counts.

Main statements:
- `stored_roles_run`: a call that does not rule on the roles of an account for a token leaves their list
  as it is stored.
- `roles_follow_grants`: after calls that all end well, an account that began without roles has exactly
  those that were granted last.
-/
namespace ChainScenario

open Token

/-! ## Lists of roles -/

namespace Account

variable {account other : Account} {token : Bytes} {roles : List Bytes}

theorem roles_of_stored (same : other.stored (rolesKey token) = account.stored (rolesKey token)) :
    other.roles token = account.roles token := by
  rw [Account.roles, decoded, same, Account.roles, decoded]

/-- A list of roles that can be stored is read back. -/
theorem roles_setRoles
    (short : ((account.setRoles token roles).stored (rolesKey token)).length < UInt64.size) :
    (account.setRoles token roles).roles token = .ok roles := by
  rw [Account.roles, decoded]
  unfold setRoles at short ⊢
  split at short <;> rename_i empty
  · -- No roles take no entry.
    rw [if_pos empty, stored_remove, if_pos rfl, List.isEmpty_iff.1 empty]
    rfl
  · rw [stored_put, if_pos rfl] at short
    obtain ⟨few, each⟩ := fits_of_short_list short
    rw [if_neg empty, stored_put, if_pos rfl]
    have written : ¬(writeRoles roles).isEmpty := fun nothing =>
      writeRoles_ne_nil roles (List.isEmpty_iff.1 nothing)
    rw [if_neg written]
    exact readAll_of_reads (reads_roles few each)

/-- The roles of an account for a token are those of a kind, and are listed once each. -/
def HoldsRoles (account : Account) (token : Bytes) (held : Bytes → Prop) : Prop :=
  ∃ roles, account.roles token = .ok roles ∧ roles.Nodup ∧ ∀ role, role ∈ roles ↔ held role

theorem HoldsRoles.congr {held others : Bytes → Prop} (holds : account.HoldsRoles token held)
    (same : ∀ role, held role ↔ others role) : account.HoldsRoles token others := by
  obtain ⟨roles, reads, distinct, members⟩ := holds
  exact ⟨roles, reads, distinct, fun role => (members role).trans (same role)⟩

end Account

namespace Builtin

open World

section Lists

variable {held named : List Bytes} {role : Bytes}

theorem mem_foldl_grant : role ∈ named.foldl grant held ↔ role ∈ held ∨ role ∈ named := by
  -- By induction on the named roles, with any roles to start from.
  induction named generalizing held with
  | nil => simp
  | cons first rest ih =>
    rw [List.foldl_cons, ih, grant, List.mem_cons]
    split <;> rename_i already
    · rw [List.contains_iff_mem] at already
      constructor
      · exact Or.imp_right .inr
      · rintro (before | rfl | behind)
        exacts [.inl before, .inl already, .inr behind]
    · rw [List.mem_append, List.mem_singleton, or_assoc]

theorem nodup_foldl_grant (distinct : held.Nodup) : (named.foldl grant held).Nodup := by
  induction named generalizing held with
  | nil => exact distinct
  | cons first rest ih =>
    apply ih
    unfold grant
    split <;> rename_i already
    · exact distinct
    · rw [List.contains_iff_mem] at already
      refine List.nodup_append.2 ⟨distinct, List.pairwise_singleton _ _, ?_⟩
      rintro given before other only rfl
      rw [List.mem_singleton.1 only] at before
      exact already before

theorem mem_foldl_revoke : role ∈ named.foldl revoke held ↔ role ∈ held ∧ role ∉ named := by
  induction named generalizing held with
  | nil => simp
  | cons first rest ih =>
    rw [List.foldl_cons, ih, revoke, List.mem_filter, bne_iff_ne, List.mem_cons, not_or, and_assoc]

theorem nodup_foldl_revoke (distinct : held.Nodup) : (named.foldl revoke held).Nodup := by
  induction named generalizing held with
  | nil => exact distinct
  | cons first rest ih => exact ih (distinct.filter _)

end Lists

/-! ## Rulings -/

/-- What a function does with the roles it names: it grants them, revokes them, or has nothing to do with
roles. -/
def Function.ruling : Function → Option Bool
  | setRoles => some true
  | unsetRoles => some false
  | _ => none

/-- Whether a call grants or revokes roles of an account for a token. -/
def ruling (address token : Bytes) (call : Call) : Option Bool :=
  if call.recipient = address ∧ call.input.arguments.head? = some token then
    (Function.ofName? call.function).bind Function.ruling
  else none

/-- Whether a call grants or revokes one role of an account for a token. -/
def rulingOn (address token role : Bytes) (call : Call) : Option Bool :=
  if role ∈ call.input.arguments.tail then ruling address token call else none

theorem ruling_eq_some {address token : Bytes} {call : Call} {granted : Bool} :
    ruling address token call = some granted ↔
      call.recipient = address ∧ call.input.arguments.head? = some token ∧
        (Function.ofName? call.function).bind Function.ruling = some granted := by
  rw [ruling, Option.ite_none_right_eq_some, and_assoc]

theorem unwritten_rolesKey {function : Function} (silent : function.ruling = none) (token : Bytes) :
    ¬function.Writes (rolesKey token) := by
  have marked : rolesMark <+: rolesKey token := List.prefix_append _ _
  intro writes
  rcases Function.writes_cases writes (protected_of_marked (by decide) marked)
    (unheld_rolesKey token) with ⟨-, numbered⟩ | ⟨rfl | rfl, -⟩
  · exact not_marked marked (by decide) (by decide) numbered
  · cases silent
  · cases silent

section Calls

variable {address token : Bytes} {call : Call} {world after : World} {held : Bytes → Prop}

/-- Roles of another account or for another token stay as they are stored. -/
theorem RolesChanged.stored_elsewhere {change : List Bytes → Bytes → List Bytes}
    (changed : RolesChanged change call world after)
    (elsewhere : ¬(call.recipient = address ∧ call.input.arguments.head? = some token)) :
    after.stored address (rolesKey token) = world.stored address (rolesKey token) := by
  obtain ⟨-, arguments, -⟩ := changed
  rename_i other _ _ _
  rw [arguments, List.head?_cons, Option.some.injEq] at elsewhere
  rw [stored_setAccount]
  split <;> rename_i here
  · subst here
    rw [Account.stored_setRoles, World.stored]
    intro same
    exact elsewhere ⟨rfl, (List.append_cancel_left same).symm⟩
  · rfl

/-- A call that does not rule on the roles of an account for a token leaves them as they are stored,
however it ends. -/
theorem stored_roles_run (silent : ruling address token call = none) :
    (stateAfter (run call world)).stored address (rolesKey token) =
      world.stored address (rolesKey token) := by
  apply stored_run (unheld_rolesKey token)
  intro function after named effect
  -- Of the functions that rule on roles, only those for another account or token are left.
  by_cases rules : function.ruling = none
  · exact effect.stored_eq (unwritten_rolesKey rules token) address
  · have elsewhere : ¬(call.recipient = address ∧ call.input.arguments.head? = some token) := by
      intro here
      rw [ruling, if_pos here, named] at silent
      exact rules silent
    cases effect with
    | setRoles changed => exact changed.stored_elsewhere elsewhere
    | unsetRoles changed => exact changed.stored_elsewhere elsewhere
    | _ => exact absurd rfl rules

/-- What a change of roles leaves is read back. -/
theorem RolesChanged.roles_eq {change : List Bytes → Bytes → List Bytes} {roles : List Bytes}
    (changed : RolesChanged change call world after)
    (about : call.input.arguments.head? = some token)
    (before : (world.accountOrBlank call.recipient).roles token = .ok roles)
    (short : (after.stored call.recipient (rolesKey token)).length < UInt64.size) :
    (after.accountOrBlank call.recipient).roles token =
      .ok (call.input.arguments.tail.foldl change roles) := by
  obtain ⟨-, arguments, holds⟩ := changed
  rw [arguments, List.head?_cons, Option.some.injEq] at about
  subst about
  rw [before] at holds
  cases holds
  rw [World.stored, accountOrBlank_setAccount_self] at short
  rw [accountOrBlank_setAccount_self, arguments, List.tail_cons]
  exact Account.roles_setRoles short

/-- After a call an account has the roles that the call granted, and those that it had and that the call
did not rule on. -/
theorem holdsRoles_run (holds : (world.accountOrBlank address).HoldsRoles token held)
    (good : succeeds call world)
    (short : ((stateAfter (run call world)).stored address (rolesKey token)).length < UInt64.size) :
    ((stateAfter (run call world)).accountOrBlank address).HoldsRoles token fun role =>
      (rulingOn address token role call).elim (held role) (· = true) := by
  obtain ⟨roles, before, distinct, members⟩ := holds
  cases ruled : ruling address token call with
  | none =>
    have same : ((stateAfter (run call world)).accountOrBlank address).roles token =
        (world.accountOrBlank address).roles token :=
      Account.roles_of_stored (stored_roles_run ruled)
    refine ⟨roles, same.trans before, distinct, fun role => ?_⟩
    simp only [members, rulingOn, ruled, ite_self, Option.elim_none]
  | some granted =>
    obtain ⟨rfl, about, rules⟩ := ruling_eq_some.1 ruled
    obtain ⟨output, after, ran, succeeded⟩ := ok_of_endedWith good
    obtain ⟨function, named, effect, -⟩ := effect_of_run ran succeeded
    rw [ran] at short ⊢
    rw [named, Option.bind_some] at rules
    -- What was decided tells which of the two functions it was.
    cases effect with
    | setRoles changed =>
      cases rules
      refine ⟨_, changed.roles_eq about before short, nodup_foldl_grant distinct, fun role => ?_⟩
      simp only [mem_foldl_grant, members, rulingOn, ruled]
      by_cases given : role ∈ call.input.arguments.tail <;> simp [given]
    | unsetRoles changed =>
      cases rules
      refine ⟨_, changed.roles_eq about before short, nodup_foldl_revoke distinct, fun role => ?_⟩
      simp only [mem_foldl_revoke, members, rulingOn, ruled]
      by_cases given : role ∈ call.input.arguments.tail <;> simp [given]
    | _ => cases rules

/-! ## Calls one after another -/

/-- After calls that end well an account has the roles that were granted last, and those that it had and
that no call ruled on. -/
theorem holdsRoles_afterCalls {calls : List Call}
    (holds : (world.accountOrBlank address).HoldsRoles token held) (good : allSucceed calls world)
    (short : ∀ before, before <+: calls →
      ((afterCalls before world).stored address (rolesKey token)).length < UInt64.size) :
    ((afterCalls calls world).accountOrBlank address).HoldsRoles token fun role =>
      (calls.filterMap (rulingOn address token role)).getLast?.elim (held role) (· = true) := by
  -- By induction on the calls; what is held before the rest is what the first call left.
  induction calls generalizing world held with
  | nil => exact holds
  | cons call rest ih =>
    obtain ⟨first, others⟩ := Bool.and_eq_true_iff.1 good
    have once := holdsRoles_run holds first (short [call] (List.prefix_append [call] rest))
    have later := ih once others fun before start =>
      short (call :: before) (List.cons_prefix_cons.2 ⟨rfl, start⟩)
    refine later.congr fun role => ?_
    -- A later ruling on the role takes the place of the first.
    cases ruled : rulingOn address token role call with
    | none => rw [List.filterMap_cons_none ruled, Option.elim_none]
    | some granted =>
      rw [List.filterMap_cons_some ruled, List.getLast?_cons]
      cases (rest.filterMap (rulingOn address token role)).getLast? <;> rfl

/-- Roles follow the grants. After calls that all end well, an account that began without roles for a
token has a role exactly if the last call that ruled on it granted it, and its list has no role twice. A
call that does not rule on the roles of an account for a token leaves their list as it is stored, however
it ends. -/
theorem roles_follow_grants {address token : Bytes} {calls : List Call} {world : World}
    (fresh : (world.accountOrBlank address).roles token = .ok []) (good : allSucceed calls world)
    (short : ∀ before, before <+: calls →
      ((afterCalls before world).stored address (rolesKey token)).length < UInt64.size) :
    (∃ roles, ((afterCalls calls world).accountOrBlank address).roles token = .ok roles ∧
      roles.Nodup) ∧
    (∀ role, ((afterCalls calls world).accountOrBlank address).hasRole token role =
      .ok ((calls.filterMap (rulingOn address token role)).getLast? == some true)) ∧
    ∀ (call : Call) (start : World), ruling address token call = none →
      (stateAfter (run call start)).stored address (rolesKey token) =
        start.stored address (rolesKey token) := by
  have none : (world.accountOrBlank address).HoldsRoles token fun _ => False :=
    ⟨[], fresh, List.nodup_nil, fun _ => iff_of_false List.not_mem_nil id⟩
  obtain ⟨roles, reads, distinct, members⟩ := holdsRoles_afterCalls none good short
  refine ⟨⟨roles, reads, distinct⟩, fun role => ?_, fun _ _ silent => stored_roles_run silent⟩
  rw [Account.hasRole, reads]
  refine congrArg Except.ok (Bool.eq_iff_iff.2 ?_)
  rw [List.contains_iff_mem, beq_iff_eq]
  refine (members role).trans ?_
  dsimp only
  generalize (calls.filterMap (rulingOn address token role)).getLast? = last
  cases last <;> simp

end Calls

/-- An account of a user. -/
def licensee : Account := Account.blank (List.replicate Address.length 1)

/-- A token that the user has rights to. -/
def licensed : Bytes := Utf8.ofString "TOKEN-123456"

/-- A call by which the token system rules on roles of the user. -/
def license (function : Function) (token : Bytes) (roles : List Role) : Call where
  input := ⟨Address.tokenSystem, token :: roles.map Role.name, 0, 0, 0, [], [], []⟩
  recipient := licensee.address
  function := function.name

/-- The user may create and destroy, creates an instance, and may only create from then on. -/
def licenses : List Call :=
  [license .setRoles licensed [.create, .burn, .create],
    { input := ⟨licensee.address, [licensed, [5], [], [], [], [], []], 0, 0, 0, [], [], []⟩
      recipient := licensee.address
      function := "ESDTNFTCreate" },
    license .unsetRoles licensed [.burn],
    license .setRoles (Utf8.ofString "OTHER-123456") [.burn]]

/-- The last word on creating was a grant, on destroying it was not, and on minting there was none. -/
theorem roles_follow_grants_licenses :
    allSucceed licenses (.alone licensee) ∧
    ((afterCalls licenses (.alone licensee)).accountOrBlank licensee.address).hasRole licensed
      Role.create.name = .ok true ∧
    ((afterCalls licenses (.alone licensee)).accountOrBlank licensee.address).hasRole licensed
      Role.burn.name = .ok false ∧
    ((afterCalls licenses (.alone licensee)).accountOrBlank licensee.address).hasRole licensed
      Role.localMint.name = .ok false := by
  have fresh : ((World.alone licensee).accountOrBlank licensee.address).roles licensed = .ok [] := by
    decide +kernel
  have good : allSucceed licenses (.alone licensee) := by decide +kernel
  have short : ∀ before ∈ licenses.inits, ((afterCalls before (.alone licensee)).stored
      licensee.address (rolesKey licensed)).length < UInt64.size := by decide +kernel
  obtain ⟨-, roles, -⟩ := roles_follow_grants fresh good fun before start =>
    short before ((List.mem_inits before licenses).2 start)
  have created : (licenses.filterMap (rulingOn licensee.address licensed Role.create.name)).getLast? =
      some true := by decide +kernel
  have burned : (licenses.filterMap (rulingOn licensee.address licensed Role.burn.name)).getLast? =
      some false := by decide +kernel
  have minted : (licenses.filterMap (rulingOn licensee.address licensed
      Role.localMint.name)).getLast? = none := by decide +kernel
  refine ⟨good, ?_, ?_, ?_⟩
  · rw [roles, created]
    rfl
  · rw [roles, burned]
    rfl
  · rw [roles, minted]
    rfl

end Builtin
end ChainScenario
