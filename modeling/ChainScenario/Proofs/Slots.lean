import ChainScenario.Proofs.Codec
import ChainScenario.Proofs.Storage

/-!
# Amounts in storage slots

Holdings are stored in slots, storage keys that start with the mark of holdings. `amountIn` is the
amount in a slot of an account; the lemmas say what the operations on holdings do to it. Different
tokens may share a slot, but no two whose identifiers have the usual form (`holdingKey_inj`).
Main statement: `Token.keys_told_apart`, what a key is for can be told from it.
-/
namespace ChainScenario

open Token

/-! ## Slots -/

/-- The key of a holding is a slot. -/
theorem Token.marked_holdingKey (token : Bytes) (nonce : UInt64) :
    holdingMark <+: holdingKey token nonce := by
  rw [holdingKey, List.append_assoc]
  exact List.prefix_append _ _

/-- A key with one mark does not have another that neither starts with it nor is its start. -/
theorem Token.not_marked {mark other key : Bytes} (marked : mark <+: key) (longer : ¬mark <+: other)
    (shorter : ¬other <+: mark) : ¬other <+: key := by
  intro too
  rcases List.prefix_or_prefix_of_prefix marked too with start | start
  · exact longer start
  · exact shorter start

/-- The roles for a token are not kept in a slot. -/
theorem Token.unheld_rolesKey (token : Bytes) : ¬holdingMark <+: rolesKey token :=
  not_marked (List.prefix_append _ _) (by decide) (by decide)

/-- The last nonce of a token is not kept in a slot. -/
theorem Token.unheld_lastNonceKey (token : Bytes) : ¬holdingMark <+: lastNonceKey token :=
  not_marked (List.prefix_append _ _) (by decide) (by decide)

theorem Token.protected_of_marked {key mark : Bytes} (inside : Address.protectedKey <+: mark)
    (marked : mark <+: key) : Address.isProtected key = true :=
  List.isPrefixOf_iff_prefix.2 (List.IsPrefix.trans inside marked)

/-- Keys that are not the protocol's have none of its marks. -/
theorem Token.unmarked_of_unprotected {key : Bytes} (free : Address.isProtected key = false)
    {mark : Bytes} (inside : Address.protectedKey <+: mark) : ¬mark <+: key := by
  intro marked
  rw [protected_of_marked inside marked] at free
  cases free

theorem Token.nonceOfBytes_nonceBytes (nonce : UInt64) : nonceOfBytes (nonceBytes nonce) = nonce := by
  rw [nonceOfBytes, nonceBytes, Bytes.toNat_ofNat, UInt64.ofNat_toNat]

/-- The nonce that bytes denote is their number, as far as 64 bits go. -/
theorem Token.toNat_nonceOfBytes (bytes : Bytes) :
    (nonceOfBytes bytes).toNat = Bytes.toNat bytes % UInt64.size :=
  UInt64.toNat_ofNat'

theorem Token.toNat_nonceOfBytes_of_short {bytes : Bytes} (short : bytes.length ≤ 8) :
    (nonceOfBytes bytes).toNat = Bytes.toNat bytes := by
  have below : Bytes.toNat bytes < UInt64.size :=
    Nat.lt_of_lt_of_le (Bytes.toNat_lt bytes) (Bytes.capacity_mono short)
  rw [toNat_nonceOfBytes, Nat.mod_eq_of_lt below]

theorem Token.nonceBytes_eq_nil {nonce : UInt64} : nonceBytes nonce = [] ↔ nonce = 0 := by
  constructor
  · intro empty
    have read := nonceOfBytes_nonceBytes nonce
    rw [empty] at read
    exact read.symm
  · rintro rfl
    simp [nonceBytes, Bytes.ofNat]

/-- An identifier in the usual form: a ticker without dashes, a dash and six bytes. -/
def Token.IsIdentifier (token : Bytes) : Prop :=
  ∃ ticker random, token = ticker ++ 0x2D :: random ∧ 0x2D ∉ ticker ∧ random.length = randomLength

theorem Token.takeWhile_ticker {ticker : Bytes} (undashed : 0x2D ∉ ticker) (rest : Bytes) :
    (ticker ++ 0x2D :: rest).takeWhile (· != 0x2D) = ticker := by
  rw [List.takeWhile_append_of_pos]
  · simp
  · intro byte member
    exact bne_iff_ne.2 fun same => undashed (same ▸ member)

/-- An identifier in the usual form has six bytes behind its first dash. -/
theorem Token.isIdentifier_iff {token : Bytes} :
    token.length = (token.takeWhile (· != 0x2D)).length + 1 + randomLength ↔ IsIdentifier token := by
  constructor
  · intro full
    have parted := List.takeWhile_append_dropWhile (p := (· != 0x2D)) (l := token)
    have behind := congrArg List.length parted
    rw [List.length_append, full] at behind
    cases rest : token.dropWhile (· != 0x2D) with
    | nil =>
      rw [rest, List.length_nil] at behind
      omega
    | cons dash random =>
      have first : dash = 0x2D := by
        have stops := List.head?_dropWhile_not (· != 0x2D) token
        simpa [rest] using stops
      rw [rest, first] at parted
      refine ⟨token.takeWhile (· != 0x2D), random, parted.symm, ?_, ?_⟩
      · intro member
        have others := List.all_eq_true.1 (List.all_takeWhile (p := (· != 0x2D)) (l := token))
        simpa using others 0x2D member
      · rw [rest, List.length_cons] at behind
        omega
  · rintro ⟨ticker, random, rfl, undashed, full⟩
    rw [takeWhile_ticker undashed, List.length_append, List.length_cons, full]
    omega

instance (token : Bytes) : Decidable (Token.IsIdentifier token) :=
  decidable_of_iff _ Token.isIdentifier_iff

/-- Bytes behind an identifier in the usual form can be told from it. -/
theorem Token.splitKey_append {token : Bytes} (usual : IsIdentifier token) (rest : Bytes) :
    splitKey (token ++ rest) = (token, nonceOfBytes rest) := by
  obtain ⟨ticker, random, rfl, undashed, full⟩ := usual
  have first : ((ticker ++ 0x2D :: random) ++ rest).takeWhile (· != 0x2D) = ticker := by
    rw [List.append_assoc, List.cons_append]
    exact takeWhile_ticker undashed (random ++ rest)
  have cut : ticker.length + 1 + randomLength = (ticker ++ 0x2D :: random).length := by
    simp only [List.length_append, List.length_cons, full]
    omega
  have inside : ticker.length < ((ticker ++ 0x2D :: random) ++ rest).length ∧
      (ticker ++ 0x2D :: random).length ≤ ((ticker ++ 0x2D :: random) ++ rest).length := by
    simp only [List.length_append, List.length_cons]
    omega
  simp only [splitKey, first, cut]
  rw [if_pos inside, List.take_left, List.drop_left]

/-- No two instances of tokens whose identifiers have the usual form share a slot. -/
theorem Token.holdingKey_inj {token other : Bytes} {nonce number : UInt64}
    (usual : IsIdentifier token) (too : IsIdentifier other)
    (same : holdingKey token nonce = holdingKey other number) : token = other ∧ nonce = number := by
  simp only [holdingKey, List.append_assoc] at same
  have parts := congrArg splitKey (List.append_cancel_left same)
  rw [splitKey_append usual, splitKey_append too, nonceOfBytes_nonceBytes,
    nonceOfBytes_nonceBytes] at parts
  exact Prod.mk.inj parts

/-- The roles for a token and the last nonce of a token are not kept under one key. -/
theorem Token.rolesKey_ne_lastNonceKey (token other : Bytes) : rolesKey token ≠ lastNonceKey other := by
  intro same
  have marked : nonceMark <+: rolesKey token := by
    rw [same]
    exact List.prefix_append _ _
  exact not_marked (List.prefix_append rolesMark token) (by decide) (by decide) marked

/-- What a key is for can be told from it: its kind for all identifiers, and, if the identifier has the
usual form, the identifier and the nonce behind the mark of holdings. -/
theorem Token.keys_told_apart :
    (∀ token nonce, IsIdentifier token →
      splitKey ((holdingKey token nonce).drop holdingMark.length) = (token, nonce)) ∧
    (∀ token other nonce number, IsIdentifier token → IsIdentifier other →
      (token, nonce) ≠ (other, number) → holdingKey token nonce ≠ holdingKey other number) ∧
    (∀ first second third nonce, holdingKey first nonce ≠ rolesKey second ∧
      holdingKey first nonce ≠ lastNonceKey third ∧ rolesKey second ≠ lastNonceKey third) ∧
    ∀ nonce, nonceOfBytes (nonceBytes nonce) = nonce := by
  refine ⟨fun token nonce usual => ?_, fun token other nonce number usual too apart same => ?_,
    fun first second third nonce => ⟨fun same => ?_, fun same => ?_, ?_⟩, nonceOfBytes_nonceBytes⟩
  · have behind : (holdingKey token nonce).drop holdingMark.length = token ++ nonceBytes nonce := by
      rw [holdingKey, List.append_assoc, List.drop_left]
    rw [behind, splitKey_append usual, nonceOfBytes_nonceBytes]
  · obtain ⟨rfl, rfl⟩ := holdingKey_inj usual too same
    exact apart rfl
  · exact unheld_rolesKey second (same ▸ marked_holdingKey first nonce)
  · exact unheld_lastNonceKey third (same ▸ marked_holdingKey first nonce)
  · exact rolesKey_ne_lastNonceKey second third

/-- Dashes may stand behind the first one, in an identifier and among the bytes of a nonce. -/
theorem Token.keys_told_apart_dashes :
    IsIdentifier (Utf8.ofString "S-------") ∧
      splitKey ((holdingKey (Utf8.ofString "S-------") 0x2D2D).drop holdingMark.length) =
        (Utf8.ofString "S-------", 0x2D2D) ∧
      holdingKey (Utf8.ofString "S-------") 0x2D2D ≠ holdingKey (Utf8.ofString "S-------") 0x2D := by
  have usual : IsIdentifier (Utf8.ofString "S-------") := by decide
  obtain ⟨split, apart, -, -⟩ := keys_told_apart
  exact ⟨usual, split _ _ usual, apart _ _ _ _ usual usual (by decide)⟩

/-! ## Amounts -/

/-- The amount that stored bytes stand for; bytes that are no holding stand for nothing. -/
def Token.amountOf (stored : Bytes) : Nat :=
  match readAll Holding.reader stored with
  | .ok holding => holding.value
  | .error _ => 0

/-- The amount in a slot of an account. -/
def Account.amountIn (account : Account) (slot : Bytes) : Nat := amountOf (account.stored slot)

@[simp] theorem Token.amountOf_nil : amountOf [] = 0 := rfl

theorem Token.amountOf_write {holding : Holding} (fits : holding.Fits) :
    amountOf holding.write = holding.value := by
  rw [amountOf, readAll_write fits]

namespace Account

theorem amountIn_of_stored {account other : Account} {slot : Bytes}
    (same : account.stored slot = other.stored slot) :
    account.amountIn slot = other.amountIn slot :=
  congrArg amountOf same

theorem amountIn_blank (address slot : Bytes) : (blank address).amountIn slot = 0 := rfl

theorem amountIn_setHolding (account : Account) (token : Bytes) (nonce : UInt64) {holding : Holding}
    (fits : holding.Fits) (slot : Bytes) :
    (account.setHolding token nonce holding).amountIn slot =
      if slot = holdingKey token nonce then holding.value else account.amountIn slot := by
  rw [amountIn, setHolding, stored_put]
  split
  · exact amountOf_write fits
  · rfl

theorem amountIn_saveHolding (account : Account) (token : Bytes) (nonce : UInt64)
    {holding : Holding} (fits : holding.Fits) (slot : Bytes) :
    (account.saveHolding token nonce holding).amountIn slot =
      if slot = holdingKey token nonce then holding.value else account.amountIn slot := by
  unfold saveHolding
  split
  -- A holding of nothing is removed instead of written.
  · rename_i nothing
    rw [amountIn, stored_remove]
    split
    · rw [nothing, amountOf_nil]
    · rfl
  · exact amountIn_setHolding account token nonce fits slot

section Held

variable {account : Account} {token : Bytes} {nonce : UInt64}

theorem stored_of_holding?_none (holds : account.holding? token nonce = .ok none) :
    account.stored (holdingKey token nonce) = [] := by
  -- Bytes that cannot be read are a fault, so an absent holding has no bytes.
  simp only [holding?, decoded] at holds
  split at holds
  · rename_i empty
    exact List.isEmpty_iff.1 empty
  · rw [readAll] at holds
    split at holds
    · cases holds
    · rename_i read
      obtain ⟨⟨_, _⟩, _, same⟩ := Option.bind_eq_some_iff.1 read
      cases holds
      cases same
    · cases holds

theorem read_of_holding?_some {held : Holding}
    (holds : account.holding? token nonce = .ok (some held)) :
    Holding.reader (account.stored (holdingKey token nonce)) = some (held, []) := by
  -- Bytes behind a holding would be a fault as well.
  simp only [holding?, decoded] at holds
  split at holds
  · cases holds
  · rw [readAll] at holds
    split at holds
    · cases holds
    · rename_i read
      obtain ⟨⟨_, _⟩, taken, same⟩ := Option.bind_eq_some_iff.1 read
      cases holds
      cases same
      exact taken
    · cases holds

theorem amountIn_of_holding? {held : Option Holding}
    (holds : account.holding? token nonce = .ok held) :
    account.amountIn (holdingKey token nonce) = held.elim 0 (·.value) := by
  cases held with
  | none => rw [amountIn, stored_of_holding?_none holds, amountOf_nil, Option.elim_none]
  | some held => simp only [amountIn, amountOf, readAll, read_of_holding?_some holds, Option.elim_some]

theorem fits_of_holding? {held : Holding} (holds : account.holding? token nonce = .ok (some held)) :
    held.Fits :=
  (fits_of_holding (read_of_holding?_some holds)).1

end Held
end Account
end ChainScenario
