import ChainScenario.Expression.Render
import ChainScenario.Proofs.Characters
import Mathlib.Data.List.DropRight

/-!
# What renderings tell apart

Unknown bytes are rendered in full, so no two of them alike. Text loses the bytes that are no
characters, and the name of an address loses the underscores that fill it up, the machine type of a
contract and whether a shard is a byte or part of the name. Main statements: `renderUnknown_inj`,
`decodeLossy_eq_iff` and `renderAddress_eq_iff`, which byte strings have the same rendering.
-/
namespace ChainScenario

/-! ## Hexadecimal -/

namespace Hex

theorem digit_inj {value other : Nat} (small : value < 16) (few : other < 16)
    (same : digit value = digit other) : value = other := by
  have all : ∀ value < 16, ∀ other < 16, digit value = digit other → value = other := by decide
  exact all value small other few same

theorem digit_ne_blank : ∀ value < 16, digit value ≠ ' ' := by decide

theorem byteDigits_inj {byte other : UInt8} (same : byteDigits byte = byteDigits other) :
    byte = other := by
  have bound := byte.toNat_lt
  have limit := other.toNat_lt
  simp only [byteDigits, List.cons.injEq, and_true] at same
  have high := digit_inj (by omega) (by omega) same.1
  have low := digit_inj (by omega) (by omega) same.2
  exact UInt8.toNat_inj.1 (by omega)

theorem encodeChars_inj {bytes others : Bytes} (same : encodeChars bytes = encodeChars others) :
    bytes = others := by
  induction bytes generalizing others with
  | nil =>
    cases others with
    | nil => rfl
    | cons other rest => cases same
  | cons byte bytes ih =>
    cases others with
    | nil => cases same
    | cons other others =>
      obtain ⟨first, behind⟩ : byteDigits byte = byteDigits other ∧
          encodeChars bytes = encodeChars others := List.append_inj same rfl
      rw [byteDigits_inj first, ih behind]

theorem blank_notMem_encodeChars (bytes : Bytes) : ' ' ∉ encodeChars bytes := by
  intro member
  obtain ⟨byte, -, digits⟩ := List.mem_flatMap.1 member
  have bound := byte.toNat_lt
  simp only [byteDigits, List.mem_cons, List.not_mem_nil, or_false] at digits
  rcases digits with high | low
  · exact digit_ne_blank _ (by omega) high.symm
  · exact digit_ne_blank _ (by omega) low.symm

/-- Digits can be read back from a text in which they end at a blank. -/
theorem encodeChars_inj_of_blank {bytes others : Bytes} {rest behind : List Char}
    (same : encodeChars bytes ++ ' ' :: rest = encodeChars others ++ ' ' :: behind) :
    bytes = others := by
  have digits : ∀ bytes (rest : List Char),
      (encodeChars bytes ++ ' ' :: rest).takeWhile (· ≠ ' ') = encodeChars bytes := by
    intro bytes rest
    rw [List.takeWhile_append_of_pos, List.takeWhile_cons_of_neg (by simp), List.append_nil]
    intro digit member
    exact decide_eq_true fun blank => blank_notMem_encodeChars bytes (blank ▸ member)
  exact encodeChars_inj (by rw [← digits bytes rest, same, digits])

end Hex

/-! ## Texts that look alike -/

namespace Utf8

/-- A part that is shown as a replacement character: a broken one or that character itself. -/
def Piece.isLost (piece : Piece) : Prop := piece.shown = Char.ofNat 0xFFFD

/-- Byte strings with the same parts but for those that are shown as a replacement character. -/
def LookAlike (bytes others : Bytes) : Prop :=
  List.Forall₂ (fun piece other => piece = other ∨ piece.isLost ∧ other.isLost) (pieces bytes)
    (pieces others)

/-- A part that is a character carries the bytes of that character. -/
def Piece.Faithful : Piece → Prop
  | .character value part => String.utf8EncodeChar value = part
  | .broken _ => True

theorem faithful_of_mem {bytes : Bytes} {piece : Piece} (member : piece ∈ pieces bytes) :
    piece.Faithful := by
  cases piece with
  | character value part => exact utf8EncodeChar_of_mem member
  | broken part => trivial

theorem Piece.shown_eq_iff {piece other : Piece} (faithful : piece.Faithful)
    (exactly : other.Faithful) :
    piece.shown = other.shown ↔ piece = other ∨ piece.isLost ∧ other.isLost := by
  constructor
  · intro same
    cases piece with
    | broken part => exact .inr ⟨rfl, same.symm⟩
    | character value part =>
      cases other with
      | broken rest => exact .inr ⟨same, rfl⟩
      | character char rest =>
        obtain rfl : value = char := same
        exact .inl (congrArg _ (faithful.symm.trans exactly))
  · rintro (rfl | ⟨lost, gone⟩)
    · rfl
    · exact lost.trans gone.symm

theorem decodeLossy_eq_iff {bytes others : Bytes} :
    decodeLossy bytes = decodeLossy others ↔ LookAlike bytes others := by
  rw [decodeLossy_eq, decodeLossy_eq, String.ofList_inj, LookAlike]
  have left : ∀ piece ∈ pieces bytes, piece.Faithful := fun _ => faithful_of_mem
  have right : ∀ piece ∈ pieces others, piece.Faithful := fun _ => faithful_of_mem
  -- by induction on the parts of both, which matters no more where they come from
  generalize pieces bytes = parts at left ⊢
  generalize pieces others = rest at right ⊢
  induction parts generalizing rest with
  | nil => cases rest <;> simp
  | cons piece parts ih =>
    cases rest with
    | nil => simp
    | cons other rest =>
      rw [List.forall_mem_cons] at left right
      rw [List.map_cons, List.map_cons, List.cons.injEq, List.forall₂_cons]
      exact and_congr (Piece.shown_eq_iff left.1 right.1) (ih left.2 rest right.2)

end Utf8

/-! ## Unknown bytes -/

namespace Expression

/-- What is rendered of unknown bytes starts with all of them. -/
theorem toList_renderUnknown {value : Bytes} (some : value ≠ []) :
    ∃ rest, (renderUnknown value).toList = '0' :: 'x' :: (Hex.encodeChars value ++ ' ' :: rest) := by
  unfold renderUnknown
  rw [if_neg (by simpa using some)]
  split <;> exact ⟨_, by simp [toString, Hex.encode]; rfl⟩

theorem renderUnknown_inj : Function.Injective renderUnknown := by
  intro value other same
  by_cases empty : value = [] <;> by_cases blank : other = []
  · rw [empty, blank]
  · obtain ⟨rest, shown⟩ := toList_renderUnknown blank
    rw [← same, empty] at shown
    cases shown
  · obtain ⟨rest, shown⟩ := toList_renderUnknown empty
    rw [same, blank] at shown
    cases shown
  · obtain ⟨rest, shown⟩ := toList_renderUnknown empty
    obtain ⟨others, seen⟩ := toList_renderUnknown blank
    rw [same, seen, List.cons.injEq, List.cons.injEq] at shown
    exact (Hex.encodeChars_inj_of_blank shown.2.2).symm

/-! ## Addresses -/

/-- Whether an address starts with the zeros of a contract. -/
def ofContract (address : Bytes) : Bool := (address.take Address.contractZeros).all (· == 0)

/-- The part of an address that its name is taken from. -/
def body (address : Bytes) : Bytes :=
  if ofContract address then address.drop (Address.contractZeros + Address.vmTypeLength) else address

def bodyName (body : Bytes) : Bytes :=
  addressName (if body.getLastD 0 = 0x5F then body else body.dropLast)

/-- An address of 32 bytes with a printable name. -/
structure IsNamed (address : Bytes) : Prop where
  whole : address.length = Address.length
  some : bodyName (body address) ≠ []
  printable : (bodyName (body address)).all CharClass.isPrintable = true

/-- The text of a shard behind a name. -/
def shardText (shard : UInt8) : List Char := '#' :: Hex.byteDigits shard

/-- What is shown of the body of an address. -/
def label (body : Bytes) : List Char :=
  (bodyName body).map Utf8.asciiChar ++
    if body.getLastD 0 = 0x5F then [] else shardText (body.getLastD 0)

theorem length_body {address : Bytes} (whole : address.length = Address.length) :
    (body address).length = if ofContract address then 22 else 32 := by
  unfold body
  split
  · rw [List.length_drop, whole]
    rfl
  · exact whole

theorem getLastD_body {address : Bytes} (whole : address.length = Address.length) :
    (body address).getLastD 0 = address.getLastD 0 := by
  unfold body
  split
  · rw [List.getLastD_eq_getLast?, List.getLastD_eq_getLast?, List.getLast?_drop, if_neg]
    rw [whole]
    decide
  · rfl

theorem ascii_of_printable {bytes : Bytes} (printable : bytes.all CharClass.isPrintable = true) :
    ∀ byte ∈ bytes, byte < 0x80 := by
  intro byte member
  have shows := List.all_eq_true.1 printable byte member
  simp only [CharClass.isPrintable, Bool.and_eq_true, decide_eq_true_eq, UInt8.le_iff_toNat_le,
    UInt8.reduceToNat] at shows
  simp only [UInt8.lt_iff_toNat_lt, UInt8.reduceToNat]
  omega

theorem renderAddress_eq {address : Bytes} (whole : address.length = Address.length) :
    renderAddress address =
      if (bodyName (body address)).isEmpty || !(bodyName (body address)).all CharClass.isPrintable then
        renderUnknown address
      else
        (if ofContract address then "sc" else "address") ++ ":" ++
          Utf8.decodeLossy (bodyName (body address)) ++
          if (body address).getLastD 0 = 0x5F then "" else
            "#" ++ Hex.encode [(body address).getLastD 0] := by
  rw [renderAddress, if_neg (not_not.2 whole), getLastD_body whole, bodyName, getLastD_body whole]
  rfl

theorem toList_renderAddress {address : Bytes} (named : IsNamed address) :
    (renderAddress address).toList =
      (if ofContract address then "sc" else "address").toList ++ ':' :: label (body address) := by
  obtain ⟨whole, some, printable⟩ := named
  have nameless : ¬((bodyName (body address)).isEmpty ||
      !(bodyName (body address)).all CharClass.isPrintable) = true := by
    simpa [printable] using some
  rw [renderAddress_eq whole, if_neg nameless,
    Utf8.decodeLossy_ascii (ascii_of_printable printable)]
  have shard : (if (body address).getLastD 0 = 0x5F then "" else
      "#" ++ Hex.encode [(body address).getLastD 0]).toList =
        if (body address).getLastD 0 = 0x5F then [] else shardText ((body address).getLastD 0) := by
    split
    · rfl
    · simp [Hex.encode, Hex.encodeChars, shardText]
  simp only [String.toList_append, String.toList_ofList, shard, label, List.append_assoc]
  rfl

theorem renderAddress_unnamed {address : Bytes} (unnamed : ¬IsNamed address) :
    renderAddress address = renderUnknown address := by
  by_cases whole : address.length = Address.length
  · rw [renderAddress_eq whole, if_pos]
    by_contra shows
    simp only [Bool.or_eq_true, List.isEmpty_iff, Bool.not_eq_eq_eq_not, Bool.not_true, not_or,
      Bool.not_eq_false] at shows
    exact unnamed ⟨whole, shows.1, shows.2⟩
  · rw [renderAddress, if_pos whole]

/-! ### Names and shards -/

/-- A name that does not end in an underscore. -/
def Trimmed (name : Bytes) : Prop := name.getLast? ≠ some 0x5F

theorem trimmed_iff {name : Bytes} : Trimmed name ↔ addressName name = name := by
  change _ ↔ name.rdropWhile (· == 0x5F) = name
  rw [List.rdropWhile_eq_self_iff, Trimmed]
  constructor
  · intro trimmed some ends
    exact trimmed (by rw [List.getLast?_eq_some_getLast some, eq_of_beq ends])
  · intro trimmed ends
    have some : name ≠ [] := by
      rintro rfl
      cases ends
    rw [List.getLast?_eq_some_getLast some, Option.some.injEq] at ends
    exact trimmed some (beq_of_eq ends)

theorem trimmed_addressName (bytes : Bytes) : Trimmed (addressName bytes) :=
  trimmed_iff.2 (List.rdropWhile_idempotent (· == 0x5F) bytes)

theorem exists_fill (bytes : Bytes) :
    ∃ fill, bytes = addressName bytes ++ List.replicate fill 0x5F := by
  have parted : bytes.rdropWhile (· == 0x5F) ++ bytes.rtakeWhile (· == 0x5F) = bytes :=
    List.rdropWhile_append_rtakeWhile
  have fills : bytes.rtakeWhile (· == 0x5F) =
      List.replicate (bytes.rtakeWhile (· == 0x5F)).length 0x5F := by
    refine List.eq_replicate_of_mem fun byte member => ?_
    have underscore := List.mem_rtakeWhile_imp member
    exact eq_of_beq underscore
  exact ⟨_, by rw [← fills]; exact parted.symm⟩

theorem addressName_fill {name : Bytes} (trimmed : Trimmed name) (fill : Nat) :
    addressName (name ++ List.replicate fill 0x5F) = name := by
  induction fill with
  | zero => rw [List.replicate_zero, List.append_nil, trimmed_iff.1 trimmed]
  | succ fill ih =>
    rw [List.replicate_succ', ← List.append_assoc]
    exact (List.rdropWhile_concat_pos _ _ _ rfl).trans ih

/-- How a body is read: as a name and the underscores that fill it up, or as these and a shard. -/
inductive Parts : Bytes → Bytes → Option UInt8 → Prop
  | plain {name : Bytes} {fill : Nat} (trimmed : Trimmed name) (filled : 0 < fill) :
    Parts (name ++ List.replicate fill 0x5F) name none
  | sharded {name : Bytes} {fill : Nat} {shard : UInt8} (trimmed : Trimmed name)
    (apart : shard ≠ 0x5F) : Parts (name ++ List.replicate fill 0x5F ++ [shard]) name (some shard)

theorem exists_parts {body : Bytes} (some : body ≠ []) : ∃ name shard, Parts body name shard := by
  rcases List.eq_nil_or_concat' body with empty | ⟨front, last, rfl⟩
  · exact absurd empty some
  · by_cases ends : last = 0x5F
    · obtain ⟨fill, parted⟩ := exists_fill (front ++ [last])
      have filled : 0 < fill := by
        rcases Nat.eq_zero_or_pos fill with rfl | filled
        · -- nothing fills the body up, but it ends in an underscore
          rw [List.replicate_zero, List.append_nil] at parted
          exact absurd (by simp [ends]) (trimmed_iff.2 parted.symm)
        · exact filled
      have parts := Parts.plain (trimmed_addressName (front ++ [last])) filled
      rw [← parted] at parts
      exact ⟨_, _, parts⟩
    · obtain ⟨fill, parted⟩ := exists_fill front
      have parts : Parts (addressName front ++ List.replicate fill 0x5F ++ [last]) _ _ :=
        .sharded (trimmed_addressName front) ends
      rw [← parted] at parts
      exact ⟨_, _, parts⟩

theorem getLastD_fill (name : Bytes) {fill : Nat} (filled : 0 < fill) :
    (name ++ List.replicate fill 0x5F).getLastD 0 = 0x5F := by
  obtain ⟨fill, rfl⟩ := Nat.exists_eq_add_of_lt filled
  rw [Nat.zero_add, List.replicate_succ', ← List.append_assoc, List.getLastD_concat]

theorem Parts.bodyName_eq {body name : Bytes} {shard : Option UInt8}
    (parts : Parts body name shard) : bodyName body = name := by
  cases parts with
  | @plain name fill trimmed filled =>
    rw [bodyName, if_pos (getLastD_fill name filled), addressName_fill trimmed]
  | @sharded name fill shard trimmed apart =>
    rw [bodyName, List.getLastD_concat, if_neg apart, List.dropLast_concat, addressName_fill trimmed]

theorem Parts.label_eq {body name : Bytes} {shard : Option UInt8} (parts : Parts body name shard) :
    label body = name.map Utf8.asciiChar ++ (shard.map shardText).getD [] := by
  rw [label, parts.bodyName_eq]
  cases parts with
  | @plain name fill trimmed filled =>
    rw [if_pos (getLastD_fill name filled)]
    rfl
  | @sharded name fill shard trimmed apart =>
    rw [List.getLastD_concat, if_neg apart]
    rfl

/-- A shard is spelt out in three bytes, of which the last is no underscore. -/
theorem encode_shardText (shard : UInt8) :
    ∃ high low, Utf8.encode (shardText shard) = [0x23, high, low] ∧ low ≠ 0x5F ∧
      (Utf8.encode (shardText shard)).map Utf8.asciiChar = shardText shard := by
  have digits : ∀ value < 16,
      String.utf8EncodeChar (Hex.digit value) = [UInt8.ofNat (Hex.digit value).toNat] := by decide
  have read : ∀ value < 16,
      Utf8.asciiChar (UInt8.ofNat (Hex.digit value).toNat) = Hex.digit value := by decide
  have apart : ∀ value < 16, UInt8.ofNat (Hex.digit value).toNat ≠ 0x5F := by decide
  have bound := shard.toNat_lt
  have high : shard.toNat / 16 < 16 := by omega
  have low : shard.toNat % 16 < 16 := by omega
  have written : Utf8.encode (shardText shard) =
      [0x23, UInt8.ofNat (Hex.digit (shard.toNat / 16)).toNat,
        UInt8.ofNat (Hex.digit (shard.toNat % 16)).toNat] := by
    simp only [Utf8.encode, shardText, Hex.byteDigits, List.flatMap_cons, List.flatMap_nil,
      digits _ high, digits _ low]
    rfl
  refine ⟨_, _, written, apart _ low, ?_⟩
  rw [written]
  simp only [List.map_cons, List.map_nil, read _ high, read _ low]
  rfl

/-- The shard that ends the second body is spelt out behind the name in the first. -/
def SpellsShard (body other : Bytes) : Prop :=
  ∃ name fill shard, Trimmed name ∧ shard ≠ 0x5F ∧ 0 < fill ∧
    body = name ++ Utf8.encode (shardText shard) ++ List.replicate fill 0x5F ∧
    other = name ++ List.replicate (fill + 2) 0x5F ++ [shard]

theorem SpellsShard.label_eq {body other : Bytes} (spells : SpellsShard body other) :
    label body = label other := by
  obtain ⟨name, fill, shard, trimmed, apart, filled, rfl, rfl⟩ := spells
  obtain ⟨high, low, written, other, read⟩ := encode_shardText shard
  have spelt : Trimmed (name ++ Utf8.encode (shardText shard)) := by
    rw [written, Trimmed, List.getLast?_append]
    exact fun ends => other (Option.some.inj ends)
  rw [(Parts.plain spelt filled).label_eq, (Parts.sharded trimmed apart).label_eq, List.map_append,
    read, Option.map_none, Option.getD_none, List.append_nil]
  rfl

theorem spellsShard_of_label {name plain : Bytes} {fill rest : Nat} {shard : UInt8}
    (trimmed : Trimmed name) (apart : shard ≠ 0x5F) (filled : 0 < fill)
    (length : (plain ++ List.replicate fill 0x5F).length =
      (name ++ List.replicate rest 0x5F ++ [shard]).length)
    (same : plain.map Utf8.asciiChar = name.map Utf8.asciiChar ++ shardText shard) :
    SpellsShard (plain ++ List.replicate fill 0x5F) (name ++ List.replicate rest 0x5F ++ [shard]) := by
  obtain ⟨high, low, written, -, read⟩ := encode_shardText shard
  rw [← read, ← List.map_append] at same
  obtain rfl := List.map_injective_iff.2 Utf8.asciiChar_inj same
  have more : rest = fill + 2 := by
    simp only [written, List.length_append, List.length_replicate, List.length_cons,
      List.length_nil] at length
    omega
  exact ⟨name, fill, shard, trimmed, apart, filled, rfl, by rw [more]⟩

theorem label_eq_iff {body other : Bytes} (some : body ≠ []) (length : body.length = other.length) :
    label body = label other ↔
      body = other ∨ SpellsShard body other ∨ SpellsShard other body := by
  constructor
  · obtain ⟨name, shard, parts⟩ := exists_parts some
    obtain ⟨name', shard', parts'⟩ : ∃ name shard, Parts other name shard := by
      refine exists_parts fun empty => some (List.length_eq_zero_iff.1 ?_)
      rw [length, empty, List.length_nil]
    rw [parts.label_eq, parts'.label_eq]
    intro same
    -- two bodies of one length that are read in the same way are equal; if only one has a shard, the
    -- name of the other spells it
    cases parts with
    | @plain name fill trimmed filled =>
      rw [Option.map_none, Option.getD_none, List.append_nil] at same
      cases parts' with
      | @plain name' fill' trimmed' filled' =>
        rw [Option.map_none, Option.getD_none, List.append_nil] at same
        obtain rfl := List.map_injective_iff.2 Utf8.asciiChar_inj same
        simp only [List.length_append, List.length_replicate, Nat.add_left_cancel_iff] at length
        rw [length]
        exact .inl rfl
      | sharded trimmed' apart' =>
        exact .inr (.inl (spellsShard_of_label trimmed' apart' filled length same))
    | @sharded name fill shard trimmed apart =>
      cases parts' with
      | plain trimmed' filled' =>
        rw [Option.map_none, Option.getD_none, List.append_nil] at same
        exact .inr (.inr (spellsShard_of_label trimmed apart filled' length.symm same.symm))
      | @sharded name' fill' shard' trimmed' apart' =>
        obtain ⟨names, shards⟩ := List.append_inj' same rfl
        obtain rfl := List.map_injective_iff.2 Utf8.asciiChar_inj names
        obtain rfl := Hex.byteDigits_inj (List.cons.inj shards).2
        simp only [List.length_append, List.length_replicate, Nat.add_right_cancel_iff,
          Nat.add_left_cancel_iff] at length
        rw [length]
        exact .inl rfl
  · rintro (rfl | spells | spells)
    · rfl
    · exact spells.label_eq
    · exact spells.label_eq.symm

/-- Two addresses that are rendered alike by their names: of the same kind, and with the same bodies or
with a shard in one that the other spells out. -/
structure Aliases (address other : Bytes) : Prop where
  named : IsNamed address
  too : IsNamed other
  kind : ofContract address = ofContract other
  alike : body address = body other ∨ SpellsShard (body address) (body other) ∨
    SpellsShard (body other) (body address)

/-- Unknown bytes are rendered as nothing or with digits, an address with a name by its kind. -/
theorem renderAddress_ne_renderUnknown {address : Bytes} (named : IsNamed address) (value : Bytes) :
    renderAddress address ≠ renderUnknown value := by
  intro same
  have letters := toList_renderAddress named
  rw [same] at letters
  by_cases empty : value = []
  · rw [empty] at letters
    split at letters <;> cases letters
  · obtain ⟨rest, digits⟩ := toList_renderUnknown empty
    rw [digits] at letters
    split at letters <;> cases letters

theorem renderAddress_eq_iff_label {address other : Bytes} (named : IsNamed address)
    (too : IsNamed other) :
    renderAddress address = renderAddress other ↔
      ofContract address = ofContract other ∧ label (body address) = label (body other) := by
  rw [← String.toList_inj, toList_renderAddress named, toList_renderAddress too]
  cases ofContract address <;> cases ofContract other <;> simp

theorem renderAddress_eq_iff {address other : Bytes} :
    renderAddress address = renderAddress other ↔ address = other ∨ Aliases address other := by
  by_cases named : IsNamed address <;> by_cases too : IsNamed other
  · rw [renderAddress_eq_iff_label named too]
    have some : body address ≠ [] := by
      intro empty
      exact named.some (by rw [empty]; rfl)
    have length := length_body named.whole
    constructor
    · rintro ⟨kind, same⟩
      rw [kind, ← length_body too.whole] at length
      exact .inr ⟨named, too, kind, (label_eq_iff some length).1 same⟩
    · rintro (rfl | ⟨-, -, kind, alike⟩)
      · exact ⟨rfl, rfl⟩
      · rw [kind, ← length_body too.whole] at length
        exact ⟨kind, (label_eq_iff some length).2 alike⟩
  · rw [renderAddress_unnamed too]
    constructor
    · exact fun same => absurd same (renderAddress_ne_renderUnknown named other)
    · rintro (rfl | aliases)
      · exact absurd named too
      · exact absurd aliases.too too
  · rw [renderAddress_unnamed named]
    constructor
    · exact fun same => absurd same.symm (renderAddress_ne_renderUnknown too address)
    · rintro (rfl | aliases)
      · exact absurd too named
      · exact absurd aliases.named named
  · rw [renderAddress_unnamed named, renderAddress_unnamed too, renderUnknown_inj.eq_iff]
    exact ⟨.inl, fun either => either.resolve_right fun aliases => named aliases.named⟩

end Expression
end ChainScenario
