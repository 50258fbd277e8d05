import ChainScenario.Proofs.Rendering
import ChainScenario.Proofs.SizedNumbers

/-!
# Rendered values read back

A rendering that is an expression is read as the value that it was made of: a number as far as its leading
zeros go, a text whole, and an address from its name and its shard. Main statement: `render_read_back`.
-/
namespace ChainScenario

namespace Bytes

theorem toNat_append (front back : Bytes) :
    toNat (front ++ back) = toNat front * 256 ^ back.length + toNat back := by
  induction back using List.reverseRecOn with
  | nil => simp [toNat_nil]
  | append_singleton back last ih =>
    rw [← List.append_assoc, toNat_append_singleton, toNat_append_singleton, ih, List.length_append,
      List.length_singleton, Nat.pow_succ, Nat.add_mul, Nat.mul_assoc, Nat.add_assoc]

/-- The number that bytes denote is written as these bytes without their leading zeros. -/
theorem ofNat_toNat (bytes : Bytes) : ofNat (toNat bytes) = significant bytes := by
  induction bytes with
  | nil => simp [toNat_nil, ofNat, significant]
  | cons lead rest ih =>
    have split : toNat (lead :: rest) = lead.toNat * 256 ^ rest.length + toNat rest := by
      have single : toNat [lead] = lead.toNat := by simp [toNat]
      rw [← single, ← toNat_append, List.singleton_append]
    by_cases zero : lead = 0
    · rw [split, zero, UInt8.toNat_zero, Nat.zero_mul, Nat.zero_add, ih]
      rfl
    · have kept : significant (lead :: rest) = lead :: rest := by
        rw [significant, List.dropWhile_cons_of_neg (by simpa using zero)]
      have positive : 0 < lead.toNat := Nat.pos_of_ne_zero fun same => zero (UInt8.toNat_inj.1 same)
      -- the lead byte lifts the number above all that fewer bytes can write
      have above : 256 ^ rest.length ≤ toNat (lead :: rest) := by
        rw [split]
        exact Nat.le_add_right_of_le (Nat.le_mul_of_pos_left _ positive)
      have whole : (ofNat (toNat (lead :: rest))).length = (lead :: rest).length := by
        refine Nat.le_antisymm (length_ofNat_toNat _) ?_
        rw [List.length_cons, Nat.succ_le_iff, ← Nat.not_le, length_ofNat_le_iff]
        exact Nat.not_lt.2 above
      rw [kept]
      exact toNat_inj whole (toNat_ofNat _)

end Bytes

namespace Expression

/-! ## Numbers -/

section Decimal

theorem digitBelow?_of_isDigit {c : Char} (digit : c.isDigit = true) :
    digitBelow? 10 c = some (c.toNat - '0'.toNat) := by
  have below : c.toNat - 48 < 10 := by
    have range : c.toNat ≤ 57 := by
      simp only [Char.isDigit, Bool.and_eq_true, decide_eq_true_eq] at digit
      exact digit.2
    omega
  rw [digitBelow?, digit, Bool.true_and, if_pos (by simpa using below)]
  rfl

theorem ofDigits?_of_isDigit {text : List Char} (digits : ∀ c ∈ text, c.isDigit = true) :
    ofDigits? 10 text = some (Nat.ofDigitChars 10 text 0) := by
  unfold ofDigits?
  generalize 0 = start
  induction text generalizing start with
  | nil => rfl
  | cons c text ih =>
    obtain ⟨first, others⟩ := List.forall_mem_cons.1 digits
    rw [List.foldlM_cons, digitBelow?_of_isDigit first, Nat.ofDigitChars_cons, Nat.mul_comm 10]
    exact ih others _

variable {text : List Char}

theorem natural?_of_isDigit (some : text ≠ []) (digits : ∀ c ∈ text, c.isDigit = true) :
    natural? 10 text = Option.some (Nat.ofDigitChars 10 text 0) := by
  have unsigned (rest : List Char) : text ≠ '+' :: rest := by
    rintro rfl
    exact absurd (digits '+' List.mem_cons_self) (by decide)
  have bare : natural? 10 text = ofDigits? 10 text := by
    unfold natural?
    simp only
    split
    · exact absurd rfl (unsigned _)
    · exact absurd rfl (unsigned _)
    · rw [if_neg (by simpa using some)]
  rw [bare, ofDigits?_of_isDigit digits]

/-- Digits alone are read as the number that they denote, on as few bytes as it takes. -/
theorem unsignedNumber_of_isDigit (some : text ≠ []) (digits : ∀ c ∈ text, c.isDigit = true) :
    unsignedNumber text = .ok (Bytes.ofNat (Nat.ofDigitChars 10 text 0)) := by
  have free {foreign : List Char} (others : foreign.any Char.isDigit = false) :
      ∀ c ∈ text, c ∉ foreign := by
    intro c member inside
    exact List.any_eq_false.1 others c inside (digits c member)
  have clean : withoutSeparators text = text := by
    have kept : ∀ c ∈ text, c ∉ ['_', ','] := free (by decide)
    refine List.filter_eq_self.2 fun c member => ?_
    simpa using kept c member
  have letters : ∀ c ∈ text, c ∉ ['x', 'X', 'b', 'B'] := free (by decide)
  rw [unsignedNumber, clean, afterEither?_eq_none letters (by decide) (by decide),
    afterEither?_eq_none letters (by decide) (by decide), natural?_of_isDigit some digits]

/-- A number in decimal digits is an expression for its bytes. -/
theorem interpret_decimal (context : Context) (value : Nat) :
    interpret context (toString value) = .ok (Bytes.ofNat value) := by
  have text : (toString value).toList = Nat.toDigits 10 value := Nat.toList_repr
  have some : Nat.toDigits 10 value ≠ [] := Nat.toDigits_ne_nil
  have digits : ∀ c ∈ Nat.toDigits 10 value, c.isDigit = true := fun c member =>
    Nat.isDigit_of_mem_toDigits (by decide) (by decide) member
  have read := unsignedNumber_of_isDigit some digits
  rw [Nat.ofDigitChars_ten_toDigits] at read
  have unsigned : Unsigned (Nat.toDigits 10 value) := by
    intro sign isSign rest same
    have undigital : ['+', '-'].any Char.isDigit = false := by decide
    exact List.any_eq_false.1 undigital sign isSign (digits sign (by rw [same]; exact List.mem_cons_self))
  rw [interpret, text, interpretChars_of_plain (unreserved_of_unsignedNumber read) some,
    number_of_unsigned unsigned, read]

end Decimal

/-! ## Texts -/

theorem interpret_renderText (context : Context) {text : List Char}
    (bar : 0x7C ∉ Utf8.encode text) :
    interpret context (render .text (Utf8.encode text)) = .ok (Utf8.encode text) := by
  have unbarred : '|' ∉ text := by
    intro member
    exact bar (List.mem_flatMap.2 ⟨'|', member, by decide⟩)
  have shown : (render .text (Utf8.encode text)).toList = "str:".toList ++ text := by
    rw [render, Utf8.decodeLossy_encode, String.toList_append]
    exact congrArg _ String.toList_ofList
  rw [interpret, shown, interpretChars_marked (by decide) unbarred, simple_text]

/-! ## Addresses -/

section Addresses

theorem encode_asciiChar {bytes : Bytes} (ascii : ∀ byte ∈ bytes, byte < 0x80) :
    Utf8.encode (bytes.map Utf8.asciiChar) = bytes := by
  induction bytes with
  | nil => rfl
  | cons byte bytes ih =>
    obtain ⟨small, others⟩ := List.forall_mem_cons.1 ascii
    have one : String.utf8EncodeChar (Utf8.asciiChar byte) = [byte] :=
      Utf8.encoded_one rfl (by simpa [UInt8.lt_iff_toNat_lt] using small)
    rw [List.map_cons, Utf8.encode, List.flatMap_cons, one, List.singleton_append]
    exact congrArg _ (ih others)

theorem fit_fill (bytes : Bytes) (fill : Nat) (padding : UInt8) :
    Bytes.fit (bytes.length + fill) padding bytes = bytes ++ List.replicate fill padding := by
  rw [Bytes.fit, List.take_of_length_le (by omega), Nat.add_sub_cancel_left]

theorem decode_byteDigits (byte : UInt8) :
    Hex.decode (Utf8.encode (Hex.byteDigits byte)) = .ok [byte] := by
  have written : ∀ value < 16,
      String.utf8EncodeChar (Hex.digit value) = [UInt8.ofNat (Hex.digit value).toNat] := by
    decide
  have read : ∀ value < 16,
      Hex.digitValue? (UInt8.ofNat (Hex.digit value).toNat) = some (UInt8.ofNat value) := by
    decide
  have bound := byte.toNat_lt
  have high : byte.toNat / 16 < 16 := by omega
  have low : byte.toNat % 16 < 16 := by omega
  have whole : UInt8.ofNat (byte.toNat / 16) * 16 + UInt8.ofNat (byte.toNat % 16) = byte := by
    refine UInt8.toNat_inj.1 ?_
    simp only [UInt8.toNat_add, UInt8.toNat_mul, UInt8.toNat_ofNat', UInt8.toNat_ofNat]
    omega
  simp only [Utf8.encode, Hex.byteDigits, List.flatMap_cons, List.flatMap_nil, written _ high,
    written _ low, List.cons_append, List.nil_append]
  rw [Hex.decode, if_pos (by simp)]
  simp only [Hex.decodeFrom, Hex.digitAt, read _ high, read _ low]
  exact congrArg (fun byte => Except.ok [byte]) whole

theorem namedAddress_plain {length : Nat} {name : List Char} (free : '#' ∉ name)
    (fits : (Utf8.encode name).length ≤ length) :
    namedAddress length name = .ok (Bytes.fit length 0x5F (Utf8.encode name)) := by
  simp only [namedAddress, splitAt_of_notMem free]
  rw [if_neg (Nat.not_lt.2 fits), List.append_nil]

theorem namedAddress_sharded {length : Nat} {name : List Char} (free : '#' ∉ name) (shard : UInt8)
    (fits : (Utf8.encode name).length ≤ length - 1) :
    namedAddress length (name ++ shardText shard) =
      .ok (Bytes.fit (length - 1) 0x5F (Utf8.encode name) ++ [shard]) := by
  have undigital : ∀ value < 16, Hex.digit value ≠ '#' := by decide
  have bound := shard.toNat_lt
  have digits : '#' ∉ Hex.byteDigits shard := by
    simp only [Hex.byteDigits, List.mem_cons, List.not_mem_nil, or_false, not_or]
    exact ⟨(undigital _ (by omega)).symm, (undigital _ (by omega)).symm⟩
  simp only [namedAddress, shardText, splitAt_append free, splitAt_of_notMem digits,
    decode_byteDigits]
  simp only [Except.mapError, bind, Except.bind]
  rw [if_neg (Nat.not_lt.2 fits)]

theorem asciiChar_notMem {bytes : Bytes} (byte : UInt8) (absent : byte ∉ bytes) :
    Utf8.asciiChar byte ∉ bytes.map Utf8.asciiChar := fun member =>
  absent ((List.mem_map_of_injective Utf8.asciiChar_inj).1 member)

/-- The name and the shard of a body are put together to the body again. -/
theorem namedAddress_label {bytes : Bytes} (some : bytes ≠ [])
    (printable : (bodyName bytes).all CharClass.isPrintable = true)
    (unsharded : 0x23 ∉ bodyName bytes) : namedAddress bytes.length (label bytes) = .ok bytes := by
  -- a body is a name with its fill, or a name with its fill and a shard
  obtain ⟨name, shard, parts⟩ := exists_parts some
  rw [parts.bodyName_eq] at printable unsharded
  rw [parts.label_eq]
  have written := encode_asciiChar (ascii_of_printable printable)
  have free : '#' ∉ name.map Utf8.asciiChar := asciiChar_notMem 0x23 unsharded
  cases parts with
  | @plain name fill trimmed filled =>
    have length : (name ++ List.replicate fill 0x5F).length = name.length + fill := by
      rw [List.length_append, List.length_replicate]
    rw [Option.map_none, Option.getD_none, List.append_nil, length,
      namedAddress_plain free (by rw [written]; omega), written, fit_fill]
  | @sharded name fill shard trimmed apart =>
    have length : (name ++ List.replicate fill 0x5F ++ [shard]).length = name.length + fill + 1 := by
      rw [List.length_append, List.length_append, List.length_replicate, List.length_singleton]
    rw [Option.map_some, Option.getD_some, length,
      namedAddress_sharded free shard (by rw [written]; omega), written, Nat.add_sub_cancel, fit_fill]

theorem bar_notMem_label {bytes : Bytes} (unbarred : 0x7C ∉ bodyName bytes) : '|' ∉ label bytes := by
  have undigital : ∀ value < 16, Hex.digit value ≠ '|' := by decide
  intro member
  rcases List.mem_append.1 member with inName | inShard
  · exact asciiChar_notMem 0x7C unbarred inName
  · have bound := (bytes.getLastD 0).toNat_lt
    split at inShard
    · cases inShard
    · simp only [shardText, Hex.byteDigits, List.mem_cons, List.not_mem_nil, or_false] at inShard
      rcases inShard with mark | high | low
      · cases mark
      · exact undigital _ (by omega) high.symm
      · exact undigital _ (by omega) low.symm

variable {context : Context} {value : Bytes}

theorem take_ofContract (contract : ofContract value = true)
    (whole : value.length = Address.length) :
    value.take Address.contractZeros = List.replicate Address.contractZeros 0 := by
  refine List.eq_replicate_iff.2 ⟨?_, fun byte member => ?_⟩
  · rw [List.length_take, whole]
    rfl
  · exact eq_of_beq (List.all_eq_true.1 contract byte member)

/-- The zeros and the machine type in front of the body of a contract's address. -/
theorem head_contract (contract : ofContract value = true) (whole : value.length = Address.length) :
    List.replicate Address.contractZeros 0 ++
        Address.vmTag ((value.drop Address.contractZeros).take Address.vmTypeLength) =
      value.take (Address.contractZeros + Address.vmTypeLength) := by
  have two : ((value.drop Address.contractZeros).take Address.vmTypeLength).length =
      Address.vmTypeLength := by
    rw [List.length_take, List.length_drop, whole]
    rfl
  have tag := fit_fill ((value.drop Address.contractZeros).take Address.vmTypeLength) 0 0
  rw [two, Nat.add_zero, List.replicate_zero, List.append_nil] at tag
  rw [Address.vmTag, tag, List.take_add, take_ofContract contract whole]

/-- An address with a name is read back, if the machine type that its name does not show is that of the
context. -/
theorem interpret_renderAddress (named : IsNamed value) (unsharded : 0x23 ∉ bodyName (body value))
    (unbarred : 0x7C ∉ bodyName (body value))
    (machine : ofContract value = true →
      context.vmType = (value.drop Address.contractZeros).take Address.vmTypeLength) :
    interpret context (renderAddress value) = .ok value := by
  have some : body value ≠ [] := fun empty => named.some (by rw [empty]; rfl)
  have bar := bar_notMem_label unbarred
  have read := namedAddress_label some named.printable unsharded
  rw [length_body named.whole] at read
  rw [interpret, toList_renderAddress named]
  cases kind : ofContract value with
  | false =>
    have own : body value = value := by
      rw [body, kind]
      rfl
    rw [kind, own] at read
    rw [own] at bar ⊢
    exact (interpretChars_marked (by decide) bar).trans ((simple_address _).trans read)
  | true =>
    have behind : body value = value.drop (Address.contractZeros + Address.vmTypeLength) := by
      rw [body, kind]
      rfl
    have head := head_contract kind named.whole
    -- the zeros and the machine type, which are not shown, are put in front again
    have joined : contractAddress context.vmType (label (body value)) = .ok value := by
      have length : Address.length - (value.take (Address.contractZeros + Address.vmTypeLength)).length
          = 22 := by
        rw [List.length_take, named.whole]
        rfl
      rw [kind] at read
      simp only [contractAddress, machine kind, head, length]
      simp only [↓reduceIte] at read
      rw [read, behind]
      exact congrArg Except.ok (List.take_append_drop _ value)
    exact (interpretChars_marked (by decide) bar).trans ((simple_contract _).trans joined)

/-- What is rendered with the mark of an address has a name, and the mark is that of its kind. -/
theorem named_of_marked {mark : String} (address : mark ∈ ["address:", "sc:"])
    (marked : mark.toList <+: (renderAddress value).toList) :
    IsNamed value ∧ (ofContract value = true → mark = "sc:") := by
  have named : IsNamed value := by
    by_contra unnamed
    -- without a name, nothing or digits are shown
    rw [renderAddress_unnamed unnamed] at marked
    by_cases empty : value = []
    · rw [empty] at marked
      simp only [List.mem_cons, List.not_mem_nil, or_false] at address
      rcases address with rfl | rfl <;> cases List.prefix_nil.1 marked
    · obtain ⟨rest, shown⟩ := toList_renderUnknown empty
      rw [shown] at marked
      simp only [List.mem_cons, List.not_mem_nil, or_false] at address
      rcases address with rfl | rfl <;> simp at marked
  refine ⟨named, fun contract => ?_⟩
  rw [toList_renderAddress named, contract] at marked
  simp only [List.mem_cons, List.not_mem_nil, or_false] at address
  rcases address with rfl | rfl
  · simp at marked
  · rfl

end Addresses

/-- What is rendered is read back: as a number without the leading zeros, as text if the bytes are
those of a text without bars, and as an address if it has a name without bars and shard marks and, for a
contract, the machine type of the context. -/
theorem render_read_back (context : Context) (value : Bytes) :
    interpret context (render .number value) = .ok (Bytes.significant value) ∧
    (∀ text, value = Utf8.encode text → 0x7C ∉ value →
      interpret context (render .text value) = .ok value) ∧
    ∀ mark ∈ ["address:", "sc:"], mark.toList <+: (render .address value).toList →
      0x23 ∉ bodyName (body value) → 0x7C ∉ bodyName (body value) →
      (mark = "sc:" →
        context.vmType = (value.drop Address.contractZeros).take Address.vmTypeLength) →
      interpret context (render .address value) = .ok value := by
  refine ⟨?_, fun text valid unbarred => ?_, fun mark address marked unsharded unbarred machine => ?_⟩
  · rw [render, interpret_decimal, Bytes.ofNat_toNat]
  · subst valid
    exact interpret_renderText context unbarred
  · obtain ⟨named, kind⟩ := named_of_marked address marked
    exact interpret_renderAddress named unsharded unbarred fun contract => machine (kind contract)

/-- The address of a contract whose name fills it up to the shard. -/
def orchard : Bytes :=
  List.replicate 8 0 ++ [5, 0] ++ Utf8.ofString "orchard_of_old_trees_" ++ [0x7C]

/-- A machine of the type in that address. -/
def grove : Context := ⟨[5, 0], .none, ⟨.directory [], "/"⟩⟩

theorem render_read_back_orchard :
    render .address orchard = "sc:orchard_of_old_trees#7c" ∧
      interpret grove (render .address orchard) = .ok orchard ∧
      interpret grove (render .number orchard) = .ok (orchard.drop 8) ∧
      interpret grove (render .text (Utf8.ofString "größe")) = .ok (Utf8.ofString "größe") := by
  have shown : render .address orchard = "sc:orchard_of_old_trees#7c" := by decide +kernel
  obtain ⟨number, -, address⟩ := render_read_back grove orchard
  obtain ⟨-, text, -⟩ := render_read_back grove (Utf8.ofString "größe")
  refine ⟨shown, ?_, number.trans (by rfl), text _ rfl (by decide)⟩
  exact address "sc:" (by decide) (by rw [shown]; decide) (by decide) (by decide) fun _ => by decide

end Expression
end ChainScenario
