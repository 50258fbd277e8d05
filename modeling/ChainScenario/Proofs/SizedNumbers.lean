import ChainScenario.Proofs.Literals

/-!
# Integers as bytes

A text that is read as an integer has no marks in it, so behind the mark of a size it is written on that
size or refused, and with a sign in front it is written on as few bytes as it takes. Main statement:
`integer_encoded`, which integers a size accepts and which bytes are written.
-/
namespace ChainScenario.Expression

/-! ## Numbers have no marks -/

section Unreserved

theorem unreserved_of_digit {base value : Nat} {c : Char} (digit : digitBelow? base c = some value) :
    c ∉ reserved := by
  intro member
  have undigital : reserved.any Char.isDigit = false := by decide
  rw [digitBelow?, eq_false_of_ne_true (List.any_eq_false.1 undigital c member)] at digit
  cases digit

theorem unreserved_of_ofDigits? {base value : Nat} {digits : List Char}
    (read : ofDigits? base digits = some value) : ∀ c ∈ digits, c ∉ reserved := by
  unfold ofDigits? at read
  generalize 0 = start at read
  induction digits generalizing start with
  | nil => simp
  | cons c digits ih =>
    rw [List.foldlM_cons] at read
    obtain ⟨next, first, others⟩ := Option.bind_eq_some_iff.1 read
    obtain ⟨digit, worth, -⟩ := Option.map_eq_some_iff.1 first
    exact List.forall_mem_cons.2 ⟨unreserved_of_digit worth, ih next others⟩

theorem unreserved_of_natural? {base value : Nat} {text : List Char}
    (read : natural? base text = some value) : ∀ c ∈ text, c ∉ reserved := by
  have whole (digits : List Char)
      (read : (if digits.isEmpty then none else ofDigits? base digits) = some value) :
      ∀ c ∈ digits, c ∉ reserved := by
    split at read
    · cases read
    · exact unreserved_of_ofDigits? read
  unfold natural? at read
  simp only at read
  split at read
  · exact whole _ read
  · exact List.forall_mem_cons.2 ⟨by decide, whole _ read⟩
  · exact whole _ read

theorem digits_of_decodeFrom {position : Nat} {text bytes : Bytes}
    (read : Hex.decodeFrom position text = .ok bytes) : ∀ byte ∈ text, Hex.digitValue? byte ≠ none := by
  fun_induction Hex.decodeFrom position text generalizing bytes with
  | case1 => simp
  | case2 => cases read
  | case3 position high low rest ih =>
    obtain ⟨upper, first, read⟩ := except_bind.1 read
    obtain ⟨lower, second, read⟩ := except_bind.1 read
    obtain ⟨others, behind, -⟩ := except_bind.1 read
    have digit {byte value : UInt8} {place : Nat} (read : Hex.digitAt byte place = .ok value) :
        Hex.digitValue? byte ≠ none := by
      intro none
      rw [Hex.digitAt, none] at read
      cases read
    exact List.forall_mem_cons.2 ⟨digit first, List.forall_mem_cons.2 ⟨digit second, ih behind⟩⟩

theorem digits_of_decode {text bytes : Bytes} (read : Hex.decode text = .ok bytes) :
    ∀ byte ∈ text, Hex.digitValue? byte ≠ none := by
  unfold Hex.decode at read
  split at read
  · exact digits_of_decodeFrom read
  · cases read

/-- Hexadecimal digits, perhaps behind a zero that pairs them, are no reserved characters. -/
theorem unreserved_of_hex {digits : List Char} {bytes : Bytes}
    (read : Hex.decode (if (Utf8.encode digits).length % 2 = 1 then 48 :: Utf8.encode digits
      else Utf8.encode digits) = .ok bytes) : ∀ c ∈ digits, c ∉ reserved := by
  have spelled : ∀ byte ∈ Utf8.encode digits, Hex.digitValue? byte ≠ none := by
    split at read
    · exact (List.forall_mem_cons.1 (digits_of_decode read)).2
    · exact digits_of_decode read
  intro c member inside
  -- a reserved character is written on a byte that is no hexadecimal digit
  have undigital : reserved.all (fun c =>
      (String.utf8EncodeChar c).any fun byte => (Hex.digitValue? byte).isNone) = true := by
    decide
  obtain ⟨byte, part, none⟩ := List.any_eq_true.1 (List.all_eq_true.1 undigital c inside)
  exact spelled byte (List.mem_flatMap.2 ⟨c, member, part⟩) (Option.isNone_iff_eq_none.1 none)

/-- What is read after one of two beginnings is behind one of them. -/
theorem afterEither?_eq_some {first second : String} {text rest : List Char}
    (found : afterEither? first second text = some rest) :
    text = first.toList ++ rest ∨ text = second.toList ++ rest := by
  cases one : behind? first text with
  | some rest' =>
    rw [afterEither?, one] at found
    cases found
    exact .inl (after?_eq_some one)
  | none =>
    rw [afterEither?, one] at found
    exact .inr (after?_eq_some found)

theorem unreserved_behind {first second : String} {text rest : List Char}
    (found : afterEither? first second text = some rest)
    (free : (first.toList ++ second.toList).any reserved.contains = false)
    (others : ∀ c ∈ rest, c ∉ reserved) : ∀ c ∈ text, c ∉ reserved := by
  have marks : ∀ c ∈ first.toList ++ second.toList, c ∉ reserved := by
    simpa only [List.any_eq_false, List.contains_iff_mem] using free
  rw [List.forall_mem_append] at marks
  rcases afterEither?_eq_some found with rfl | rfl
  · exact List.forall_mem_append.2 ⟨marks.1, others⟩
  · exact List.forall_mem_append.2 ⟨marks.2, others⟩

/-- A text that is read as a number has no marks in it. -/
theorem unreserved_of_unsignedNumber {text : List Char} {bytes : Bytes}
    (read : unsignedNumber text = .ok bytes) : ∀ c ∈ text, c ∉ reserved := by
  have cleaned : ∀ c ∈ withoutSeparators text, c ∉ reserved := by
    unfold unsignedNumber at read
    simp only at read
    split at read
    · rename_i digits found
      exact unreserved_behind found (by decide) (unreserved_of_hex (ok_mapError.1 read))
    · split at read
      · rename_i digits found
        split at read
        · rename_i value natural
          exact unreserved_behind found (by decide) (unreserved_of_natural? natural)
        · cases read
      · split at read
        · rename_i value natural
          exact unreserved_of_natural? natural
        · cases read
  intro c member inside
  -- what was taken out of the text are the separators, and they are not reserved
  have kept : reserved.all (fun c => c != '_' && c != ',') = true := by decide
  exact cleaned c (List.mem_filter.2 ⟨member, List.all_eq_true.1 kept c inside⟩) inside

theorem unreserved_of_integer {text : List Char} {value : Int} (read : integer text = .ok value) :
    ∀ c ∈ text, c ∉ reserved := by
  have behind (digits : List Char) {value : Int}
      (read : ((unsignedNumber digits).map fun bytes => (Bytes.toNat bytes : Int)) = .ok value) :
      ∀ c ∈ digits, c ∉ reserved := by
    obtain ⟨bytes, read, -⟩ := ok_map.1 read
    exact unreserved_of_unsignedNumber read
  unfold integer at read
  simp only at read
  split at read
  · obtain ⟨magnitude, read, -⟩ := ok_map.1 read
    exact List.forall_mem_cons.2 ⟨by decide, behind _ read⟩
  · exact List.forall_mem_cons.2 ⟨by decide, behind _ read⟩
  · exact behind _ read

end Unreserved

/-- The mark of a size: whether it has a sign, and how many bits there are. -/
def sizeMark (signed : Bool) (width : Nat) : String :=
  (if signed then "i" else "u") ++ toString (8 * width) ++ ":"

theorem mem_sizes : ∀ width ∈ [1, 2, 4, 8], ∀ signed,
    (sizeMark signed width, width, signed) ∈ sizes := by
  decide

/-! ## Numbers of a given size -/

section Sized

variable {width : Nat} {text : List Char} {value : Int}

theorem sizedUnsigned_ok (read : integer text = .ok value) {bytes : Bytes} :
    sizedUnsigned width text = .ok bytes ↔
      bytes.length = width ∧ (Bytes.toNat bytes : Int) = value := by
  have unfolded : sizedUnsigned width text =
      if value < 0 then .error (.negative (String.ofList text))
      else if Bytes.capacity width ≤ value.toNat then .error (.tooWide (String.ofList text) width)
      else .ok (Bytes.ofNatFixed width value.toNat) := by
    rw [sizedUnsigned, read]
    rfl
  rw [unfolded]
  constructor
  · intro written
    split at written
    · cases written
    · rename_i natural
      split at written
      · cases written
      · rename_i fits
        cases written
        refine ⟨Bytes.length_ofNatFixed _ _, ?_⟩
        rw [Bytes.toNat_ofNatFixed, Nat.mod_eq_of_lt (by omega), Int.toNat_of_nonneg (by omega)]
  · rintro ⟨rfl, rfl⟩
    have fits := Bytes.toNat_lt bytes
    rw [if_neg (by omega), if_neg (by omega), Int.toNat_natCast]
    -- the same number on the same width is the same byte string
    refine congrArg Except.ok (Bytes.toNat_inj (Bytes.length_ofNatFixed _ _) ?_)
    rw [Bytes.toNat_ofNatFixed, Nat.mod_eq_of_lt fits]

theorem sizedSigned_ok (read : integer text = .ok value) (filled : 0 < width) {bytes : Bytes} :
    sizedSigned width text = .ok bytes ↔ bytes.length = width ∧ Bytes.toInt bytes = value := by
  have unfolded : sizedSigned width text =
      if width < Bytes.signedWidth value then .error (.tooWide (String.ofList text) width)
      else .ok (Bytes.ofIntFixed width value) := by
    rw [sizedSigned, read]
    rfl
  rw [unfolded]
  constructor
  · intro written
    split at written
    · cases written
    · rename_i fits
      obtain ⟨-, low, high⟩ := Bytes.signedWidth_le_iff.1 (Nat.le_of_not_lt fits)
      cases written
      exact ⟨Bytes.length_ofIntFixed _ _, Bytes.toInt_ofIntFixed low high⟩
  · rintro ⟨rfl, rfl⟩
    obtain ⟨low, high⟩ := Bytes.toInt_bounds bytes
    rw [if_neg (Nat.not_lt.2 (Bytes.signedWidth_le_iff.2 ⟨filled, low, high⟩))]
    refine congrArg Except.ok (Bytes.toInt_inj (Bytes.length_ofIntFixed _ _) ?_)
    exact Bytes.toInt_ofIntFixed low high

end Sized

/-! ## Expressions -/

section Encoded

variable (context : Context) {text : String} {value : Int}

theorem interpret_sized {mark : String} {width : Nat} {signed : Bool}
    (size : (mark, width, signed) ∈ sizes) (read : integer text.toList = .ok value) :
    interpret context (mark ++ text) =
      (if signed then sizedSigned width else sizedUnsigned width) text.toList := by
  have known : ∀ size ∈ sizes, size.1 ∈ valueMarks := by decide
  have bar : '|' ∉ text.toList := fun member =>
    unreserved_of_integer read '|' member (by decide)
  rw [interpret, String.toList_append, interpretChars_marked (known _ size) bar, simple_sized size]

/-- With a sign in front, a number is written as an integer. -/
theorem interpret_signed {sign : Char} {digits : List Char} (isSign : sign ∈ ['+', '-'])
    (marked : text.toList = sign :: digits) (read : integer text.toList = .ok value) :
    interpret context text = .ok (Bytes.ofInt value) := by
  have written : number text.toList = (integer text.toList).map Bytes.ofInt := by
    rw [marked]
    simp only [List.mem_cons, List.not_mem_nil, or_false] at isSign
    rcases isSign with rfl | rfl <;> rfl
  rw [interpret, interpretChars_of_plain (unreserved_of_integer read) (by simp [marked]), written, read]
  rfl

/-- An integer that is read from a text is written exactly. Behind the mark of a size it is accepted if
and only if the size has room for it, without or with a sign, and what is written is the one byte string
of that size that denotes it. With a sign in front of the text alone, it is written as the shortest byte
string that denotes it in two's complement, which is empty for zero. -/
theorem integer_encoded (read : integer text.toList = .ok value) :
    (∀ width ∈ [1, 2, 4, 8],
      ((∃ bytes, interpret context (sizeMark false width ++ text) = .ok bytes) ↔
        0 ≤ value ∧ value < 2 ^ (8 * width)) ∧
      (∀ bytes, interpret context (sizeMark false width ++ text) = .ok bytes ↔
        bytes.length = width ∧ (Bytes.toNat bytes : Int) = value) ∧
      ((∃ bytes, interpret context (sizeMark true width ++ text) = .ok bytes) ↔
        -2 ^ (8 * width - 1) ≤ value ∧ value < 2 ^ (8 * width - 1)) ∧
      ∀ bytes, interpret context (sizeMark true width ++ text) = .ok bytes ↔
        bytes.length = width ∧ Bytes.toInt bytes = value) ∧
    ∀ sign ∈ ['+', '-'], ∀ digits, text.toList = sign :: digits →
      ∃ bytes, interpret context text = .ok bytes ∧ Bytes.toInt bytes = value ∧
        (∀ other, Bytes.toInt other = value → bytes.length ≤ other.length) ∧
        (value = 0 → bytes = []) := by
  refine ⟨fun width known => ?_, fun sign isSign digits marked => ?_⟩
  · have filled : 0 < width := by
      have all : ∀ width ∈ [1, 2, 4, 8], 0 < width := by decide
      exact all width known
    have unsigned (bytes : Bytes) :
        interpret context (sizeMark false width ++ text) = .ok bytes ↔
          bytes.length = width ∧ (Bytes.toNat bytes : Int) = value := by
      rw [interpret_sized context (mem_sizes width known false) read]
      exact sizedUnsigned_ok read
    have signed (bytes : Bytes) :
        interpret context (sizeMark true width ++ text) = .ok bytes ↔
          bytes.length = width ∧ Bytes.toInt bytes = value := by
      rw [interpret_sized context (mem_sizes width known true) read]
      exact sizedSigned_ok read filled
    exact ⟨(exists_congr unsigned).trans Bytes.exists_toNat_iff, unsigned,
      (exists_congr signed).trans (Bytes.exists_toInt_iff filled), signed⟩
  · refine ⟨Bytes.ofInt value, interpret_signed context isSign marked read, Bytes.toInt_ofInt value,
      fun other same => ?_, fun zero => ?_⟩
    · rw [← same]
      exact Bytes.length_ofInt_toInt other
    · rw [zero]
      rfl

end Encoded

open Scenario (bare) in
/-- The least integer of one byte: too small without a sign, and filled up with its sign on two bytes. -/
theorem integer_encoded_floor :
    integer "-0x80".toList = .ok (-128) ∧
      (¬∃ bytes, interpret bare (sizeMark false 1 ++ "-0x80") = .ok bytes) ∧
      interpret bare (sizeMark true 1 ++ "-0x80") = .ok [0x80] ∧
      interpret bare (sizeMark true 2 ++ "-0x80") = .ok [0xFF, 0x80] ∧
      ∃ bytes, interpret bare "-0x80" = .ok bytes ∧ Bytes.toInt bytes = -128 ∧ bytes.length ≤ 1 := by
  have read : integer "-0x80".toList = .ok (-128) := by rfl
  obtain ⟨sizes, plain⟩ := integer_encoded bare read
  obtain ⟨accepted, -, -, one⟩ := sizes 1 (by decide)
  obtain ⟨-, -, -, two⟩ := sizes 2 (by decide)
  obtain ⟨bytes, written, denoted, shortest, -⟩ := plain '-' (by decide) "0x80".toList (by decide)
  exact ⟨read, by rw [accepted]; decide, (one _).2 (by decide), (two _).2 (by decide), bytes, written,
    denoted, shortest [0x80] (by decide)⟩

end ChainScenario.Expression
