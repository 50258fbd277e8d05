import ChainScenario.Text.Utf8
import Mathlib.Data.List.Forall2
import Mathlib.Logic.Function.Basic

/-!
# Characters in byte strings

The parts of a byte string that are characters are written as they were read, and a text that was
written is read as its characters. Main statements: `utf8EncodeChar_of_mem` and `decode?_eq_some_iff`,
the byte strings that are well formed are those of texts.
-/
namespace ChainScenario.Utf8

/-- The character a part is shown as. -/
def Piece.shown : Piece → Char
  | .character value _ => value
  | .broken _ => Char.ofNat 0xFFFD

theorem decodeLossy_eq (bytes : Bytes) :
    decodeLossy bytes = String.ofList ((pieces bytes).map Piece.shown) := by
  refine congrArg String.ofList (List.map_congr_left fun piece _ => ?_)
  cases piece <;> rfl

/-! ## Characters are written as they were read -/

theorem toNat_ofNat {value : Nat} (valid : value.isValidChar) : (Char.ofNat value).toNat = value := by
  rw [Char.ofNat, dif_pos valid]
  rfl

theorem utf8EncodeChar_ofNat {value : Nat} (valid : value.isValidChar) :
    String.utf8EncodeChar (Char.ofNat value) =
      if value ≤ 127 then [UInt8.ofNat value]
      else if value ≤ 2047 then [UInt8.ofNat (value / 64 % 32 + 192), UInt8.ofNat (value % 64 + 128)]
      else if value ≤ 65535 then
        [UInt8.ofNat (value / 4096 % 16 + 224), UInt8.ofNat (value / 64 % 64 + 128),
          UInt8.ofNat (value % 64 + 128)]
      else
        [UInt8.ofNat (value / 262144 % 8 + 240), UInt8.ofNat (value / 4096 % 64 + 128),
          UInt8.ofNat (value / 64 % 64 + 128), UInt8.ofNat (value % 64 + 128)] := by
  have number : (Char.ofNat value).val.toNat = value := toNat_ofNat valid
  simp only [String.utf8EncodeChar, number]

/-- Bytes that lie in ranges one by one. -/
abbrev InRanges (ranges : List (UInt8 × UInt8)) (follow : Bytes) : Prop :=
  List.Forall₂ (fun range byte => range.1 ≤ byte ∧ byte ≤ range.2) ranges follow

theorem inRanges_takeFollowers {ranges : List (UInt8 × UInt8)} {bytes follow rest : Bytes}
    (taken : takeFollowers ranges bytes = (follow, true, rest)) :
    InRanges ranges follow := by
  fun_induction takeFollowers ranges bytes generalizing follow with
  | case1 =>
    cases taken
    exact .nil
  | case2 => cases taken
  | case3 low high ranges byte bytes inside tail complete rest' found ih =>
    cases taken
    exact .cons inside (ih found)
  | case4 => cases taken

private theorem ofNat_eq (byte : UInt8) {value : Nat} (same : value = byte.toNat) :
    UInt8.ofNat value = byte := by
  rw [same, UInt8.ofNat_toNat]

section Encoded

variable {lead second third fourth : UInt8} {value : Nat}

theorem encoded_one (point : value = lead.toNat) (leads : lead.toNat < 128) :
    String.utf8EncodeChar (Char.ofNat value) = [lead] := by
  rw [utf8EncodeChar_ofNat (.inl (by omega)), if_pos (by omega), ofNat_eq lead point]

theorem encoded_two (point : value = lead.toNat % 32 * 64 + second.toNat % 64)
    (leads : 194 ≤ lead.toNat ∧ lead.toNat < 224)
    (last : 128 ≤ second.toNat ∧ second.toNat ≤ 191) :
    String.utf8EncodeChar (Char.ofNat value) = [lead, second] := by
  rw [utf8EncodeChar_ofNat (.inl (by omega)), if_neg (by omega), if_pos (by omega),
    ofNat_eq lead (by omega), ofNat_eq second (by omega)]

theorem encoded_three
    (point : value = (lead.toNat % 16 * 64 + second.toNat % 64) * 64 + third.toNat % 64)
    (leads : 224 ≤ lead.toNat ∧ lead.toNat < 240)
    (middle : 128 ≤ second.toNat ∧ second.toNat ≤ 191)
    (last : 128 ≤ third.toNat ∧ third.toNat ≤ 191) (long : 2048 ≤ value)
    (valid : value.isValidChar) :
    String.utf8EncodeChar (Char.ofNat value) = [lead, second, third] := by
  rw [utf8EncodeChar_ofNat valid, if_neg (by omega), if_neg (by omega), if_pos (by omega),
    ofNat_eq lead (by omega), ofNat_eq second (by omega), ofNat_eq third (by omega)]

theorem encoded_four
    (point : value = ((lead.toNat % 8 * 64 + second.toNat % 64) * 64 + third.toNat % 64) * 64 +
      fourth.toNat % 64)
    (leads : 240 ≤ lead.toNat ∧ lead.toNat < 248)
    (middle : 128 ≤ second.toNat ∧ second.toNat ≤ 191)
    (other : 128 ≤ third.toNat ∧ third.toNat ≤ 191)
    (last : 128 ≤ fourth.toNat ∧ fourth.toNat ≤ 191) (long : 65536 ≤ value)
    (valid : value.isValidChar) :
    String.utf8EncodeChar (Char.ofNat value) = [lead, second, third, fourth] := by
  rw [utf8EncodeChar_ofNat valid, if_neg (by omega), if_neg (by omega), if_neg (by omega),
    ofNat_eq lead (by omega), ofNat_eq second (by omega), ofNat_eq third (by omega),
    ofNat_eq fourth (by omega)]

/-- A lead byte and followers in its ranges are how the character they stand for is written. -/
theorem utf8EncodeChar_codePoint {follow : Bytes} {ranges : List (UInt8 × UInt8)}
    (leads : followers lead = some ranges)
    (follows : InRanges ranges follow) :
    String.utf8EncodeChar (Char.ofNat (codePoint lead follow)) = lead :: follow := by
  unfold followers at leads
  simp only [UInt8.lt_iff_toNat_lt, ← UInt8.toNat_inj, UInt8.reduceToNat] at leads
  simp only [InRanges, UInt8.le_iff_toNat_le] at follows
  -- one case for each range of lead bytes, with as many followers as it asks for
  repeat' split at leads
  all_goals cases leads
  all_goals
    simp only [List.forall₂_cons_left_iff, List.forall₂_nil_left_iff, UInt8.reduceToNat] at follows
  · cases follows
    exact encoded_one rfl (by omega)
  · obtain ⟨second, -, last, rfl, rfl⟩ := follows
    exact encoded_two rfl (by omega) last
  -- the bounds on the second byte keep out long forms, surrogates and numbers beyond the last character
  iterate 3
    obtain ⟨second, -, middle, ⟨third, -, last, rfl, rfl⟩, rfl⟩ := follows
    have point : codePoint lead [second, third] =
      (lead.toNat % 16 * 64 + second.toNat % 64) * 64 + third.toNat % 64 := rfl
    refine encoded_three point (by omega) (by omega) last (by omega) ?_
    unfold Nat.isValidChar
    omega
  iterate 3
    obtain ⟨second, -, middle, ⟨third, -, other, ⟨fourth, -, last, rfl, rfl⟩, rfl⟩, rfl⟩ := follows
    have point : codePoint lead [second, third, fourth] =
      ((lead.toNat % 8 * 64 + second.toNat % 64) * 64 + third.toNat % 64) * 64 +
        fourth.toNat % 64 := rfl
    exact encoded_four point (by omega) (by omega) other last (by omega) (.inr (by omega))

end Encoded

/-- A character is written as it was read. -/
theorem utf8EncodeChar_of_mem {value : Char} {part bytes : Bytes}
    (member : .character value part ∈ pieces bytes) : String.utf8EncodeChar value = part := by
  fun_induction pieces bytes with
  | case1 => cases member
  | case2 lead rest ih =>
    rcases List.mem_cons.1 member with first | behind
    · unfold firstPiece at first
      split at first
      · cases first
      · rename_i leads
        split at first
        · rename_i taken
          cases first
          exact utf8EncodeChar_codePoint leads (inRanges_takeFollowers taken)
        · cases first
    · exact ih behind

/-! ## Characters are read as they were written -/

/-- Followers that lie in their ranges are taken. -/
theorem takeFollowers_of_inRanges {ranges : List (UInt8 × UInt8)} {follow : Bytes} (rest : Bytes)
    (follows : InRanges ranges follow) :
    takeFollowers ranges (follow ++ rest) = (follow, true, rest) := by
  induction follows with
  | nil => rfl
  | @cons range byte ranges follow inside _ ih =>
    rw [List.cons_append, takeFollowers, if_pos inside, ih]

theorem followers_eq (lead : UInt8) : followers lead =
    if lead.toNat < 128 then some []
    else if lead.toNat < 194 then none
    else if lead.toNat < 224 then some [(0x80, 0xBF)]
    else if lead.toNat = 224 then some [(0xA0, 0xBF), (0x80, 0xBF)]
    else if lead.toNat = 237 then some [(0x80, 0x9F), (0x80, 0xBF)]
    else if lead.toNat < 240 then some [(0x80, 0xBF), (0x80, 0xBF)]
    else if lead.toNat = 240 then some [(0x90, 0xBF), (0x80, 0xBF), (0x80, 0xBF)]
    else if lead.toNat < 244 then some [(0x80, 0xBF), (0x80, 0xBF), (0x80, 0xBF)]
    else if lead.toNat = 244 then some [(0x80, 0x8F), (0x80, 0xBF), (0x80, 0xBF)]
    else none := by
  simp only [followers, UInt8.lt_iff_toNat_lt, ← UInt8.toNat_inj, UInt8.reduceToNat]

/-- A lead byte of three: long forms and surrogates are kept out by the second byte. -/
theorem followers_three {lead : UInt8} (leads : 224 ≤ lead.toNat ∧ lead.toNat < 240) :
    ∃ low high, followers lead = some [(low, high), (0x80, 0xBF)] ∧
      low.toNat = (if lead.toNat = 224 then 160 else 128) ∧
      high.toNat = if lead.toNat = 237 then 159 else 191 := by
  rw [followers_eq, if_neg (by omega), if_neg (by omega), if_neg (by omega)]
  by_cases least : lead.toNat = 224
  · rw [if_pos least]
    exact ⟨_, _, rfl, by rw [if_pos least]; rfl, by rw [if_neg (by omega)]; rfl⟩
  · rw [if_neg least]
    by_cases surrogate : lead.toNat = 237
    · rw [if_pos surrogate]
      exact ⟨_, _, rfl, by rw [if_neg least]; rfl, by rw [if_pos surrogate]; rfl⟩
    · rw [if_neg surrogate, if_pos leads.2]
      exact ⟨_, _, rfl, by rw [if_neg least]; rfl, by rw [if_neg surrogate]; rfl⟩

/-- A lead byte of four: long forms and numbers beyond the last character are kept out by the second
byte. -/
theorem followers_four {lead : UInt8} (leads : 240 ≤ lead.toNat ∧ lead.toNat ≤ 244) :
    ∃ low high, followers lead = some [(low, high), (0x80, 0xBF), (0x80, 0xBF)] ∧
      low.toNat = (if lead.toNat = 240 then 144 else 128) ∧
      high.toNat = if lead.toNat = 244 then 143 else 191 := by
  rw [followers_eq, if_neg (by omega), if_neg (by omega), if_neg (by omega), if_neg (by omega),
    if_neg (by omega), if_neg (by omega)]
  by_cases least : lead.toNat = 240
  · rw [if_pos least]
    exact ⟨_, _, rfl, by rw [if_pos least]; rfl, by rw [if_neg (by omega)]; rfl⟩
  · rw [if_neg least]
    by_cases last : lead.toNat = 244
    · rw [if_neg (by omega), if_pos last]
      exact ⟨_, _, rfl, by rw [if_neg least]; rfl, by rw [if_pos last]; rfl⟩
    · rw [if_pos (by omega)]
      exact ⟨_, _, rfl, by rw [if_neg least]; rfl, by rw [if_neg last]; rfl⟩

/-- A character is written as a lead byte and followers in its ranges. -/
theorem exists_followers (c : Char) : ∃ lead follow ranges,
    String.utf8EncodeChar c = lead :: follow ∧ followers lead = some ranges ∧ InRanges ranges follow := by
  have valid : c.toNat.isValidChar := c.valid
  rw [← Char.ofNat_toNat c, utf8EncodeChar_ofNat valid]
  unfold Nat.isValidChar at valid
  generalize c.toNat = value at valid
  have byte {part : Nat} (small : part < 256) : (UInt8.ofNat part).toNat = part :=
    UInt8.toNat_ofNat_of_lt' small
  have follower {part : Nat} (small : part < 64) :
      (0x80 : UInt8) ≤ UInt8.ofNat (part + 128) ∧ UInt8.ofNat (part + 128) ≤ (0xBF : UInt8) := by
    rw [UInt8.le_iff_toNat_le, UInt8.le_iff_toNat_le, byte (by omega)]
    simp only [UInt8.reduceToNat]
    omega
  -- one case for each number of bytes
  split
  · refine ⟨_, _, [], rfl, ?_, .nil⟩
    rw [followers_eq, byte (by omega), if_pos (by omega)]
  · split
    · refine ⟨_, _, [(0x80, 0xBF)], rfl, ?_, .cons (follower (by omega)) .nil⟩
      rw [followers_eq, byte (by omega), if_neg (by omega), if_neg (by omega), if_pos (by omega)]
    · split
      · have three : 224 ≤ (UInt8.ofNat (value / 4096 % 16 + 224)).toNat ∧
            (UInt8.ofNat (value / 4096 % 16 + 224)).toNat < 240 := by
          rw [byte (by omega)]
          omega
        obtain ⟨low, high, leads, least, most⟩ := followers_three three
        refine ⟨_, _, _, rfl, leads, .cons ?_ (.cons (follower (by omega)) .nil)⟩
        rw [byte (by omega)] at least most
        rw [UInt8.le_iff_toNat_le, UInt8.le_iff_toNat_le, byte (by omega), least, most]
        split <;> split <;> omega
      · have four : 240 ≤ (UInt8.ofNat (value / 262144 % 8 + 240)).toNat ∧
            (UInt8.ofNat (value / 262144 % 8 + 240)).toNat ≤ 244 := by
          rw [byte (by omega)]
          omega
        obtain ⟨low, high, leads, least, most⟩ := followers_four four
        refine ⟨_, _, _, rfl, leads,
          .cons ?_ (.cons (follower (by omega)) (.cons (follower (by omega)) .nil))⟩
        rw [byte (by omega)] at least most
        rw [UInt8.le_iff_toNat_le, UInt8.le_iff_toNat_le, byte (by omega), least, most]
        split <;> split <;> omega

/-- A character is written in one way only. -/
theorem utf8EncodeChar_inj {c d : Char} (same : String.utf8EncodeChar c = String.utf8EncodeChar d) :
    c = d := by
  have one : ((String.utf8EncodeChar c).toByteArray ++ ByteArray.empty).utf8DecodeChar? 0 = some c :=
    ByteArray.utf8DecodeChar?_utf8EncodeChar_append
  rw [same, ByteArray.utf8DecodeChar?_utf8EncodeChar_append] at one
  exact (Option.some.inj one).symm

/-- A character that was written is read back, whatever follows it. -/
theorem pieces_utf8EncodeChar (c : Char) (rest : Bytes) :
    pieces (String.utf8EncodeChar c ++ rest) =
      .character c (String.utf8EncodeChar c) :: pieces rest := by
  obtain ⟨lead, follow, ranges, written, leads, follows⟩ := exists_followers c
  -- what is read is written with the same bytes, so it is the same character
  have same : Char.ofNat (codePoint lead follow) = c := by
    refine utf8EncodeChar_inj ?_
    rw [utf8EncodeChar_codePoint leads follows, written]
  have first : firstPiece lead (follow ++ rest) = (.character c (lead :: follow), rest) := by
    simp only [firstPiece, leads, takeFollowers_of_inRanges rest follows, same]
  rw [written, List.cons_append, pieces, first]

theorem pieces_encode (text : List Char) :
    pieces (encode text) = text.map fun c => .character c (String.utf8EncodeChar c) := by
  induction text with
  | nil => rw [encode, List.flatMap_nil, pieces, List.map_nil]
  | cons c text ih =>
    rw [encode, List.flatMap_cons, pieces_utf8EncodeChar, List.map_cons]
    exact congrArg _ ih

theorem decodeLossy_encode (text : List Char) : decodeLossy (encode text) = String.ofList text := by
  rw [decodeLossy_eq, pieces_encode, List.map_map]
  exact congrArg String.ofList (List.map_id text)

/-- The byte strings that are well formed throughout are those of texts. -/
theorem decode?_eq_some_iff {bytes : Bytes} {text : List Char} :
    decode? bytes = some text ↔ bytes = encode text := by
  rw [decode?]
  constructor
  · intro read
    rw [← bytes_pieces bytes]
    have faithful : ∀ value part, .character value part ∈ pieces bytes →
        String.utf8EncodeChar value = part := fun _ _ => utf8EncodeChar_of_mem
    -- by induction on the parts, which matters no more where they come from
    generalize pieces bytes = parts at read faithful ⊢
    induction parts generalizing text with
    | nil =>
      cases read
      rfl
    | cons piece parts ih =>
      rw [List.mapM_cons] at read
      obtain ⟨value, shown, read⟩ := Option.bind_eq_some_iff.1 read
      obtain ⟨others, behind, same⟩ := Option.bind_eq_some_iff.1 read
      cases same
      cases piece with
      | broken part => cases shown
      | character char part =>
        cases shown
        have rest := ih behind fun value part member => faithful value part (List.mem_cons_of_mem _ member)
        rw [List.flatMap_cons, rest, encode, encode, List.flatMap_cons,
          faithful value part List.mem_cons_self, Piece.bytes]
  · rintro rfl
    rw [pieces_encode]
    induction text with
    | nil => rfl
    | cons c text ih =>
      rw [List.map_cons, List.mapM_cons, ih]
      rfl

/-! ## Text of ASCII -/

/-- The character of a byte below 128. -/
def asciiChar (byte : UInt8) : Char := Char.ofNat byte.toNat

theorem asciiChar_inj : Function.Injective asciiChar := by
  intro byte other same
  have bound := byte.toNat_lt
  have limit := other.toNat_lt
  have number := congrArg Char.toNat same
  rw [asciiChar, asciiChar, toNat_ofNat (.inl (by omega)), toNat_ofNat (.inl (by omega))] at number
  exact UInt8.toNat_inj.1 number

theorem pieces_ascii {bytes : Bytes} (ascii : ∀ byte ∈ bytes, byte < 0x80) :
    pieces bytes = bytes.map fun byte => .character (asciiChar byte) [byte] := by
  induction bytes with
  | nil => rw [pieces, List.map_nil]
  | cons lead rest ih =>
    obtain ⟨small, others⟩ := List.forall_mem_cons.1 ascii
    have leads : followers lead = some [] := if_pos small
    have first : firstPiece lead rest = (.character (asciiChar lead) [lead], rest) := by
      simp only [firstPiece, leads, takeFollowers]
      rfl
    rw [pieces, first, ih others, List.map_cons]

theorem decodeLossy_ascii {bytes : Bytes} (ascii : ∀ byte ∈ bytes, byte < 0x80) :
    decodeLossy bytes = String.ofList (bytes.map asciiChar) := by
  rw [decodeLossy_eq, pieces_ascii ascii, List.map_map]
  rfl

end ChainScenario.Utf8
