import ChainScenario.Proofs.Characters
import ChainScenario.Text.Quoted
import Mathlib.Algebra.GroupWithZero.Nat

/-!
# Quoted text read back

A quoted text is taken apart into units, each a character, an escape of one letter or an escape of a
fixed number of digits. Whatever characters are spelled out, every unit stands for the same bytes, so the
text determines the bytes. Main statement: `quoting_unambiguous`.
-/
namespace ChainScenario.Quoted

/-! ## The reader -/

/-- The value of a hexadecimal digit, with small letters. -/
def digit? (c : Char) : Option Nat :=
  if c.isDigit then some (c.toNat - 48)
  else if 97 ≤ c.toNat ∧ c.toNat ≤ 102 then some (c.toNat - 87)
  else none

/-- The number that `count` digits continue, and what follows them. -/
def number? : Nat → Nat → List Char → Option (Nat × List Char)
  | 0, value, text => some (value, text)
  | _ + 1, _, [] => none
  | count + 1, value, c :: text =>
    match digit? c with
    | some digit => number? count (value * 16 + digit) text
    | none => none

/-- The character that a letter behind a backslash stands for. -/
def letter? : Char → Option Char
  | '"' => some '"'
  | '\\' => some '\\'
  | 'a' => some '\x07'
  | 'b' => some '\x08'
  | 'f' => some '\x0c'
  | 'n' => some '\n'
  | 'r' => some '\r'
  | 't' => some '\t'
  | 'v' => some '\x0b'
  | _ => none

/-- The bytes that `count` digits stand for, and what follows them. -/
def coded? (count : Nat) (bytes : Nat → Bytes) (text : List Char) : Option (Bytes × List Char) :=
  (number? count 0 text).map fun read => (bytes read.1, read.2)

/-- The bytes of the character with a number. -/
def charBytes (value : Nat) : Bytes := String.utf8EncodeChar (Char.ofNat value)

/-- The bytes of an escape behind its backslash, and what follows it. -/
def escape? : List Char → Option (Bytes × List Char)
  | [] => none
  | c :: text =>
    if c = 'x' then coded? 2 (fun value => [UInt8.ofNat value]) text
    else if c = 'u' then coded? 4 charBytes text
    else if c = 'U' then coded? 8 charBytes text
    else (letter? c).map fun char => (String.utf8EncodeChar char, text)

/-- The bytes of the first unit, and what follows it. -/
def unit? : List Char → Option (Bytes × List Char)
  | [] => none
  | c :: text =>
    if c = '\\' then escape? text
    else if c = '"' then none
    else some (String.utf8EncodeChar c, text)

theorem length_number? {count value : Nat} {text : List Char} {read : Nat × List Char}
    (found : number? count value text = some read) : read.2.length ≤ text.length := by
  fun_induction number? count value text with
  | case1 =>
    cases found
    exact Nat.le_refl _
  | case2 => cases found
  | case3 count value c text digit worth ih => exact Nat.le_succ_of_le (ih found)
  | case4 => cases found

theorem length_coded? {count : Nat} {bytes : Nat → Bytes} {text : List Char}
    {read : Bytes × List Char} (found : coded? count bytes text = some read) :
    read.2.length ≤ text.length := by
  obtain ⟨number, digits, rfl⟩ := Option.map_eq_some_iff.1 found
  exact length_number? digits

theorem length_escape? {text : List Char} {read : Bytes × List Char}
    (found : escape? text = some read) : read.2.length ≤ text.length := by
  cases text with
  | nil => cases found
  | cons c text =>
    rw [List.length_cons]
    rw [escape?] at found
    split at found
    · exact Nat.le_succ_of_le (length_coded? found)
    · split at found
      · exact Nat.le_succ_of_le (length_coded? found)
      · split at found
        · exact Nat.le_succ_of_le (length_coded? found)
        · obtain ⟨char, -, rfl⟩ := Option.map_eq_some_iff.1 found
          exact Nat.le_succ _

theorem length_unit? {text : List Char} {read : Bytes × List Char} (found : unit? text = some read) :
    read.2.length < text.length := by
  cases text with
  | nil => cases found
  | cons c text =>
    rw [List.length_cons]
    rw [unit?] at found
    split at found
    · exact Nat.lt_succ_of_le (length_escape? found)
    · split at found
      · cases found
      · cases found
        exact Nat.lt_succ_self _

/-- The bytes of the units up to the closing quote. -/
def unquoteBody (text : List Char) : Option Bytes :=
  if text = ['"'] then some []
  else
    match _found : unit? text with
    | some (bytes, rest) => (unquoteBody rest).map (bytes ++ ·)
    | none => none
termination_by text.length
decreasing_by exact length_unit? _found

/-- The bytes that a quoted text stands for. -/
def unquote : List Char → Option Bytes
  | [] => none
  | c :: text => if c = '"' then unquoteBody text else none

/-! ## Units -/

/-- A text stands for bytes, whatever follows it. -/
def Spells (text : List Char) (bytes : Bytes) : Prop :=
  ∀ rest, unquoteBody (text ++ rest) = (unquoteBody rest).map (bytes ++ ·)

theorem spells_nil : Spells [] [] := by
  intro rest
  rw [List.nil_append]
  cases unquoteBody rest <;> rfl

theorem Spells.append {text others : List Char} {bytes behind : Bytes} (first : Spells text bytes)
    (second : Spells others behind) : Spells (text ++ others) (bytes ++ behind) := by
  intro rest
  rw [List.append_assoc, first, second, Option.map_map]
  congr 1
  funext tail
  exact (List.append_assoc _ _ _).symm

/-- What is spelled item by item is spelled as a whole. -/
theorem spells_flatMap {α : Type} {items : List α} {text : α → List Char} {bytes : α → Bytes}
    (each : ∀ item ∈ items, Spells (text item) (bytes item)) :
    Spells (items.flatMap text) (items.flatMap bytes) := by
  induction items with
  | nil => exact spells_nil
  | cons item items ih =>
    obtain ⟨first, others⟩ := List.forall_mem_cons.1 each
    exact first.append (ih others)

/-- One unit spells its bytes. -/
theorem spells_unit {text : List Char} {bytes : Bytes}
    (unit : ∀ rest, unit? (text ++ rest) = some (bytes, rest)) : Spells text bytes := by
  intro rest
  -- the closing quote is no unit, so the text does not end here
  have inside : text ++ rest ≠ ['"'] := by
    intro closing
    have read := unit rest
    rw [closing] at read
    cases read
  rw [unquoteBody, if_neg inside]
  split
  · rename_i found
    rw [unit] at found
    cases found
    rfl
  · rename_i found
    rw [unit] at found
    cases found

/-! ## Digits -/

theorem digit?_digitChar : ∀ digit < 16, digit? (Nat.digitChar digit) = some digit := by decide

/-- Characters that are digits are read one after another. -/
theorem number?_spelled {text : List Char} {digits : List Nat}
    (spelled : List.Forall₂ (fun c digit => digit? c = some digit) text digits) (start : Nat)
    (rest : List Char) :
    number? text.length start (text ++ rest) =
      some (digits.foldl (fun value digit => value * 16 + digit) start, rest) := by
  induction spelled generalizing start with
  | nil => rfl
  | cons worth _ ih =>
    rw [List.length_cons, List.cons_append, number?, worth, List.foldl_cons]
    exact ih _

theorem toDigits_spelled (value : Nat) : ∃ digits,
    List.Forall₂ (fun c digit => digit? c = some digit) (Nat.toDigits 16 value) digits ∧
      digits.foldl (fun value digit => value * 16 + digit) 0 = value := by
  induction value using Nat.strongRecOn with
  | ind value ih =>
    rw [Nat.toDigits_eq_if (by decide)]
    split
    · rename_i small
      exact ⟨[value], .cons (digit?_digitChar value small) .nil, by simp⟩
    · -- the remainder is the last digit, behind those of the quotient
      obtain ⟨digits, spelled, denoted⟩ := ih (value / 16) (by omega)
      refine ⟨digits ++ [value % 16], ?_, ?_⟩
      · exact List.rel_append spelled (.cons (digit?_digitChar _ (Nat.mod_lt _ (by decide))) .nil)
      · rw [List.foldl_append, denoted, List.foldl_cons, List.foldl_nil]
        omega

theorem zeros_spelled (count : Nat) : List.Forall₂ (fun c digit => digit? c = some digit)
    (List.replicate count '0') (List.replicate count 0) := by
  induction count with
  | zero => exact .nil
  | succ count ih => exact .cons rfl ih

theorem foldl_zeros (count : Nat) :
    (List.replicate count 0).foldl (fun value digit => value * 16 + digit) 0 = 0 := by
  induction count with
  | zero => rfl
  | succ count ih => exact ih

/-- A number on enough digits is read back from them. -/
theorem number?_natDigits {width value : Nat} (filled : 0 < width) (small : value < 16 ^ width)
    (rest : List Char) :
    number? width 0 (Hex.natDigits width value ++ rest) = some (value, rest) := by
  obtain ⟨digits, spelled, denoted⟩ := toDigits_spelled value
  have fits : (Nat.toDigits 16 value).length ≤ width :=
    (Nat.length_toDigits_le_iff (by decide) filled).2 small
  have whole : (Hex.natDigits width value).length = width := by
    simp only [Hex.natDigits, List.length_append, List.length_replicate]
    omega
  have read := number?_spelled
    (List.rel_append (zeros_spelled (width - (Nat.toDigits 16 value).length)) spelled) 0 rest
  rw [List.foldl_append, foldl_zeros, denoted] at read
  change number? (Hex.natDigits width value).length 0 (Hex.natDigits width value ++ rest) = _ at read
  rwa [whole] at read

theorem coded?_natDigits {width value : Nat} (filled : 0 < width) (small : value < 16 ^ width)
    (bytes : Nat → Bytes) (rest : List Char) :
    coded? width bytes (Hex.natDigits width value ++ rest) = some (bytes value, rest) := by
  rw [coded?, number?_natDigits filled small, Option.map_some]

/-! ## Characters and bytes -/

theorem spells_byteEscape {value : Nat} (small : value < 256) :
    Spells (byteEscape value) [UInt8.ofNat value] := by
  refine spells_unit fun rest => ?_
  rw [byteEscape, List.cons_append, List.cons_append, unit?, if_pos rfl, escape?, if_pos rfl]
  exact coded?_natDigits (by decide) small _ rest

/-- The letter behind a backslash stands for the character that is written so. -/
theorem letter?_of_escape {c letter : Char} (escapes : letterEscape? c = some letter) :
    letter? letter = some c ∧ letter ∉ ['x', 'u', 'U'] := by
  unfold letterEscape? at escapes
  -- an escape of one letter is given for a known number
  rw [← Char.ofNat_toNat c]
  split at escapes <;> cases escapes
  all_goals
    rename_i number
    rw [number]
    exact ⟨rfl, by decide⟩

section Characters

variable {c : Char}

theorem spells_letter {letter : Char} (escapes : letterEscape? c = some letter) :
    Spells ['\\', letter] (String.utf8EncodeChar c) := by
  obtain ⟨stands, other⟩ := letter?_of_escape escapes
  simp only [List.mem_cons, List.not_mem_nil, or_false, not_or] at other
  refine spells_unit fun rest => ?_
  rw [List.cons_append, List.cons_append, List.nil_append, unit?, if_pos rfl, escape?,
    if_neg other.1, if_neg other.2.1, if_neg other.2.2, stands, Option.map_some]

/-- A character without an escape is neither a backslash nor a quote, and stands for itself. -/
theorem spells_plain (plain : letterEscape? c = none) : Spells [c] (String.utf8EncodeChar c) := by
  have backslash : c ≠ '\\' := by
    rintro rfl
    cases plain
  have quote : c ≠ '"' := by
    rintro rfl
    cases plain
  refine spells_unit fun rest => ?_
  rw [List.cons_append, List.nil_append, unit?, if_neg backslash, if_neg quote]

theorem spells_ascii (ascii : c.toNat < 0x80) :
    Spells (byteEscape c.toNat) (String.utf8EncodeChar c) := by
  have one : String.utf8EncodeChar (Char.ofNat c.toNat) = _ := Utf8.utf8EncodeChar_ofNat c.valid
  rw [Char.ofNat_toNat, if_pos (Nat.le_of_lt_succ ascii)] at one
  rw [one]
  exact spells_byteEscape (by omega)

theorem charBytes_toNat (c : Char) : charBytes c.toNat = String.utf8EncodeChar c := by
  rw [charBytes, Char.ofNat_toNat]

theorem spells_four (small : c.toNat < 0x10000) :
    Spells ('\\' :: 'u' :: Hex.natDigits 4 c.toNat) (String.utf8EncodeChar c) := by
  refine spells_unit fun rest => ?_
  rw [List.cons_append, List.cons_append, unit?, if_pos rfl, escape?, if_neg (by decide), if_pos rfl,
    coded?_natDigits (by decide) small, charBytes_toNat]

theorem spells_eight (c : Char) :
    Spells ('\\' :: 'U' :: Hex.natDigits 8 c.toNat) (String.utf8EncodeChar c) := by
  have valid : c.toNat.isValidChar := c.valid
  unfold Nat.isValidChar at valid
  refine spells_unit fun rest => ?_
  rw [List.cons_append, List.cons_append, unit?, if_pos rfl, escape?, if_neg (by decide),
    if_neg (by decide), if_pos rfl, coded?_natDigits (by decide) (by omega), charBytes_toNat]

/-- A character stands for its own bytes, in whichever way it is shown. -/
theorem spells_character (spelled : Char → Bool) (c : Char) :
    Spells (character spelled c) (String.utf8EncodeChar c) := by
  rw [character]
  split
  · rename_i letter escapes
    exact spells_letter escapes
  · rename_i plain
    split
    · exact spells_plain plain
    · split
      · rename_i ascii
        exact spells_ascii ascii
      · split
        · split
          · rename_i small
            exact spells_four small
          · exact spells_eight c
        · exact spells_plain plain

end Characters

/-- A part spells the bytes that it was read from. -/
theorem spells_piece (spelled : Char → Bool) {bytes : Bytes} {part : Utf8.Piece}
    (member : part ∈ Utf8.pieces bytes) : Spells (piece spelled part) part.bytes := by
  cases part with
  | character value own =>
    rw [piece, Utf8.Piece.bytes, ← Utf8.utf8EncodeChar_of_mem member]
    exact spells_character spelled value
  | broken part =>
    have each : Spells (part.flatMap fun byte => byteEscape byte.toNat)
        (part.flatMap fun byte => [UInt8.ofNat byte.toNat]) :=
      spells_flatMap fun byte _ => spells_byteEscape byte.toNat_lt
    have same : (part.flatMap fun byte => [UInt8.ofNat byte.toNat]) = part := by simp
    rw [same] at each
    exact each

theorem unquote_chars (spelled : Char → Bool) (bytes : Bytes) :
    unquote (chars spelled bytes) = some bytes := by
  have each : ∀ part ∈ Utf8.pieces bytes, Spells (piece spelled part) part.bytes :=
    fun _ member => spells_piece spelled member
  have body := spells_flatMap each
  rw [Utf8.bytes_pieces] at body
  have closed : unquoteBody ['"'] = some [] := by rw [unquoteBody, if_pos rfl]
  rw [chars, unquote, if_pos rfl, body, closed, Option.map_some, List.append_nil]

/-- Quoted bytes can be read back without knowing which characters are spelled out, so no two byte
strings look the same in quotes, not even if different characters are spelled out in them. -/
theorem quoting_unambiguous :
    (∀ spelled bytes, unquote (chars spelled bytes) = some bytes) ∧
    (∀ spelled other bytes others, chars spelled bytes = chars other others → bytes = others) ∧
    (∀ bytes, unquote (render bytes).toList = some bytes) ∧ Function.Injective render := by
  have shown (bytes : Bytes) : unquote (render bytes).toList = some bytes := by
    rw [render, String.toList_ofList, unquote_chars]
  refine ⟨unquote_chars, fun spelled other bytes others same => ?_, shown, fun bytes others same => ?_⟩
  · have read := unquote_chars spelled bytes
    rw [same, unquote_chars] at read
    exact (Option.some.inj read).symm
  · have read := shown bytes
    rw [same, shown] at read
    exact (Option.some.inj read).symm

end ChainScenario.Quoted
