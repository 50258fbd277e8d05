import ChainScenario.Proofs.KnownFields
import ChainScenario.Proofs.Marks
import ChainScenario.Proofs.TwosComplement
import Mathlib.Data.List.Forall2
import Mathlib.Data.Nat.Digits.Defs

/-!
# Literals as natural numbers

A literal is a sign, if any, and digits in one of three bases with separators among them. Its digits are
read exactly in each base; a literal with a sign goes through two's complement, where a natural number
is read out of the bytes of a negative one. Main statement: `natural_literal`, what the two readers of
natural numbers make of any literal.
-/
namespace ChainScenario
namespace Expression

/-- The base of a literal. -/
inductive Base where
  | decimal
  | hexadecimal
  | binary

def Base.radix : Base → Nat
  | .decimal => 10
  | .hexadecimal => 16
  | .binary => 2

/-- What stands in front of the digits. -/
def Base.mark : Base → List Char
  | .decimal => []
  | .hexadecimal => ['0', 'x']
  | .binary => ['0', 'b']

inductive Sign where
  | plus
  | minus

def Sign.char : Sign → Char
  | .plus => '+'
  | .minus => '-'

/-- The character of a digit; capitals matter above nine only. -/
def digitChar (value : Nat) (capital : Bool) : Char :=
  if capital then (Nat.digitChar value).toUpper else Nat.digitChar value

/-- One character after the mark of a literal. -/
inductive Place (base : Base) where
  | digit (value : Fin base.radix) (capital : Bool)
  | underscore
  | comma

namespace Place

variable {base : Base}

def char : Place base → Char
  | digit value capital => digitChar value capital
  | underscore => '_'
  | comma => ','

def digit? : Place base → Option Nat
  | digit value _ => some value
  | underscore => none
  | comma => none

end Place

/-- A number as it is written: a sign or none, and at least one digit among separators. -/
structure Literal where
  sign : Option Sign
  base : Base
  places : List (Place base)
  some_digit : places.filterMap Place.digit? ≠ []

namespace Literal

/-- The digits, most significant first. -/
def digits (literal : Literal) : List Nat := literal.places.filterMap Place.digit?

def magnitude (literal : Literal) : Nat := Nat.ofDigits literal.base.radix literal.digits.reverse

/-- The integer a literal denotes. -/
def value (literal : Literal) : Int :=
  match literal.sign with
  | some .minus => -literal.magnitude
  | _ => literal.magnitude

/-- What follows the sign. -/
def body (literal : Literal) : List Char := literal.base.mark ++ literal.places.map Place.char

def chars (literal : Literal) : List Char := (literal.sign.map Sign.char).toList ++ literal.body

def text (literal : Literal) : String := String.ofList literal.chars

end Literal

section Digits

/-- Reading digits from the most significant one on, behind a number read before. -/
theorem foldl_eq_ofDigits (radix start : Nat) (digits : List Nat) :
    digits.foldl (fun value digit => value * radix + digit) start =
      Nat.ofDigits radix (digits.reverse ++ [start]) := by
  induction digits generalizing start with
  | nil => simp
  | cons digit digits ih =>
    rw [List.foldl_cons, ih]
    simp [Nat.ofDigits_append, Nat.ofDigits_cons, Nat.mul_comm, Nat.add_comm]

theorem foldl_zero_eq_ofDigits (radix : Nat) (digits : List Nat) :
    digits.foldl (fun value digit => value * radix + digit) 0 =
      Nat.ofDigits radix digits.reverse := by
  rw [foldl_eq_ofDigits, Nat.ofDigits_append]
  simp

/-- Characters that spell digits in a base up to ten denote what the digits do. -/
theorem ofDigits?_spelled {radix : Nat} {chars : List Char} {digits : List Nat}
    (spelled : List.Forall₂ (fun c digit => digitBelow? radix c = some digit) chars digits) :
    ofDigits? radix chars = some (Nat.ofDigits radix digits.reverse) := by
  have read (start : Nat) :
      chars.foldlM (fun value c => (digitBelow? radix c).map (value * radix + ·)) start =
        some (digits.foldl (fun value digit => value * radix + digit) start) := by
    induction spelled generalizing start with
    | nil => rfl
    | cons first _ ih => rw [List.foldlM_cons, first]; exact ih _
  rw [ofDigits?, read, foldl_zero_eq_ofDigits]

theorem natural?_spelled (radix : Nat) {chars : List Char} {digits : List Nat}
    (spelled : List.Forall₂ (fun c digit => digitBelow? radix c = some digit) chars digits)
    (some_digit : digits ≠ []) :
    natural? radix chars = some (Nat.ofDigits radix digits.reverse) := by
  cases spelled with
  | nil => exact absurd rfl some_digit
  | @cons c digit rest others first behind =>
    have unsigned : c ≠ '+' := by
      rintro rfl
      cases first
    have digitsOnly : natural? radix (c :: rest) = ofDigits? radix (c :: rest) := by
      unfold natural?
      split
      · rename_i same
        exact absurd (List.cons.inj same).1 unsigned
      · rename_i same
        exact absurd (List.cons.inj same).1 unsigned
      · rfl
    rw [digitsOnly, ofDigits?_spelled (.cons first behind)]

/-- A byte stands for a hexadecimal digit. -/
def DenotesHex (byte : UInt8) (digit : Nat) : Prop :=
  digit < 16 ∧ Hex.digitValue? byte = some (UInt8.ofNat digit)

/-- Bytes that spell hexadecimal digits are read in pairs as what the digits denote. -/
theorem decodeFrom_spelled (position : Nat) {text : Bytes} {digits : List Nat}
    (spelled : List.Forall₂ DenotesHex text digits)
    (paired : text.length % 2 = 0) :
    ∃ bytes, Hex.decodeFrom position text = .ok bytes ∧ ∀ start,
      bytes.foldl (fun value byte => value * 256 + byte.toNat) start =
        digits.foldl (fun value digit => value * 16 + digit) start := by
  fun_induction Hex.decodeFrom position text generalizing digits with
  | case1 position =>
    cases spelled
    exact ⟨[], rfl, fun start => rfl⟩
  | case2 position => simp at paired
  | case3 position high low rest ih =>
    obtain _ | @⟨_, upper, _, _, ⟨few, first⟩, behind⟩ := spelled
    obtain _ | @⟨_, lower, _, digits, ⟨less, second⟩, others⟩ := behind
    rw [List.length_cons, List.length_cons] at paired
    obtain ⟨bytes, read, folded⟩ := ih others (by omega)
    refine ⟨(UInt8.ofNat upper * 16 + UInt8.ofNat lower) :: bytes, ?_, fun start => ?_⟩
    · simp only [Hex.digitAt, first, second, read]
      rfl
    · rw [List.foldl_cons, List.foldl_cons, List.foldl_cons, folded]
      congr 1
      simp only [UInt8.toNat_add, UInt8.toNat_mul, UInt8.toNat_ofNat', UInt8.toNat_ofNat]
      omega

/-- A missing first digit counts as zero. -/
theorem decode_spelled {text : Bytes} {digits : List Nat}
    (spelled : List.Forall₂ DenotesHex text digits) :
    ∃ bytes, Hex.decode (if text.length % 2 = 1 then 48 :: text else text) = .ok bytes ∧
      Bytes.toNat bytes = Nat.ofDigits 16 digits.reverse := by
  unfold Hex.decode
  split
  · rename_i odd
    have paired : (48 :: text).length % 2 = 0 := by
      rw [List.length_cons]
      omega
    have zero : DenotesHex 48 0 := ⟨by decide, by decide⟩
    obtain ⟨bytes, read, folded⟩ := decodeFrom_spelled 0 (.cons zero spelled) paired
    refine ⟨bytes, by rw [if_pos paired, read], ?_⟩
    rw [Bytes.toNat, folded, List.foldl_cons, foldl_zero_eq_ofDigits]
  · rename_i even
    have paired : text.length % 2 = 0 := by omega
    obtain ⟨bytes, read, folded⟩ := decodeFrom_spelled 0 spelled paired
    refine ⟨bytes, by rw [if_pos paired, read], ?_⟩
    rw [Bytes.toNat, folded, foldl_zero_eq_ofDigits]

end Digits

section Characters

/-- A character of a digit in some base, with what it is worth. -/
def Denotes (base : Base) (c : Char) (digit : Nat) : Prop :=
  digit < base.radix ∧ ∃ capital, c = digitChar digit capital

variable {base : Base} {c : Char} {digit : Nat}

theorem not_separator : ∀ digit < 16, ∀ capital,
    (digitChar digit capital != '_' && digitChar digit capital != ',') = true := by
  decide

theorem digitBelow?_decimal : ∀ digit < 10, ∀ capital,
    digitBelow? 10 (digitChar digit capital) = some digit := by
  decide

theorem digitBelow?_binary : ∀ digit < 2, ∀ capital,
    digitBelow? 2 (digitChar digit capital) = some digit := by
  decide

theorem Base.radix_le (base : Base) : base.radix ≤ 16 := by
  cases base <;> decide

/-- Without the separators only the digits are left. -/
theorem denotes_places (places : List (Place base)) :
    List.Forall₂ (Denotes base) (withoutSeparators (places.map Place.char))
      (places.filterMap Place.digit?) := by
  induction places with
  | nil => exact .nil
  | cons place places ih =>
    cases place with
    | digit value capital =>
      have kept : withoutSeparators ((Place.digit value capital :: places).map Place.char) =
          digitChar value capital :: withoutSeparators (places.map Place.char) :=
        List.filter_cons_of_pos
          (not_separator value (Nat.lt_of_lt_of_le value.isLt base.radix_le) capital)
      rw [kept]
      exact .cons ⟨value.isLt, capital, rfl⟩ ih
    | underscore => exact ih
    | comma => exact ih

theorem withoutSeparators_mark (base : Base) (rest : List Char) :
    withoutSeparators (base.mark ++ rest) = base.mark ++ withoutSeparators rest := by
  rw [withoutSeparators, List.filter_append]
  cases base <;> rfl

theorem notMem_of_places {foreign : List Char} (apart : ∀ place : Place base, place.char ∉ foreign)
    (places : List (Place base)) :
    ∀ c ∈ withoutSeparators (places.map Place.char), c ∉ foreign := by
  intro c member
  obtain ⟨place, -, rfl⟩ := List.mem_map.1 (List.mem_of_mem_filter member)
  exact apart place

theorem digitChar_notMem : ∀ digit < 16, ∀ capital,
    digitChar digit capital ∉ reserved ++ ['+', '-', 'x', 'X'] := by
  decide

theorem digitChar_notMem_binary : ∀ digit < 10, ∀ capital, digitChar digit capital ∉ ['b', 'B'] := by
  decide

theorem Place.char_notMem (place : Place base) :
    place.char ∉ reserved ++ ['+', '-', 'x', 'X'] := by
  cases place with
  | digit value capital =>
    exact digitChar_notMem value (Nat.lt_of_lt_of_le value.isLt base.radix_le) capital
  | underscore => exact (by decide : '_' ∉ reserved ++ ['+', '-', 'x', 'X'])
  | comma => exact (by decide : ',' ∉ reserved ++ ['+', '-', 'x', 'X'])

theorem Place.char_notMem_binary (place : Place .decimal) : place.char ∉ ['b', 'B'] := by
  cases place with
  | digit value capital => exact digitChar_notMem_binary value value.isLt capital
  | underscore => decide
  | comma => decide

theorem afterEither?_eq_none {first second : String} {text : List Char} {foreign : List Char}
    (free : ∀ c ∈ text, c ∉ foreign) (one : first.toList.any foreign.contains = true)
    (other : second.toList.any foreign.contains = true) : afterEither? first second text = none := by
  rw [afterEither?, behind?_eq_none first free one, behind?_eq_none second free other]
  rfl

end Characters

section Magnitudes

theorem digitValue?_hexadecimal : ∀ digit < 16, ∀ capital, ∃ byte,
    String.utf8EncodeChar (digitChar digit capital) = [byte] ∧
      Hex.digitValue? byte = some (UInt8.ofNat digit) := by
  intro digit few capital
  exact ⟨UInt8.ofNat (digitChar digit capital).toNat, by revert capital digit; decide⟩

theorem encode_spelled {chars : List Char} {digits : List Nat}
    (spelled : List.Forall₂ (Denotes .hexadecimal) chars digits) :
    List.Forall₂ DenotesHex (Utf8.encode chars) digits := by
  induction spelled with
  | nil => exact .nil
  | cons first _ ih =>
    obtain ⟨few, capital, rfl⟩ := first
    obtain ⟨byte, written, worth⟩ := digitValue?_hexadecimal _ few capital
    rw [Utf8.encode, List.flatMap_cons, written]
    exact .cons ⟨few, worth⟩ ih

/-- What follows the sign is read as the number its digits denote. -/
theorem unsignedNumber_body (literal : Literal) :
    ∃ bytes, unsignedNumber literal.body = .ok bytes ∧ Bytes.toNat bytes = literal.magnitude := by
  obtain ⟨sign, base, places, some_digit⟩ := literal
  simp only [Literal.body, Literal.magnitude, Literal.digits]
  have spelled := denotes_places places
  unfold unsignedNumber
  simp only [withoutSeparators_mark]
  cases base with
  | decimal =>
    have noHex : afterEither? "0x" "0X" (withoutSeparators (places.map Place.char)) = none :=
      afterEither?_eq_none (notMem_of_places Place.char_notMem places) (by decide) (by decide)
    have noBinary : afterEither? "0b" "0B" (withoutSeparators (places.map Place.char)) = none :=
      afterEither?_eq_none (notMem_of_places Place.char_notMem_binary places) (by decide) (by decide)
    have read := natural?_spelled 10
      (spelled.imp fun c digit denotes => by
        obtain ⟨few, capital, rfl⟩ := denotes
        exact digitBelow?_decimal digit few capital) some_digit
    simp only [Base.mark, List.nil_append, noHex, noBinary, read]
    exact ⟨_, rfl, Bytes.toNat_ofNat _⟩
  | hexadecimal =>
    have marked (rest : List Char) :
        afterEither? "0x" "0X" (Base.hexadecimal.mark ++ rest) = some rest := by
      simp [afterEither?, behind?, after?, Base.mark]
    obtain ⟨bytes, read, denoted⟩ := decode_spelled (encode_spelled spelled)
    refine ⟨bytes, ?_, denoted⟩
    simp only [marked, read]
    rfl
  | binary =>
    have noHex (rest : List Char) :
        afterEither? "0x" "0X" (Base.binary.mark ++ rest) = none := by
      simp [afterEither?, behind?, after?, Base.mark]
    have marked (rest : List Char) :
        afterEither? "0b" "0B" (Base.binary.mark ++ rest) = some rest := by
      simp [afterEither?, behind?, after?, Base.mark]
    have read := natural?_spelled 2
      (spelled.imp fun c digit denotes => by
        obtain ⟨few, capital, rfl⟩ := denotes
        exact digitBelow?_binary digit few capital) some_digit
    simp only [noHex, marked, read]
    exact ⟨_, rfl, Bytes.toNat_ofNat _⟩

end Magnitudes

section Signs

variable (literal : Literal)

theorem Literal.body_notMem : ∀ c ∈ literal.body, c ∉ reserved ++ ['+', '-'] := by
  intro c member
  rcases List.mem_append.1 member with inMark | inPlaces
  · have markFree : ∀ base : Base, ∀ c ∈ base.mark, c ∉ reserved ++ ['+', '-'] := by
      intro base
      cases base <;> simp [Base.mark, reserved]
    exact markFree literal.base c inMark
  · obtain ⟨place, -, rfl⟩ := List.mem_map.1 inPlaces
    intro inside
    refine place.char_notMem ?_
    rw [List.mem_append] at inside ⊢
    exact inside.imp_right fun sign => List.mem_append_left ['x', 'X'] sign

theorem Literal.chars_notMem_reserved : ∀ c ∈ literal.chars, c ∉ reserved := by
  intro c member
  rcases List.mem_append.1 member with signed | inBody
  · obtain ⟨sign, -, rfl⟩ := Option.map_eq_some_iff.1 (Option.mem_toList.1 signed)
    cases sign <;> decide
  · exact fun inside => literal.body_notMem c inBody (List.mem_append_left ['+', '-'] inside)

theorem Literal.chars_ne_nil : literal.chars ≠ [] := by
  intro none
  obtain ⟨-, none⟩ := List.append_eq_nil_iff.1 none
  obtain ⟨-, none⟩ := List.append_eq_nil_iff.1 none
  exact literal.some_digit (by rw [List.map_eq_nil_iff.1 none]; rfl)

/-- No sign stands in front of a text. -/
def Unsigned (text : List Char) : Prop := ∀ sign ∈ ['+', '-'], ∀ rest, text ≠ sign :: rest

theorem Literal.unsigned_body : Unsigned literal.body := by
  intro sign isSign rest same
  have member : sign ∈ literal.body := by
    rw [same]
    exact List.mem_cons_self
  exact literal.body_notMem sign member (List.mem_append_right reserved isSign)

theorem integer_of_unsigned {text : List Char} (unsigned : Unsigned text) :
    integer text = (unsignedNumber text).map fun bytes => (Bytes.toNat bytes : Int) := by
  unfold integer
  split
  · exact absurd rfl (unsigned '-' (by decide) _)
  · exact absurd rfl (unsigned '+' (by decide) _)
  · rfl

theorem number_of_unsigned {text : List Char} (unsigned : Unsigned text) :
    number text = unsignedNumber text := by
  unfold number
  split
  · exact absurd rfl (unsigned '-' (by decide) _)
  · exact absurd rfl (unsigned '+' (by decide) _)
  · rfl

/-- A literal is read as the integer it denotes. -/
theorem integer_chars : integer literal.chars = .ok literal.value := by
  obtain ⟨bytes, read, denoted⟩ := unsignedNumber_body literal
  cases signed : literal.sign with
  | none =>
    have bare : literal.chars = literal.body := by simp [Literal.chars, signed]
    rw [bare, integer_of_unsigned literal.unsigned_body, read]
    simp [Except.map, denoted, Literal.value, signed]
  | some sign =>
    have marked : literal.chars = sign.char :: literal.body := by simp [Literal.chars, signed]
    cases sign <;>
      simp [marked, Sign.char, integer, read, Except.map, denoted, Literal.value, signed]

/-- A literal is an expression for bytes that denote it, unless it is negative; then they are its two's
complement. -/
theorem number_chars : ∃ bytes, number literal.chars = .ok bytes ∧
    (0 ≤ literal.value → (Bytes.toNat bytes : Int) = literal.value) ∧
    (literal.value < 0 → bytes = Bytes.ofInt literal.value) := by
  cases signed : literal.sign with
  | none =>
    have bare : literal.chars = literal.body := by simp [Literal.chars, signed]
    have natural : literal.value = literal.magnitude := by simp [Literal.value, signed]
    obtain ⟨bytes, read, denoted⟩ := unsignedNumber_body literal
    refine ⟨bytes, ?_, fun _ => by rw [denoted, natural], fun negative => by omega⟩
    rw [bare, number_of_unsigned literal.unsigned_body, read]
  | some sign =>
    have read : number literal.chars = (integer literal.chars).map Bytes.ofInt := by
      have marked : literal.chars = sign.char :: literal.body := by simp [Literal.chars, signed]
      rw [marked]
      cases sign <;> rfl
    rw [integer_chars] at read
    exact ⟨_, read, Bytes.toNat_ofInt_of_nonneg, fun _ => rfl⟩

end Signs

theorem interpret_literal (context : Context) (literal : Literal) :
    interpret context literal.text = number literal.chars := by
  rw [interpret, Literal.text, String.toList_ofList,
    interpretChars_of_plain literal.chars_notMem_reserved literal.chars_ne_nil]

end Expression

namespace Scenario.Reader

open Expression

/-- What a literal is read as among the natural numbers: the number it denotes, or, if that is negative,
the number lifted by the numbers of the least width whose two's complement range holds it. The reader of
64 bits refuses exactly what is too large for them. -/
theorem natural_literal (context : Context) {value : Json} {literal : Literal}
    (spelled : numberText value = .ok literal.text) :
    ∃ reading : Nat,
      natural context value = .ok ⟨reading, value⟩ ∧
      (∀ given, word context value = .ok given ↔
        reading < 2 ^ 64 ∧ given = ⟨UInt64.ofNat reading, value⟩) ∧
      (0 ≤ literal.value → (reading : Int) = literal.value) ∧
      (literal.value < 0 → ∃ width,
        IsLeast {width : Nat | -(256 ^ width : Int) ≤ 2 * literal.value} width ∧
          (reading : Int) = 256 ^ width + literal.value) := by
  obtain ⟨bytes, read, exact, lifted⟩ := number_chars literal
  have expressed : expressed context literal.text = .ok bytes := by
    rw [Reader.expressed, interpret_literal, read]
    rfl
  refine ⟨Bytes.toNat bytes, ?_, fun given => ?_, exact, fun negative => ?_⟩
  · rw [natural, spelled]
    simp only [Except.bind, bind, expressed]
    rfl
  · rw [word, spelled]
    simp only [Except.bind, bind, expressed]
    split
    · rename_i small
      have accepted : Bytes.toNat bytes < 2 ^ 64 := small
      simp only [accepted, true_and]
      exact ⟨fun same => (Except.ok.inj same).symm, fun same => same ▸ rfl⟩
    · rename_i large
      have refused : ¬Bytes.toNat bytes < 2 ^ 64 := large
      simp only [refused, false_and, iff_false]
      exact nofun
  · rw [lifted negative]
    exact ⟨_, Bytes.toNat_ofInt_of_neg negative⟩

/-- Capitals and separators among the digits of a literal. -/
def palette : Literal :=
  ⟨none, .hexadecimal, [.digit ⟨15, by decide⟩ true, .digit ⟨15, by decide⟩ false, .underscore,
    .digit ⟨0, by decide⟩ false, .comma, .digit ⟨7, by decide⟩ false], by decide⟩

theorem natural_literal_palette :
    numberText (.string "0xFf_0,7") = .ok palette.text ∧
      natural bare (.string "0xFf_0,7") = .ok ⟨0xFF07, .string "0xFf_0,7"⟩ ∧
      word bare (.string "0xFf_0,7") = .ok ⟨0xFF07, .string "0xFf_0,7"⟩ := by
  have spelled : numberText (.string "0xFf_0,7") = .ok palette.text :=
    congrArg Except.ok (by decide)
  obtain ⟨reading, read, words, exact, -⟩ := natural_literal bare spelled
  obtain rfl : reading = 0xFF07 := by
    have denoted : palette.value = 0xFF07 := by decide
    have same := exact (by rw [denoted]; decide)
    omega
  exact ⟨spelled, read, (words _).2 ⟨by decide, rfl⟩⟩

/-- A debt of one. -/
def debt : Literal := ⟨some .minus, .decimal, [.digit ⟨1, by decide⟩ false], by decide⟩

/-- It is read as 255, while a number of a given width must not be negative. -/
theorem natural_literal_debt :
    debt.value = -1 ∧ debt.text = "-1" ∧
      natural bare (.string debt.text) = .ok ⟨255, .string debt.text⟩ ∧
      word bare (.string debt.text) = .ok ⟨255, .string debt.text⟩ ∧
      sizedUnsigned 8 debt.chars = .error (.negative debt.text) := by
  have negative : debt.value = -1 := by decide
  have expressed : expressed bare debt.text = .ok [255] := by
    obtain ⟨bytes, read, -, lifted⟩ := number_chars debt
    obtain rfl : bytes = [255] := by
      rw [lifted (by rw [negative]; decide), negative]
      decide +kernel
    rw [Reader.expressed, interpret_literal, read]
    rfl
  refine ⟨negative, by decide, ?_, ?_, ?_⟩
  · simp only [natural, numberText, bind, Except.bind, expressed]
    rfl
  · simp only [word, numberText, bind, Except.bind, expressed]
    rfl
  · rw [sizedUnsigned, integer_chars, negative]
    rfl

end Scenario.Reader
end ChainScenario
