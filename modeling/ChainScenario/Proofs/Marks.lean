import ChainScenario.Expression.Interpret
import ChainScenario.Proofs.Results

/-!
# Marks of expressions

The mark in front of a text tells what kind of expression it is, and no mark starts with another one.

Main statements:
- `interpretChars_of_simple`: a text that is no reference, no operation and not joined from parts is one
  single value.
- `interpretChars_of_plain`: a text without any mark is a number.
- `simple_text`, `simple_address`, `simple_contract`, `simple_sized`: the single values behind marks.
-/
namespace ChainScenario.Expression

/-- The marks of references and operations. -/
def compoundMarks : List String := ["file:", "mxsc:"] ++ operators.map (·.1)

/-- The marks of single values. -/
def valueMarks : List String := ["str:", "''", "``", "address:", "sc:"] ++ sizes.map (·.1)

def marks : List String := compoundMarks ++ valueMarks

/-! ## What is behind a mark -/

section Behind

theorem after?_append (start text : List Char) : after? start (start ++ text) = some text := by
  induction start with
  | nil => rfl
  | cons c start ih => rw [List.cons_append, after?, if_pos rfl, ih]

theorem behind?_self (mark : String) (text : List Char) :
    behind? mark (mark.toList ++ text) = some text :=
  after?_append mark.toList text

theorem marks_apart : ∀ mark ∈ marks, ∀ other ∈ marks,
    mark ≠ other → ¬mark.toList <+: other.toList := by
  decide

variable {mark other : String}

/-- A text behind one mark is not behind another one. -/
theorem behind?_of_ne (known : mark ∈ marks) (too : other ∈ marks) (apart : mark ≠ other)
    (text : List Char) : behind? other (mark.toList ++ text) = none := by
  cases found : behind? other (mark.toList ++ text) with
  | none => rfl
  | some rest =>
    have starts : other.toList <+: mark.toList ++ text := by
      rw [after?_eq_some found]
      exact List.prefix_append _ _
    rcases List.prefix_or_prefix_of_prefix (List.prefix_append mark.toList text) starts with
      start | start
    · exact absurd start (marks_apart mark known other too apart)
    · exact absurd start (marks_apart other too mark known apart.symm)

/-- Characters of the marks in front of expressions and of the words for truth values. -/
def reserved : List Char := [':', '|', '\'', '`', 'l', 'r']

/-- A text does not start with what has a character that is nowhere in it. -/
theorem behind?_eq_none (start : String) {text foreign : List Char}
    (free : ∀ c ∈ text, c ∉ foreign) (marked : start.toList.any foreign.contains = true) :
    behind? start text = none := by
  obtain ⟨c, inside, outside⟩ := List.any_eq_true.1 marked
  cases found : behind? start text with
  | none => rfl
  | some rest =>
    have member : c ∈ text := by
      rw [after?_eq_some found]
      exact List.mem_append_left rest inside
    exact absurd (List.contains_iff_mem.1 outside) (free c member)

/-- Every mark has a reserved character. -/
theorem reserved_marks : ∀ mark ∈ marks, mark.toList.any reserved.contains = true := by decide

end Behind

/-! ## Single values -/

section Simple

variable {context : Context} {text : List Char}

theorem splitAt_of_notMem {separator : Char} (free : separator ∉ text) :
    splitAt separator text = [text] := by
  induction text with
  | nil => rfl
  | cons c text ih =>
    rw [List.mem_cons, not_or] at free
    rw [splitAt, if_neg (Ne.symm free.1), ih free.2]

theorem splitAt_append {separator : Char} (free : separator ∉ text) (rest : List Char) :
    splitAt separator (text ++ separator :: rest) = text :: splitAt separator rest := by
  induction text with
  | nil => rw [List.nil_append, splitAt, if_pos rfl]
  | cons c text ih =>
    rw [List.mem_cons, not_or] at free
    rw [List.cons_append, splitAt, if_neg (Ne.symm free.1), ih free.2]

/-- Behind no mark of a reference or operation. -/
def Single (text : List Char) : Prop := ∀ mark ∈ compoundMarks, behind? mark text = none

theorem Single.reference?_eq_none (single : Single text) : reference? context text = none := by
  simp only [reference?, single "file:" (by decide), single "mxsc:" (by decide),
    Option.map_none]

theorem Single.operator?_eq_none (single : Single text) {known : List (String × (Bytes → Bytes))}
    (compound : ∀ entry ∈ known, entry.1 ∈ compoundMarks) : operator? known text = none := by
  rw [operator?, List.findSome?_eq_none_iff]
  rintro ⟨mark, operation⟩ member
  simp only [single mark (compound _ member), Option.map_none]

/-- A text that is nothing but a single value is read as such. -/
theorem interpretChars_of_simple (some : text ≠ []) (bar : '|' ∉ text) (single : Single text) :
    interpretChars context text = simple context text := by
  have all : ∀ entry ∈ operators, entry.1 ∈ compoundMarks := by
    intro entry member
    exact List.mem_append_right _ (List.mem_map_of_mem member)
  have covering : ∀ entry ∈ coveringOperators, entry.1 ∈ compoundMarks := by
    simp [coveringOperators, compoundMarks, operators]
  have part : interpretPart context text = simple context text := by
    rw [interpretPart, if_neg (by simpa using some)]
    simp only [single.reference?_eq_none]
    split
    · rename_i found
      rw [single.operator?_eq_none all] at found
      cases found
    · rfl
  rw [interpretChars]
  simp only [single.reference?_eq_none]
  split
  · rename_i found
    rw [single.operator?_eq_none covering] at found
    cases found
  · rw [splitAt_of_notMem bar, List.mapM_cons, part]
    cases simple context text with
    | error fault => rfl
    | ok bytes => exact congrArg Except.ok (List.append_nil bytes)

/-- A text that is no truth value is what its mark says. -/
theorem simple_of_ne_word (no : text ≠ "false".toList) (yes : text ≠ "true".toList) :
    simple context text =
      match plainText? text with
      | some raw => .ok (Utf8.encode raw)
      | none =>
        match behind? "address:" text with
        | some name => namedAddress Address.length name
        | none =>
          match behind? "sc:" text with
          | some name => contractAddress context.vmType name
          | none => (sized? text).getD (number text) := by
  unfold simple
  split
  · rename_i same
    exact absurd (by rw [← same, String.toList_ofList]) no
  · rename_i same
    exact absurd (by rw [← same, String.toList_ofList]) yes
  · rfl

/-- A text without marks is a number and nothing else. -/
theorem interpretChars_of_plain (plain : ∀ c ∈ text, c ∉ reserved) (some : text ≠ []) :
    interpretChars context text = number text := by
  have unmarked : ∀ mark ∈ marks, behind? mark text = none := by
    intro mark known
    exact behind?_eq_none mark plain (reserved_marks mark known)
  have word (known : List Char) (marked : known.any reserved.contains = true) : text ≠ known := by
    rintro rfl
    obtain ⟨c, member, inside⟩ := List.any_eq_true.1 marked
    exact plain c member (List.contains_iff_mem.1 inside)
  have noText : plainText? text = none := by
    rw [plainText?, List.findSome?_eq_none_iff]
    have known : ∀ mark ∈ ["str:", "''", "``"], mark ∈ marks := by decide
    exact fun mark member => unmarked mark (known mark member)
  have noSize : sized? text = none := by
    rw [sized?, List.findSome?_eq_none_iff]
    have known : ∀ size ∈ sizes, size.1 ∈ marks := by decide
    rintro ⟨mark, width, signed⟩ member
    simp only [unmarked mark (known _ member), Option.map_none]
  rw [interpretChars_of_simple some (fun member => plain '|' member (by decide))
      fun mark compound => unmarked mark (List.mem_append_left _ compound),
    simple_of_ne_word (word _ (by decide)) (word _ (by decide)), noText,
    unmarked "address:" (by decide), unmarked "sc:" (by decide), noSize, Option.getD_none]

end Simple

/-! ## Single values behind their marks -/

section Marked

variable {context : Context} {mark : String} {text : List Char}

theorem words_unmarked : ∀ mark ∈ marks,
    ¬mark.toList <+: "false".toList ∧ ¬mark.toList <+: "true".toList := by
  decide

/-- The mark of a single value settles how the text is read. -/
theorem interpretChars_marked (known : mark ∈ valueMarks) (bar : '|' ∉ text) :
    interpretChars context (mark.toList ++ text) = simple context (mark.toList ++ text) := by
  have letters : ∀ mark ∈ valueMarks, mark.toList ≠ [] ∧ '|' ∉ mark.toList := by decide
  obtain ⟨filled, unbarred⟩ := letters mark known
  refine interpretChars_of_simple (by simp [filled]) (by simp [unbarred, bar]) fun other compound => ?_
  have apart : ∀ value ∈ valueMarks, ∀ other ∈ compoundMarks, value ≠ other := by decide
  exact behind?_of_ne (List.mem_append_right _ known) (List.mem_append_left _ compound)
    (apart mark known other compound) text

theorem simple_marked (known : mark ∈ valueMarks) :
    simple context (mark.toList ++ text) =
      match plainText? (mark.toList ++ text) with
      | some raw => .ok (Utf8.encode raw)
      | none =>
        match behind? "address:" (mark.toList ++ text) with
        | some name => namedAddress Address.length name
        | none =>
          match behind? "sc:" (mark.toList ++ text) with
          | some name => contractAddress context.vmType name
          | none => (sized? (mark.toList ++ text)).getD (number (mark.toList ++ text)) := by
  obtain ⟨no, yes⟩ := words_unmarked mark (List.mem_append_right _ known)
  exact simple_of_ne_word (fun same => no (same ▸ List.prefix_append _ _))
    fun same => yes (same ▸ List.prefix_append _ _)

theorem simple_text (text : List Char) :
    simple context ("str:".toList ++ text) = .ok (Utf8.encode text) := by
  rw [simple_marked (by decide), plainText?, List.findSome?_cons, behind?_self]

/-- No mark of a text is another mark of a value. -/
theorem plainText?_marked (known : mark ∈ marks) (other : mark ∉ ["str:", "''", "``"]) :
    plainText? (mark.toList ++ text) = none := by
  rw [plainText?, List.findSome?_eq_none_iff]
  intro textual member
  have too : ∀ mark ∈ ["str:", "''", "``"], mark ∈ marks := by decide
  exact behind?_of_ne known (too textual member) (fun same => other (same ▸ member)) text

theorem simple_address (text : List Char) :
    simple context ("address:".toList ++ text) = namedAddress Address.length text := by
  rw [simple_marked (by decide), plainText?_marked (by decide) (by decide), behind?_self]

theorem simple_contract (text : List Char) :
    simple context ("sc:".toList ++ text) = contractAddress context.vmType text := by
  rw [simple_marked (by decide), plainText?_marked (by decide) (by decide),
    behind?_of_ne (by decide) (by decide) (by decide), behind?_self]

theorem sized?_marked {width : Nat} {signed : Bool} (size : (mark, width, signed) ∈ sizes)
    (text : List Char) :
    sized? (mark.toList ++ text) =
      some ((if signed then sizedSigned width else sizedUnsigned width) text) := by
  have known : ∀ size ∈ sizes, size.1 ∈ marks := by decide
  have same_size : ∀ size ∈ sizes, ∀ other ∈ sizes, size.1 = other.1 → size = other := by decide
  cases found : sized? (mark.toList ++ text) with
  | none =>
    have missing := List.findSome?_eq_none_iff.1 found _ size
    simp only [behind?_self, Option.map_some] at missing
    cases missing
  | some reading =>
    obtain ⟨other, member, read⟩ := List.exists_of_findSome?_eq_some found
    -- a text is behind one mark of a size only
    have own : mark = other.1 := by
      by_contra apart
      simp only [behind?_of_ne (known _ size) (known other member) apart, Option.map_none] at read
      cases read
    obtain rfl := same_size _ size other member own
    simp only [behind?_self, Option.map_some] at read
    exact read.symm

theorem simple_sized {width : Nat} {signed : Bool} (size : (mark, width, signed) ∈ sizes)
    (text : List Char) :
    simple context (mark.toList ++ text) =
      (if signed then sizedSigned width else sizedUnsigned width) text := by
  have sized : ∀ size ∈ sizes, size.1 ∈ valueMarks ∧ size.1 ∉ ["str:", "''", "``"] ∧
      size.1 ≠ "address:" ∧ size.1 ≠ "sc:" := by
    decide
  obtain ⟨value, untextual, noAddress, noContract⟩ := sized _ size
  have known : mark ∈ marks := List.mem_append_right _ value
  rw [simple_marked value, plainText?_marked known untextual,
    behind?_of_ne known (by decide) noAddress, behind?_of_ne known (by decide) noContract,
    sized?_marked size, Option.getD_some]

end Marked

end ChainScenario.Expression
