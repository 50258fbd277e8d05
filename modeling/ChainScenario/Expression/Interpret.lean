import ChainScenario.Address
import ChainScenario.Expression.Number
import ChainScenario.Expression.References
import ChainScenario.Hash.Keccak

/-!
# Value expressions

A text stands for bytes: a number, a text after `str:`, an address, a file, a hash of another
expression, or several expressions joined by vertical bars. A hash covers all that follows it; a file
reference at the start of an expression too, so neither is cut at a bar.
-/
namespace ChainScenario.Expression

/-- What expressions refer to: the machine type of contract addresses and the files. -/
structure Context where
  vmType : Bytes
  references : References
  files : Files.Tree

/-- The parts of a text between occurrences of a character. -/
def splitAt (separator : Char) : List Char → List (List Char)
  | [] => [[]]
  | c :: text =>
    if c = separator then [] :: splitAt separator text
    else match splitAt separator text with
      | part :: parts => (c :: part) :: parts
      | [] => [[c]]

/-- A name filled up with underscores; a shard after `#` is the last byte. -/
def namedAddress (length : Nat) (text : List Char) : Except Fault Bytes := do
  let shown := String.ofList text
  let filled (limit : Nat) (name : List Char) (shard : Bytes) : Except Fault Bytes :=
    let name := Utf8.encode name
    if limit < name.length then .error (.nameTooLong shown)
    else .ok (Bytes.fit limit 0x5F name ++ shard)
  match splitAt '#' text with
  | [name] => filled length name []
  | [name, digits] =>
    match ← (Hex.decode (Utf8.encode digits)).mapError (.shardNotHex (String.ofList digits)) with
    | [shard] => filled (length - 1) name [shard]
    | _ => throw (.shardNotOneByte shown)
  | _ => throw (.severalShards shown)

/-- A contract address: zeros, the machine type, and the name on the remaining bytes. -/
def contractAddress (vmType : Bytes) (text : List Char) : Except Fault Bytes := do
  let head := List.replicate Address.contractZeros 0 ++ Address.vmTag vmType
  return head ++ (← namedAddress (Address.length - head.length) text)

/-- A value behind its length on four bytes. -/
def lengthPrefixed (value : Bytes) : Bytes :=
  Bytes.ofNatFixed 4 value.length ++ value

/-- The widths of sized numbers, and whether they are signed. -/
def sizes : List (String × Nat × Bool) :=
  [("u8:", 1, false), ("u16:", 2, false), ("u32:", 4, false), ("u64:", 8, false),
    ("i8:", 1, true), ("i16:", 2, true), ("i32:", 4, true), ("i64:", 8, true)]

def plainText? (text : List Char) : Option (List Char) :=
  ["str:", "''", "``"].findSome? fun mark => behind? mark text

/-- A sized number, if the text is marked as one. -/
def sized? (text : List Char) : Option (Except Fault Bytes) :=
  sizes.findSome? fun (mark, width, signed) =>
    (behind? mark text).map (if signed then sizedSigned width else sizedUnsigned width)

/-- A file or contract reference, if the text is marked as one. -/
def reference? (context : Context) (text : List Char) : Option (Except Fault Bytes) :=
  match behind? "file:" text with
  | some path => some (context.references.contents context.files (String.ofList path))
  | none =>
    (behind? "mxsc:" text).map fun path =>
      context.references.contractCode context.files (String.ofList path)

/-- An expression that holds no other one. -/
def simple (context : Context) (text : List Char) : Except Fault Bytes :=
  match String.ofList text with
  | "false" => .ok []
  | "true" => .ok [1]
  | _ =>
    match plainText? text with
    | some raw => .ok (Utf8.encode raw)
    | none =>
      match behind? "address:" text with
      | some name => namedAddress Address.length name
      | none =>
        match behind? "sc:" text with
        | some name => contractAddress context.vmType name
        | none => (sized? text).getD (number text)

/-- What is done with the value of the expression behind a mark. -/
def operators : List (String × (Bytes → Bytes)) :=
  [("keccak256:", Keccak.digest), ("biguint:", lengthPrefixed), ("nested:", lengthPrefixed)]

/-- The operator in front of an expression and the expression. -/
def operator? (operators : List (String × (Bytes → Bytes))) (text : List Char) :
    Option ((Bytes → Bytes) × List Char) :=
  operators.findSome? fun (mark, operation) => (behind? mark text).map fun rest => (operation, rest)

theorem length_operator? {text rest : List Char} {operation : Bytes → Bytes}
    {known : List (String × (Bytes → Bytes))} (marked : ∀ entry ∈ known, entry.1.toList ≠ [])
    (found : operator? known text = some (operation, rest)) : rest.length < text.length := by
  obtain ⟨⟨mark, action⟩, member, same⟩ := List.exists_of_findSome?_eq_some found
  obtain ⟨tail, split, equal⟩ := Option.map_eq_some_iff.1 same
  have total := length_behind? split
  have positive := List.length_pos_iff.2 (marked _ member)
  simp only [Prod.mk.injEq] at equal
  rw [← equal.2]
  simp only at positive
  omega

private theorem operators_marked : ∀ entry ∈ operators, entry.1.toList ≠ [] := by
  simp [operators]

/-- The bytes of an expression without bars. -/
def interpretPart (context : Context) (text : List Char) : Except Fault Bytes :=
  if text.isEmpty then .ok []
  else
    match reference? context text with
    | some result => result
    | none =>
      match _found : operator? operators text with
      | some (operation, rest) => (interpretPart context rest).map operation
      | none => simple context text
termination_by text.length
decreasing_by exact length_operator? operators_marked _found

def coveringOperators : List (String × (Bytes → Bytes)) := [("keccak256:", Keccak.digest)]

private theorem coveringOperators_marked : ∀ entry ∈ coveringOperators, entry.1.toList ≠ [] := by
  simp [coveringOperators]

def interpretChars (context : Context) (text : List Char) : Except Fault Bytes :=
  match reference? context text with
  | some result => result
  | none =>
    match _found : operator? coveringOperators text with
    | some (operation, rest) => (interpretChars context rest).map operation
    | none => ((splitAt '|' text).mapM (interpretPart context)).map List.flatten
termination_by text.length
decreasing_by exact length_operator? coveringOperators_marked _found

def interpret (context : Context) (text : String) : Except Fault Bytes :=
  interpretChars context text.toList

mutual

/-- The bytes of a JSON value: an expression, or the values of a list or object joined. -/
def interpretTree (context : Context) : Json → Except Fault Bytes
  | .string text => interpret context text
  | .number value => interpret context value.text
  | .array items => interpretItems context items
  | .object fields => interpretFields context fields
  | .null => .error (.notAValue .null)
  | .bool value => .error (.notAValue (.bool value))

def interpretItems (context : Context) : List Json → Except Fault Bytes
  | [] => .ok []
  | item :: items => do
    let first ← interpretTree context item
    return first ++ (← interpretItems context items)

def interpretFields (context : Context) : List (String × Json) → Except Fault Bytes
  | [] => .ok []
  | (_, value) :: fields => do
    let first ← interpretTree context value
    return first ++ (← interpretFields context fields)

end

end ChainScenario.Expression
