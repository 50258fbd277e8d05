import ChainScenario.Text.Utf8

/-!
# Globs

Patterns over paths. `?` and `*` stay within a name, `**` as a whole name stands for any number of
directories, `[...]` for one byte of a class and `{a,b}` for any of its branches. A pattern is
matched byte by byte: `residues` gives what is left of a path after a token.
-/
namespace ChainScenario

/-- Why a pattern cannot be used. -/
inductive Glob.Fault where
  | unclosedClass
  | invalidRange (low high : Char)
  | unopenedBranches
  | unclosedBranches
  | danglingEscape
  deriving Repr, DecidableEq

/-- Why a pattern cannot be used, in words. -/
def Glob.Fault.message : Glob.Fault → String
  | .unclosedClass => "unclosed character class; missing ']'"
  | .invalidRange low high => s!"invalid range; {low} > {high}"
  | .unopenedBranches => "unopened alternate group; missing '\x7b'"
  | .unclosedBranches => "unclosed alternate group; missing '\x7d'"
  | .danglingEscape => "dangling '\\'"

/-- A token of a pattern. -/
inductive Glob.Token where
  | literal (c : Char)
  /-- One byte other than a slash. -/
  | anyByte
  /-- Any bytes other than slashes. -/
  | anyName
  /-- Any directories in front. -/
  | leadingTree
  /-- Everything below. -/
  | trailingTree
  /-- Any directories in between. -/
  | innerTree
  | oneOf (negated : Bool) (ranges : List (Char × Char))
  | branches (branches : List (List Glob.Token))
  deriving Repr, Inhabited

/-- A pattern. -/
abbrev Glob := List Glob.Token

namespace Glob

/-- A group of branches being read: the finished ones and the current one, last part first. -/
structure Group where
  finished : List (List Token)
  current : List Token

/-- The open groups, innermost first; the last one is the pattern itself. -/
abbrev Groups := List Group

def pushToken (token : Token) : Groups → Groups
  | group :: groups => { group with current := token :: group.current } :: groups
  | [] => []

/-- Replaces the last token by the one that `**` after it makes of it. -/
def closeTree (atEnd : Bool) : Groups → Groups
  | group :: groups =>
    -- the slash before the stars was read as a literal and goes into the new token
    let current := match group.current with
      | .leadingTree :: rest => .leadingTree :: rest
      | .trailingTree :: rest => .trailingTree :: rest
      | _ :: rest => (if atEnd then .trailingTree else .innerTree) :: rest
      | [] => []
    { group with current } :: groups
  | [] => []

/-- Closes the innermost group. -/
def popGroup : Groups → Except Fault Groups
  | group :: outer :: groups =>
    let branches := (group.current :: group.finished).reverse.map List.reverse
    .ok (pushToken (.branches branches) (outer :: groups))
  | _ => .error .unopenedBranches

def nextBranch : Groups → Groups
  | group :: groups => ⟨group.current :: group.finished, []⟩ :: groups
  | [] => []

/-- What is being read: the characters of a pattern are taken one by one. -/
inductive Mode where
  /-- Between tokens, after the given character. -/
  | plain (before : Option Char)
  /-- One star, after the given character. -/
  | star (before : Option Char)
  /-- Two stars, after the given character. -/
  | stars (before : Option Char)
  /-- A backslash. -/
  | escape
  /-- The bracket that opens a class. -/
  | classStart
  /-- A class: whether nothing stands in it yet, whether a range waits for its end, its ranges. -/
  | inClass (negated isFirst isOpen : Bool) (ranges : List (Char × Char))

/-- The groups read so far and what is being read. -/
structure Progress where
  groups : Groups
  mode : Mode

def hasTokens : Groups → Bool
  | group :: _ => !group.current.isEmpty
  | [] => false

/-- Reads a character between tokens. -/
def plainStep (groups : Groups) (before : Option Char) (c : Char) : Except Fault Progress :=
  let next (groups : Groups) : Except Fault Progress := .ok ⟨groups, .plain (some c)⟩
  if c == '?' then next (pushToken .anyByte groups)
  else if c == '*' then .ok ⟨groups, .star before⟩
  else if c == '[' then .ok ⟨groups, .classStart⟩
  else if c == '\\' then .ok ⟨groups, .escape⟩
  else if c.toNat == 0x7B then next (⟨[], []⟩ :: groups)
  else if c.toNat == 0x7D then do next (← popGroup groups)
  else if c == ',' && groups.length > 1 then next (nextBranch groups)
  else next (pushToken (.literal c) groups)

/-- Two stars that are no name of their own. -/
def pushStars (groups : Groups) : Groups := pushToken .anyName (pushToken .anyName groups)

/-- Whether two stars after a character can be a name of their own. -/
def mayCloseTree (groups : Groups) (before : Option Char) : Bool :=
  before == some '/' ||
    (groups.length > 1 && (before == some ',' || before.map Char.toNat == some 0x7B))

/-- Reads the character after two stars. -/
def starsStep (groups : Groups) (before : Option Char) (c : Char) : Except Fault Progress :=
  if !hasTokens groups then
    if c == '/' then .ok ⟨pushToken .leadingTree groups, .plain (some c)⟩
    else plainStep (pushStars groups) (some '*') c
  else if mayCloseTree groups before && c == '/' then
    .ok ⟨closeTree false groups, .plain (some c)⟩
  else if mayCloseTree groups before && groups.length > 1 && (c == ',' || c.toNat == 0x7D) then
    plainStep (closeTree true groups) (some '*') c
  else plainStep (pushStars groups) (some '*') c

/-- Extends the last range of a class to a character. -/
def extendRange (c : Char) : List (Char × Char) → Except Fault (List (Char × Char))
  | (low, _) :: ranges => if c < low then .error (.invalidRange low c) else .ok ((low, c) :: ranges)
  | [] => .ok []

def classStep (groups : Groups) (negated isFirst isOpen : Bool) (ranges : List (Char × Char))
    (c : Char) : Except Fault Progress :=
  let inside (isOpen : Bool) (ranges : List (Char × Char)) : Except Fault Progress :=
    .ok ⟨groups, .inClass negated false isOpen ranges⟩
  if c == ']' && !isFirst then
    let ranges := if isOpen then ('-', '-') :: ranges else ranges
    .ok ⟨pushToken (.oneOf negated ranges.reverse) groups, .plain (some c)⟩
  else if isOpen then do inside false (← extendRange c ranges)
  else if c == '-' && !isFirst then inside true ranges
  else inside false ((c, c) :: ranges)

/-- Reads one character. -/
def step (progress : Progress) (c : Char) : Except Fault Progress :=
  let groups := progress.groups
  match progress.mode with
  | .plain before => plainStep groups before c
  | .star before =>
    if c == '*' then .ok ⟨groups, .stars before⟩
    else plainStep (pushToken .anyName groups) (some '*') c
  | .stars before => starsStep groups before c
  | .escape => .ok ⟨pushToken (.literal c) groups, .plain (some c)⟩
  | .classStart =>
    if c == '!' || c == '^' then .ok ⟨groups, .inClass true true false []⟩
    else classStep groups false true false [] c
  | .inClass negated isFirst isOpen ranges => classStep groups negated isFirst isOpen ranges c

/-- Ends the last token. -/
def finish (progress : Progress) : Except Fault Groups :=
  let groups := progress.groups
  match progress.mode with
  | .plain _ => .ok groups
  | .star _ => .ok (pushToken .anyName groups)
  | .stars before =>
    if !hasTokens groups then .ok (pushToken .leadingTree groups)
    else if mayCloseTree groups before then .ok (closeTree true groups)
    else .ok (pushStars groups)
  | .escape => .error .danglingEscape
  | .classStart | .inClass .. => .error .unclosedClass

def ofString (pattern : String) : Except Fault Glob := do
  let progress ← pattern.toList.foldlM step ⟨[⟨[], []⟩], .plain none⟩
  match ← finish progress with
  | [group] => return group.current.reverse
  | _ => throw .unclosedBranches

/-- The byte ranges of a range of characters: characters of several bytes count byte by byte. -/
def byteRanges (low high : Char) : List (UInt8 × UInt8) :=
  let lows := String.utf8EncodeChar low
  let highs := String.utf8EncodeChar high
  let single (byte : UInt8) : UInt8 × UInt8 := (byte, byte)
  if low = high then lows.map single
  else
    match lows.getLast?, highs with
    | some last, first :: rest => (lows.dropLast.map single) ++ (last, first) :: rest.map single
    | _, _ => []

/-- What is left behind every slash. -/
def behindSlashes : Bytes → List Bytes
  | [] => []
  | byte :: rest => if byte = 47 then rest :: behindSlashes rest else behindSlashes rest

/-- What is left after any number of bytes of a name. -/
def behindName : Bytes → List Bytes
  | [] => [[]]
  | byte :: rest => (byte :: rest) :: if byte = 47 then [] else behindName rest

/-- What is left after any number of bytes. -/
def behindAny : Bytes → List Bytes
  | [] => [[]]
  | byte :: rest => (byte :: rest) :: behindAny rest

mutual

/-- Whether a pattern stands for the empty text alone, having no token to match. -/
def isVoid : List Token → Bool
  | [] => true
  | .branches branches :: tokens => allVoid branches && isVoid tokens
  | _ :: _ => false

/-- Whether all branches are void. -/
def allVoid : List (List Token) → Bool
  | [] => true
  | branch :: branches => isVoid branch && allVoid branches

end

mutual

/-- What can be left of a text after a token. -/
def residues : Token → Bytes → List Bytes
  | .literal c, text =>
    let bytes := String.utf8EncodeChar c
    if bytes.isPrefixOf text then [text.drop bytes.length] else []
  | .anyByte, text =>
    match text with
    | byte :: rest => if byte = 47 then [] else [rest]
    | [] => []
  | .anyName, text => behindName text
  | .leadingTree, text => text :: behindSlashes text
  | .trailingTree, text =>
    match text with
    | byte :: rest => if byte = 47 then behindAny rest else []
    | [] => []
  | .innerTree, text =>
    match text with
    | byte :: rest => if byte = 47 then rest :: behindSlashes rest else []
    | [] => []
  | .oneOf negated ranges, text =>
    match text with
    | byte :: rest =>
      let bytes := ranges.flatMap fun range => byteRanges range.1 range.2
      let inside := bytes.any fun range => range.1 ≤ byte && byte ≤ range.2
      if inside != negated then [rest] else []
    | [] => []
  | .branches branches, text =>
    if allVoid branches then [text] else residuesOfAny branches text

/-- What can be left of a text after one of several branches; void branches stand for nothing. -/
def residuesOfAny : List (List Token) → Bytes → List Bytes
  | [], _ => []
  | branch :: branches, text =>
    (if isVoid branch then [] else residuesOfAll branch [text]) ++ residuesOfAny branches text

/-- What can be left of several texts after a list of tokens. -/
def residuesOfAll : List Token → List Bytes → List Bytes
  | [], texts => texts
  | token :: tokens, texts => residuesOfAll tokens (texts.flatMap (residues token)).eraseDups

end

/-- Whether a pattern stands for a path. -/
def isMatch (glob : Glob) (path : String) : Bool :=
  match glob with
  | [.leadingTree] => true
  | tokens => (residuesOfAll tokens [Utf8.ofString path]).any List.isEmpty

end Glob
end ChainScenario
