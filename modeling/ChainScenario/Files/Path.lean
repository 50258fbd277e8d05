/-!
# Paths

Paths are kept as they are written: nothing is normalised when paths are joined. Repeated slashes,
single dots after the start and a trailing slash separate no names.
-/
namespace ChainScenario.Path

/-- Whether a path starts at the root. -/
def isAbsolute (path : String) : Bool := path.toList.head? == some '/'

/-- A path taken from the directory `base`; an absolute path stands for itself. -/
def join (base path : String) : String :=
  if isAbsolute path || base.isEmpty then path
  else if base.toList.getLast? == some '/' then base ++ path
  else base ++ "/" ++ path

/-- Drops the separators and single dots at the end of a path, given last character first. The slash
of the root stays. -/
def trimEnd : List Char → List Char
  | '/' :: rest => if rest.isEmpty then ['/'] else trimEnd rest
  | '.' :: '/' :: rest => trimEnd ('/' :: rest)
  | path => path

/-- The path without its last name; `none` for the root and the empty path. -/
def parent? (path : String) : Option String :=
  match trimEnd path.toList.reverse with
  | [] => none
  | ['/'] => none
  | trimmed =>
    let above := trimmed.dropWhile (· != '/')
    some (String.ofList (trimEnd above).reverse)

/-- The texts between the slashes of a path. -/
def segments (path : String) : List (List Char) :=
  path.toList.foldr
    (fun c segments =>
      if c == '/' then [] :: segments
      else match segments with
        | segment :: rest => (c :: segment) :: rest
        | [] => [[c]])
    [[]]

/-- Whether a segment names nothing: an empty one or a single dot. -/
def isSilent (segment : List Char) : Bool :=
  segment.isEmpty || segment == ['.']

def ofSegments (segments : List (List Char)) : String :=
  String.ofList (['/'].intercalate segments)

/-- The segments that follow a list of names; silent segments in between are passed over. -/
def afterNames : List (List Char) → List (List Char) → Option (List (List Char))
  | [], segments => some segments
  | _ :: _, [] => none
  | name :: names, segment :: segments =>
    if isSilent segment then afterNames (name :: names) segments
    else if segment == name then afterNames names segments
    else none

/-- Where a path starts: at the root, at a single dot, or at its first name. -/
inductive Start where
  | root
  | here
  | name
  deriving Repr, DecidableEq

/-- Where a path starts, and the segments behind that. -/
def start (path : String) : Start × List (List Char) :=
  match segments path with
  | [] :: rest => if path.isEmpty then (.name, []) else (.root, rest)
  | ['.'] :: rest => (.here, rest)
  | segments => (.name, segments)

/-- The path below the directory `base`; `none` if it lies elsewhere. -/
def relativeTo? (base path : String) : Option String :=
  let (baseStart, baseSegments) := start base
  let (pathStart, pathSegments) := start path
  let names := baseSegments.filter (!isSilent ·)
  if base.isEmpty then some path
  else if baseStart ≠ pathStart then none
  else (afterNames names pathSegments).map fun rest =>
    ofSegments (((rest.dropWhile isSilent).reverse.dropWhile isSilent).reverse)

/-- The names that follow the longest common start of two lists of names. -/
def apart : List (List Char) → List (List Char) → List (List Char) × List (List Char)
  | left :: lefts, right :: rights =>
    if left == right then apart lefts rights else (left :: lefts, right :: rights)
  | lefts, rights => (lefts, rights)

/-- The way from one absolute path to another. -/
def between (base path : String) : String :=
  let names (path : String) := (segments path).filter (!isSilent ·)
  let (up, down) := apart (names base) (names path)
  ofSegments (up.map (fun _ => ['.', '.']) ++ down)

/-- The extension of the last name: what follows its last dot, if a dot stands inside the name. -/
def extension (path : String) : String :=
  match (segments path).reverse.dropWhile isSilent with
  | name :: _ =>
    let reversed := name.reverse
    let suffix := reversed.takeWhile (· != '.')
    if suffix.length + 1 < reversed.length then String.ofList suffix.reverse else ""
  | [] => ""

/-- The path with an extension put behind its last name; `none` if no name stands at its end. -/
def withExtension? (path extension : String) : Option String :=
  match (segments path).reverse.dropWhile isSilent with
  | [] | ['.', '.'] :: _ => none
  | _ => some (String.ofList (trimEnd path.toList.reverse).reverse ++ "." ++ extension)

end ChainScenario.Path
