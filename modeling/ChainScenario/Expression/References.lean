import ChainScenario.Expression.Fault
import ChainScenario.OrdMap

/-!
# File references

A reference in a scenario is a path from the directory of the scenario file, unless it is replaced.
-/
namespace ChainScenario.Expression

/-- How references to files are resolved. -/
structure References where
  /-- The scenario file being read. -/
  context : String
  /-- The path that stands in for a reference. -/
  replacements : OrdMap String String
  deriving Inhabited

namespace References

/-- No context and no replacement. -/
def none : References := ⟨"", .empty⟩

def resolve (references : References) (reference : String) : String :=
  match references.replacements.get? reference with
  | some path => path
  | Option.none => Path.join ((Path.parent? references.context).getD "") reference

/-- The contents of the file a reference names; the empty reference names no bytes. -/
def contents (references : References) (files : Files.Tree) (reference : String) :
    Except Fault Bytes :=
  if reference.isEmpty then .ok []
  else
    let path := references.resolve reference
    (files.read path).mapError (.unreadable path)

def contractCode (references : References) (files : Files.Tree) (reference : String) :
    Except Fault Bytes := do
  let contents ← references.contents files reference
  let document ← (Json.read contents).mapError (.contractNotJson reference)
  let code := (document.asObject?.bind (Json.field? "code")).bind Json.asString?
  match code with
  | some digits => (Hex.decode (Utf8.ofString digits)).mapError (.contractCodeNotHex reference)
  | Option.none => throw (.contractWithoutCode reference)

end References
end ChainScenario.Expression
