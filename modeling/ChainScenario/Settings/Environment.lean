import ChainScenario.Settings.Tree
import ChainScenario.Text.LowerCase

/-!
# Settings from variables

A variable whose name starts as ours do gives a setting: the rest of its name in small letters, two
underscores standing for a dot. What its text looks like decides what kind of value it is.
-/
namespace ChainScenario.Settings.Environment

/-- Named texts outside the program. -/
abbrev Variables := List (String × String)

/-- How the names of variables start. -/
def mark : String := "MASSA_SCENARIO_"

/-- The name by which messages call the variables. -/
def origin : String := "the environment"

/-- The text behind a start. -/
def behind? : List Char → List Char → Option (List Char)
  | [], text => some text
  | _ :: _, [] => none
  | c :: start, d :: text => if c == d then behind? start text else none

/-- A text with a dot in place of every two underscores. -/
def dotted : List Char → List Char
  | '_' :: '_' :: text => '.' :: dotted text
  | c :: text => c :: dotted text
  | [] => []

/-- The key of the setting that a variable gives. -/
def key? (name : String) : Option String :=
  (behind? (LowerCase.text mark).toList (LowerCase.text name).toList).map fun rest => String.ofList (dotted rest)

def listKey : String := "scenario.excluded"

/-- The value that a text gives for a key: a truth value, a number, the parts between commas for the
list, or the text itself. -/
def value (key text : String) : Value :=
  match LowerCase.text text with
  | "true" => .scalar (.boolean true)
  | "false" => .scalar (.boolean false)
  | _ =>
    match (Decimal.signed? text.toList).filter fitsWord, Extended.ofText? text.toList with
    | some value, _ => .scalar (.integer value)
    | none, some value => .scalar (.float value)
    | none, none =>
      if key = listKey then
        .list ((text.toList.splitOn ',').map fun part => .scalar (.text (String.ofList part)))
      else .scalar (.text text)

def settings (environment : Variables) : List (String × Tree) :=
  environment.filterMap fun (name, text) =>
    (key? name).map fun key => (key, Tree.ofValue (some origin) (value key text))

end ChainScenario.Settings.Environment
