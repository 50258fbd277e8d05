import ChainScenario.Files.Tree
import ChainScenario.Settings.Basic
import ChainScenario.Settings.Toml.Document

/-!
# Where settings come from

The defaults are overlaid by a base file, the base file by an overriding file, and both by variables.
Files that are not there are passed over.
-/
namespace ChainScenario.Settings

def basePathVariable : String := Environment.mark ++ "CONFIG_PATH"

def overridePathVariable : String := Environment.mark ++ "CONFIG_OVERRIDE_PATH"

def variableNames : List String :=
  let name (keys : List String) := Environment.mark ++ ("__".intercalate keys).map Char.toUpper
  [basePathVariable, overridePathVariable] ++
    defaults.entries.flatMap fun (table, entries) =>
      name [table] :: entries.entries.map fun (key, _) => name [table, key]

def fileExtension : String := "toml"

/-- The path of a file with settings: the path itself if a file stands there, or else the path with
the extension put behind it. -/
def filePath? (files : Files.Tree) (path : String) : Option String :=
  if files.isFile path then
    if Path.extension path = fileExtension then some path else none
  else (Path.withExtension? (files.absolute path) fileExtension).filter fun path =>
    files.isFile path

/-- A path as messages show it: the way there from the working directory. -/
def shownPath (files : Files.Tree) (path : String) : String :=
  Path.between files.workingDirectory (files.absolute path)

/-- The text of a file with settings, and its path as messages show it. A file that cannot be read
or is no text counts as none. -/
def fileText? (files : Files.Tree) (path : String) : Option (List Char × String) := do
  let path ← filePath? files path
  let contents ← (files.read path).toOption
  return (← Utf8.decode? contents, shownPath files path)

def ofFile (files : Files.Tree) (path : String) : Except Fault (List (String × Tree)) :=
  match fileText? files path with
  | none => .ok []
  | some (text, shown) =>
    ((Toml.read text).map (Tree.ofEntries (some shown))).mapError (.malformed shown)

/-- Lays a source over settings. -/
def lay (base : Tree) (source : List (String × Tree)) : Except Fault Tree :=
  match base.laySource source with
  | some tree => .ok tree
  | none => .error .noSuchItem

/-- The settings for a run in a tree of files and with variables. The sources are merged before they
are laid over the defaults, so that their keys cannot lead into a list of the defaults. -/
def load (files : Files.Tree) (environment : Environment.Variables) : Except Fault Settings := do
  let path (name fallback : String) := (entryNamed? name environment).getD fallback
  let merged ← lay .empty (← ofFile files (path basePathVariable "base_config/config.toml"))
  let merged ← lay merged (← ofFile files (path overridePathVariable "config/config.toml"))
  let merged ← lay merged (Environment.settings environment)
  ofTree (← lay defaults merged.entries)

end ChainScenario.Settings
