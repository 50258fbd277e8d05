import ChainScenario.CommandLine.Run

/-!
# The program

Reads the files that a command may need, carries out the command and prints what it leaves behind.
The files are those below the working directory and those at the paths that the command line and the
variables name.
-/
namespace ChainScenario.CommandLine

/-- A tree with all that stands at and below a path. -/
partial def addFiles (tree : Files.Tree) (path : String) : IO Files.Tree := do
  let place := (← IO.currentDir) / path
  if ← place.isDir then
    let mut tree := tree.putNode path Files.Node.emptyDirectory
    for entry in ← place.readDir do
      tree ← addFiles tree (Path.join path entry.fileName)
    return tree
  else if ← place.pathExists then
    return tree.put path (← IO.FS.readBinFile place).toList
  else return tree

/-- A tree with all that stands at and below a path; what cannot be read is left out. -/
def addReadable (tree : Files.Tree) (path : String) : IO Files.Tree := do
  try addFiles tree (← IO.FS.realPath path).toString
  catch _ => return tree

def environment : IO Settings.Environment.Variables := do
  Settings.variableNames.filterMapM fun name => do
    return (← IO.getEnv name).map fun text => (name, text)

/-- The paths that may lead to files a command needs. -/
def roots (environment : Settings.Environment.Variables) (words : List String) : List String :=
  let named := environment.flatMap fun (name, path) =>
    if name = Settings.basePathVariable || name = Settings.overridePathVariable then
      path :: (Path.withExtension? path Settings.fileExtension).toList
    else []
  match Request.ofWords words with
  | .run path _ => "." :: path :: named
  | _ => "." :: named

end ChainScenario.CommandLine

open ChainScenario in
/-- The program. -/
def main (words : List String) : IO UInt32 := do
  let environment ← CommandLine.environment
  let directory ← IO.currentDir
  let empty : Files.Tree := ⟨Files.Node.emptyDirectory, directory.toString⟩
  let files ← (CommandLine.roots environment words).foldlM CommandLine.addReadable empty
  let outcome := CommandLine.perform files environment words
  IO.print outcome.output
  return outcome.exitCode
