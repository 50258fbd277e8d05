/-!
# Requests

What the words of a command line ask for. They are read from left to right, and the first word that
asks for help or is out of place decides.
-/
namespace ChainScenario.CommandLine

/-- What help may be asked about. -/
inductive Topic where
  | program
  | run
  | version
  | help
  deriving Repr, DecidableEq

/-- What a command line asks for. -/
inductive Request where
  /-- Run a scenario file or the scenario files below a directory. -/
  | run (path : String) (traceGas : Bool)
  | version
  | help (topic : Topic)
  /-- The version, asked for by an option of the program itself. -/
  | versionOption
  /-- The words make no command. -/
  | misuse
  deriving Repr, DecidableEq

/-- A word of a command line as its place in the line does not change it. -/
inductive Word where
  /-- A word that is no option. -/
  | plain (text : String)
  | long (name : String)
  /-- Options of one letter behind one hyphen. -/
  | short (letters : List Char)
  /-- Two hyphens: no option follows. -/
  | separator
  deriving Repr, DecidableEq

def Word.ofString (text : String) : Word :=
  match text.toList with
  | ['-', '-'] => .separator
  | '-' :: '-' :: name => .long (String.ofList name)
  | '-' :: letter :: letters => .short (letter :: letters)
  | _ => .plain text

namespace Request

/-- The words of the command that runs scenarios, behind its name. -/
def ofRunWords (path : Option String) (traceGas : Bool) (separated : Bool) : List String → Request
  | [] =>
    match path with
    | some path => if path.isEmpty then .misuse else .run path traceGas
    | none => .misuse
  | text :: words =>
    match separated, Word.ofString text with
    | false, .separator => ofRunWords path traceGas true words
    | false, .long "help" | false, .short ('h' :: _) =>
      -- an empty path is out of place before help is asked for
      if path == some "" then .misuse else .help .run
    | false, .long "trace-gas" => if traceGas then .misuse else ofRunWords path true false words
    | false, .long _ | false, .short _ => .misuse
    | _, _ =>
      match path with
      | none => ofRunWords (some text) traceGas separated words
      | some _ => .misuse

/-- The words of the command that tells the version, behind its name. -/
def ofVersionWords : List String → Request
  | [] => .version
  | text :: words =>
    match Word.ofString text with
    | .separator => if words.isEmpty then .version else .misuse
    | .long "help" | .short ('h' :: _) => .help .version
    | _ => .misuse

/-- The words of the command that asks for help, behind its name. -/
def ofHelpWords : List String → Request
  | [] => .help .program
  | ["run"] => .help .run
  | ["version"] => .help .version
  | ["help"] => .help .help
  | _ => .misuse

/-- What the words of a command line ask for. -/
def ofWords : List String → Request
  | "run" :: words => ofRunWords none false false words
  | "version" :: words => ofVersionWords words
  | "help" :: words => ofHelpWords words
  | text :: _ =>
    match Word.ofString text with
    | .long "help" | .short ('h' :: _) => .help .program
    | .long "version" | .short ('V' :: _) => .versionOption
    | _ => .misuse
  | [] => .misuse

end Request
end ChainScenario.CommandLine
