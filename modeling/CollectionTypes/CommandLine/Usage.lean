import CollectionTypes.CommandLine.Arguments
import CollectionTypes.Text.Terminal

/-!
# Usage

The texts about the program's arguments: what was wrong with them, and the help. What they quote
from outside does not control the terminal.

Specification: section 6 (command line).
-/

namespace CollectionTypes.CommandLine

def ValueOption.text : ValueOption → String
  | .json => "--json <JSON>"
  | .out => "--out <OUT>"

def Flag.text : Flag → String
  | .stdout => "--stdout"
  | .quiet => "--quiet"
  | .verbose => "--verbose"

def Argument.text : Argument → String
  | .option o => o.text
  | .flag f => f.text

def singleQuoted (text : String) : String :=
  "'" ++ text ++ "'"

/-- The paragraph that says what is wrong. -/
def UsageError.lines : UsageError → List String
  | .missingValue option =>
      ["error: a value is required for " ++ singleQuoted option.text ++ " but none was supplied"]
  | .repeated argument =>
      ["error: the argument " ++ singleQuoted argument.text ++ " cannot be used multiple times"]
  | .conflicting argument other =>
      ["error: the argument " ++ singleQuoted argument.text ++ " cannot be used with " ++
        singleQuoted other.text]
  | .needlessValue name value =>
      ["error: unexpected value " ++ singleQuoted (Text.Terminal.plain value) ++ " for " ++
        singleQuoted name ++ " found; no more were expected"]
  | .unexpected argument =>
      ["error: unexpected argument " ++ singleQuoted (Text.Terminal.plain argument) ++ " found"]
  | .missingJson =>
      ["error: the following required arguments were not provided:",
       "  " ++ ValueOption.json.text]

def versionText : String := "pbtypegen 0.1.0\n"

/-- The column of the help in which the descriptions stand. -/
def descriptionColumn : Nat := 21

/-- Lines behind the first one stand in the column of the descriptions. -/
def hanging (text : String) : String :=
  String.ofList (text.toList.flatMap fun c =>
    if c = '\n' then c :: List.replicate descriptionColumn ' ' else [c])

/-- The help, with the present value of the environment variable that may stand for `--json`. A
sequence that this value begins can run on up to the next option. -/
def helpText (environment : Option String) : String :=
  "\n".intercalate
    ["Generate TypeScript types from PocketBase collection schemas",
     "",
     "Usage: pbtypegen [OPTIONS] --json <JSON>",
     "",
     "Options:",
     "  -j, --json <JSON>  Path to a JSON schema export (array of collections) [env: " ++
       "PBTYPEGEN_JSON=" ++ Text.Terminal.plain (hanging (environment.getD "") ++ "]\n  ") ++
       "-o, --out <OUT>    Path to write the generated TypeScript module to [default: " ++
       defaultOut ++ "]",
     "      --stdout       Print the generated module to stdout instead of writing a file",
     "  -q, --quiet        Quiet mode (errors only)",
     "  -v, --verbose      Verbose mode (debug logging)",
     "  -h, --help         Print help",
     "  -V, --version      Print version",
     ""]

end CollectionTypes.CommandLine
