/-!
# Arguments

The arguments of the program, read from left to right. An option with a value may wait for the next
argument to give it; what is wrong with that value shows when the option is settled, which is before
the next option or flag takes effect, or at the end. An unknown argument is refused at once, even
while an option waits.

Specification: section 6 (command line).
-/

namespace CollectionTypes.CommandLine

/-- Options that take a value. -/
inductive ValueOption where
  | json
  | out
  deriving DecidableEq, Repr

inductive Flag where
  | stdout
  | quiet
  | verbose
  deriving DecidableEq, Repr

inductive Argument where
  | option (option : ValueOption)
  | flag (flag : Flag)
  deriving DecidableEq, Repr

/-- What a name on the command line stands for. -/
inductive Named where
  | argument (argument : Argument)
  | help
  | version
  deriving DecidableEq, Repr

inductive UsageError where
  | missingValue (option : ValueOption)
  | repeated (argument : Argument)
  | conflicting (argument other : Argument)
  | needlessValue (name value : String)
  | unexpected (argument : String)
  | missingJson
  deriving DecidableEq, Repr

/-- Why a program does not get to its work. -/
inductive Stop where
  | help
  | version
  | usage (error : UsageError)
  deriving DecidableEq, Repr

/-- What the arguments ask for. -/
structure Invocation where
  json : String
  out : String
  stdout : Bool
  quiet : Bool
  verbose : Bool
  deriving DecidableEq, Repr

def defaultOut : String := "pocketbase-types.ts"

namespace Named

def ofLong? (name : List Char) : Option Named :=
  match String.ofList name with
  | "json" => some (.argument (.option .json))
  | "out" => some (.argument (.option .out))
  | "stdout" => some (.argument (.flag .stdout))
  | "quiet" => some (.argument (.flag .quiet))
  | "verbose" => some (.argument (.flag .verbose))
  | "help" => some .help
  | "version" => some .version
  | _ => none

def ofShort? (letter : Char) : Option Named :=
  match letter with
  | 'j' => some (.argument (.option .json))
  | 'o' => some (.argument (.option .out))
  | 'q' => some (.argument (.flag .quiet))
  | 'v' => some (.argument (.flag .verbose))
  | 'h' => some .help
  | 'V' => some .version
  | _ => none

end Named

/-- An argument by its form alone. -/
inductive Form where
  | separator
  | long (name : List Char) (value : Option (List Char))
  | short (letters : List Char)
  | plain (text : String)
  deriving DecidableEq, Repr

/-- A lone `-` is plain text. -/
def Form.of (text : String) : Form :=
  match text.toList with
  | ['-', '-'] => .separator
  | '-' :: '-' :: rest =>
      match rest.dropWhile (· ≠ '=') with
      | [] => .long rest none
      | _ :: value => .long (rest.takeWhile (· ≠ '=')) (some value)
  | '-' :: letter :: letters => .short (letter :: letters)
  | _ => .plain text

/-- Options and flags in the order in which they were given; a flag has no value. -/
structure Given where
  argument : Argument
  value : String
  deriving DecidableEq, Repr

/-- An option that has not been settled, with its value once that was read. -/
structure Waiting where
  option : ValueOption
  value : Option String
  deriving DecidableEq, Repr

structure Scan where
  given : List Given
  waiting : Option Waiting
  separated : Bool
  deriving DecidableEq, Repr

namespace Scan

def start : Scan := ⟨[], none, false⟩

def has (scan : Scan) (argument : Argument) : Bool :=
  scan.given.any (·.argument == argument)

def give (scan : Scan) (argument : Argument) (value : String) : Except Stop Scan :=
  if scan.has argument then .error (.usage (.repeated argument))
  else .ok { scan with given := scan.given ++ [⟨argument, value⟩] }

/-- An option that is given twice is refused for that, and only else for a value that is empty. -/
def giveValue (scan : Scan) (option : ValueOption) (value : String) : Except Stop Scan := do
  let given ← scan.give (.option option) value
  if value.isEmpty then .error (.usage (.missingValue option)) else .ok given

/-- Settles the option that waits, if one does. -/
def settle (scan : Scan) : Except Stop Scan :=
  match scan.waiting with
  | none => .ok scan
  | some ⟨option, none⟩ => .error (.usage (.missingValue option))
  | some ⟨option, some value⟩ => { scan with waiting := none }.giveValue option value

def await (scan : Scan) (option : ValueOption) : Scan :=
  { scan with waiting := some ⟨option, none⟩ }

/-- Takes an option with the value attached to it, or lets it wait for one. -/
def takeOption (scan : Scan) (option : ValueOption) (value : Option (List Char)) :
    Except Stop Scan := do
  let scan ← scan.settle
  match value with
  | some value => scan.giveValue option (String.ofList value)
  | none => .ok (scan.await option)

def takeFlag (scan : Scan) (flag : Flag) : Except Stop Scan := do
  let scan ← scan.settle
  scan.give (.flag flag) ""

/-- Stops for help or the version, once nothing waits. -/
def halt (scan : Scan) (stop : Stop) : Except Stop Scan := do
  let _ ← scan.settle
  .error stop

def unexpected (text : String) : Except Stop Scan :=
  .error (.usage (.unexpected text))

def takeLong (scan : Scan) (name : List Char) (value : Option (List Char)) : Except Stop Scan :=
  let written := String.ofList ('-' :: '-' :: name)
  match Named.ofLong? name, value with
  | none, _ => unexpected written
  | some (.argument (.option option)), value => scan.takeOption option value
  | some _, some value => .error (.usage (.needlessValue written (String.ofList value)))
  | some (.argument (.flag flag)), none => scan.takeFlag flag
  | some .help, none => scan.halt .help
  | some .version, none => scan.halt .version

/-- A value behind its letter, where a `=` in front of it does not count. -/
def attachedValue : List Char → Option (List Char)
  | [] => none
  | '=' :: value => some value
  | value => some value

/-- Takes letters that stand together; an option takes all that is behind it as its value. -/
def takeShort (scan : Scan) : List Char → Except Stop Scan
  | [] => .ok scan
  | letter :: letters =>
      match Named.ofShort? letter with
      | some (.argument (.flag flag)) => do
          let scan ← scan.takeFlag flag
          scan.takeShort letters
      | some (.argument (.option option)) => scan.takeOption option (attachedValue letters)
      | some .help => scan.halt .help
      | some .version => scan.halt .version
      | none => unexpected (String.ofList ['-', letter])

/-- Text that is no option: the value of an option that waits for one, or nothing that is known. -/
def takePlain (scan : Scan) (text : String) : Except Stop Scan :=
  match scan.waiting with
  | some ⟨option, none⟩ => .ok { scan with waiting := some ⟨option, some text⟩ }
  | _ => unexpected text

def take (scan : Scan) (text : String) : Except Stop Scan :=
  if scan.separated then unexpected text
  else
    match Form.of text with
    | .separator => .ok { scan with separated := true }
    | .long name value => scan.takeLong name value
    | .short letters => scan.takeShort letters
    | .plain text => scan.takePlain text

def value? (scan : Scan) (option : ValueOption) : Option String :=
  (scan.given.find? (·.argument == .option option)).map (·.value)

end Scan

namespace Argument

/-- Arguments that exclude each other. -/
def conflicts : Argument → Argument → Bool
  | .flag .stdout, .option .out => true
  | .option .out, .flag .stdout => true
  | .flag .quiet, .flag .verbose => true
  | .flag .verbose, .flag .quiet => true
  | _, _ => false

/-- The first of the given arguments that another one excludes, with that one. -/
def conflict? (given : List Argument) : Option (Argument × Argument) :=
  given.findSome? fun argument =>
    (given.find? argument.conflicts).map fun other => (argument, other)

end Argument

namespace Invocation

/-- The path of the document, from the arguments or else from the environment. -/
def json? (scan : Scan) (environment : Option String) : Except Stop (Option String) :=
  match scan.value? .json, environment with
  | some json, _ => .ok (some json)
  | none, some "" => .error (.usage (.missingValue .json))
  | none, json => .ok json

def ofScan (scan : Scan) (environment : Option String) : Except Stop Invocation := do
  let scan ← scan.settle
  let json ← json? scan environment
  match Argument.conflict? (scan.given.map (·.argument)), json with
  | some (argument, other), _ => .error (.usage (.conflicting argument other))
  | none, none => .error (.usage .missingJson)
  | none, some json =>
      .ok {
        json
        out := (scan.value? .out).getD defaultOut
        stdout := scan.has (.flag .stdout)
        quiet := scan.has (.flag .quiet)
        verbose := scan.has (.flag .verbose) }

/-- Reads the arguments, with the path that the environment gives for a missing `--json`. -/
def ofArguments (arguments : List String) (environment : Option String) :
    Except Stop Invocation := do
  let scan ← arguments.foldlM Scan.take Scan.start
  ofScan scan environment

end Invocation

end CollectionTypes.CommandLine
