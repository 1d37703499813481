import CollectionTypes.CommandLine.Log
import CollectionTypes.CommandLine.LogFilter
import CollectionTypes.CommandLine.Usage
import CollectionTypes.Files.System

/-!
# Runs

A run of the program on a file system: it reads a document, and prints or writes the module for it.
What it prints is part of its outcome.

Specification: sections 6 (command line) and 7 (exit code and error chain).
-/

namespace CollectionTypes.CommandLine

structure Environment where
  json : Option String
  log : Option String

structure Outcome where
  exitCode : UInt32
  stdout : String
  stderr : List String
  deriving DecidableEq, Repr

namespace Invocation

def level (invocation : Invocation) : Level :=
  if invocation.quiet then .error else if invocation.verbose then .debug else .warn

end Invocation

namespace Environment

/-- The filter that the environment sets, if it can be read, or else the level of the flags. -/
def filter (environment : Environment) (level : Level) : LogFilter :=
  match environment.log.bind LogFilter.ofText? with
  | some filter => filter
  | none => .ofLevel level

end Environment

/-- The last line of a run that failed: what it was about, and each error behind the one before. -/
def failureLine (chain : List String) : String :=
  "pbtypegen error: " ++ ": ".intercalate chain

variable {m : Type → Type} [Monad m] [FileSystem m]

/-- Why the module was not written, with the path that it was about. -/
inductive WriteError where
  | directory (path : String) (failure : FileFailure)
  | file (path : String) (failure : FileFailure)
  deriving DecidableEq, Repr

def WriteError.chain : WriteError → List String
  | .directory path failure => ["failed to create directory " ++ path, failure.message]
  | .file path failure => ["failed to write " ++ path, failure.message]

/-- Makes the directories that lead to a path, if any are named. -/
def makeParents (path : String) : m (Except WriteError Unit) := do
  match Path.directories path with
  | [] => pure (.ok ())
  | parent :: outer =>
      match ← FileSystem.ensureDirectories (parent :: outer) with
      | .ok () => pure (.ok ())
      | .error failure => pure (.error (.directory parent failure))

def writeModule (path text : String) : m (Except WriteError Unit) := do
  match ← makeParents path with
  | .error error => pure (.error error)
  | .ok () =>
      match ← FileSystem.write path text.toUTF8 with
      | .ok () => pure (.ok ())
      | .error failure => pure (.error (.file path failure))

/-- What is told about a document that was read. -/
def documentEvents (collections : Except DocumentError (List Collection)) : List Event :=
  match collections with
  | .ok collections => moduleEvents (.ofCollections collections)
  | .error _ => []

def readingEvent (invocation : Invocation) : Event :=
  ⟨.info, programTarget, "Reading schema from " ++ invocation.json⟩

def wroteEvent (invocation : Invocation) (text : String) : Event :=
  ⟨.info, programTarget,
    "Wrote " ++ toString text.utf8ByteSize ++ " bytes to " ++ invocation.out⟩

/-- Reads the document and generates the module, with what was told on the way. -/
def loadModule (invocation : Invocation) : m (Except GenerationError String × List Event) := do
  let collections := Document.collectionsOfContent (← FileSystem.read invocation.json)
  pure (generateFrom collections, readingEvent invocation :: documentEvents collections)

/-- Does what the arguments ask for. -/
def perform (invocation : Invocation) (filter : LogFilter) : m Outcome := do
  let (result, events) ← loadModule invocation
  let told := filter.lines events
  match result with
  | .error error =>
      let context := "failed to generate types from " ++ invocation.json
      pure ⟨1, "", told ++ [failureLine (context :: error.chain)]⟩
  | .ok text =>
      if invocation.stdout then pure ⟨0, text ++ "\n", told⟩
      else
        match ← writeModule invocation.out text with
        | .ok () => pure ⟨0, "", told ++ filter.lines [wroteEvent invocation text]⟩
        | .error error => pure ⟨1, "", told ++ [failureLine error.chain]⟩

/-- The outcome where the arguments ask for no work or are wrong. -/
def Stop.outcome (environment : Environment) : Stop → Outcome
  | .help => ⟨0, helpText environment.json, []⟩
  | .version => ⟨0, versionText, []⟩
  | .usage error => ⟨2, "", error.lines⟩

def run (arguments : List String) (environment : Environment) : m Outcome := do
  match Invocation.ofArguments arguments environment.json with
  | .error stop => pure (stop.outcome environment)
  | .ok invocation => perform invocation (environment.filter invocation.level)

end CollectionTypes.CommandLine
