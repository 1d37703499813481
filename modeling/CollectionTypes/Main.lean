import CollectionTypes.CommandLine.Run

/-!
# The program

Runs the program on the files of the system.

Specification: section 6 (command line).
-/

namespace CollectionTypes

/-- The number of a failure comes as it is or negated. -/
def FileFailure.ofSystem (error : IO.Error) : FileFailure :=
  match error with
  | .noFileOrDirectory .. => .notFound
  | .alreadyExists .. => .alreadyExists
  | .inappropriateType _ code _ => if code = 21 then .isDirectory else .notDirectory
  | .invalidArgument _ code _ =>
      if code = 36 || code + 36 = 0 then .nameTooLong else .other (toString error)
  | error => .other (toString error)

def onSystem (action : IO α) : IO (Except FileFailure α) := do
  match ← action.toBaseIO with
  | .ok value => pure (.ok value)
  | .error error => pure (.error (.ofSystem error))

instance : FileSystem IO where
  read path := onSystem (IO.FS.readBinFile path)
  write path content := onSystem (IO.FS.writeBinFile path content)
  makeDirectory path := onSystem (IO.FS.createDir path)

end CollectionTypes

open CollectionTypes.CommandLine in
def main (arguments : List String) : IO UInt32 := do
  let environment : Environment :=
    ⟨← IO.getEnv "PBTYPEGEN_JSON", ← IO.getEnv "PBTYPEGEN_LOG"⟩
  let outcome ← run arguments environment
  outcome.stderr.forM IO.eprintln
  IO.print outcome.stdout
  return outcome.exitCode
