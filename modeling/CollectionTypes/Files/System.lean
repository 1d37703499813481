import CollectionTypes.Files.Failure
import CollectionTypes.Files.Path

/-!
# File systems

What a program asks of a file system, and what follows from it: telling directories apart and making
a chain of them.
-/

namespace CollectionTypes

class FileSystem (m : Type → Type) where
  read : String → m (Except FileFailure ByteArray)
  write : String → ByteArray → m (Except FileFailure Unit)
  makeDirectory : String → m (Except FileFailure Unit)

namespace FileSystem

variable {m : Type → Type} [Monad m] [FileSystem m]

/-- A directory is what cannot be read because it is one. -/
def isDirectory (path : String) : m Bool := do
  match ← read path with
  | .error .isDirectory => pure true
  | _ => pure false

/-- A directory that is there already is as good as a new one. -/
def ensureDirectory (path : String) : m (Except FileFailure Unit) := do
  match ← makeDirectory path with
  | .ok () => pure (.ok ())
  | .error failure =>
      if ← isDirectory path then pure (.ok ()) else pure (.error failure)

/-- Makes a directory, given the ancestors from the inside out; they are only made where one of them
is missing. -/
def ensureDirectories : List String → m (Except FileFailure Unit)
  | [] => pure (.ok ())
  | path :: outer => do
      match ← makeDirectory path with
      | .error .notFound =>
          match ← ensureDirectories outer with
          | .ok () => ensureDirectory path
          | .error failure => pure (.error failure)
      | .ok () => pure (.ok ())
      | .error failure =>
          if ← isDirectory path then pure (.ok ()) else pure (.error failure)

end FileSystem

end CollectionTypes
