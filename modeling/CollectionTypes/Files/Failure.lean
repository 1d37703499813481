/-!
# Failures of files

Why a file was not read or written, with the numbers that systems give these failures.

Specification: section 7 (failures of files).
-/

namespace CollectionTypes

/-- The reasons that a system gives for not doing what it was asked. -/
inductive FileFailure where
  | notFound
  | alreadyExists
  | notDirectory
  | isDirectory
  | nameTooLong
  | notText
  | other (reason : String)
  deriving DecidableEq, Repr

def FileFailure.message : FileFailure → String
  | .notFound => "No such file or directory (os error 2)"
  | .alreadyExists => "File exists (os error 17)"
  | .notDirectory => "Not a directory (os error 20)"
  | .isDirectory => "Is a directory (os error 21)"
  | .nameTooLong => "File name too long (os error 36)"
  | .notText => "stream did not contain valid UTF-8"
  | .other reason => reason

end CollectionTypes
