import CollectionTypes.Schema.Document
import CollectionTypes.TypeScript.Module

/-!
# Generation

From collections, a document or the content of a file to the text of a module.

Specification: sections 6 (library interface) and 7 (generation errors).
-/

namespace CollectionTypes

/-- Why there is no module: the document is at fault, or a relation has no target. -/
inductive GenerationError where
  | document (error : DocumentError)
  | unresolved (error : UnresolvedTarget)
  deriving DecidableEq, Repr

namespace GenerationError

def message : GenerationError → String
  | .document error => "schema parse error: " ++ error.message
  | .unresolved error => "schema error: " ++ error.message

/-- The message and then that of each error behind it, the outermost first. -/
def chain : GenerationError → List String
  | .document error =>
      let inner := match error with
        | .unknownType .. => [error.message]
        | .malformed .. | .unreadable _ => [error.message, error.detail]
      message (.document error) :: inner
  | .unresolved error => [message (.unresolved error), error.message]

end GenerationError

/-- Collections lead to a text, or to the first relation that has no target. -/
def generate (collections : List Collection) : Except GenerationError String :=
  (TypeScript.generate (.ofCollections collections)).mapError .unresolved

/-- A document that could not be read fails before any relation is looked at. -/
def generateFrom (collections : Except DocumentError (List Collection)) :
    Except GenerationError String :=
  match collections with
  | .ok collections => generate collections
  | .error error => .error (.document error)

def generateFromDocument (document : String) : Except GenerationError String :=
  generateFrom (Document.collections document)

/-- The content of a file, or why there is none. -/
def generateFromContent (content : Except FileFailure ByteArray) :
    Except GenerationError String :=
  generateFrom (Document.collectionsOfContent content)

end CollectionTypes
