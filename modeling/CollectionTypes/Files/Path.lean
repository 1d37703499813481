/-!
# Paths

A path is a text whose parts stand between slashes. Empty parts and `.` behind the first part lead
nowhere, so the parent of a path is found by dropping them at the end.
-/

namespace CollectionTypes.Path

def parts (path : String) : List String :=
  (path.toList.splitOn '/').map String.ofList

def ofParts (parts : List String) : String :=
  "/".intercalate parts

/-- The parts from the last on, without those at the end that lead nowhere. A first part stays. -/
def dropIdle : List String → List String
  | part :: before :: more =>
      if part = "" || part = "." then dropIdle (before :: more) else part :: before :: more
  | reversed => reversed

/-- The parts without the empty ones at the end, which slashes there leave. -/
def dropSlashes (parts : List String) : List String :=
  (parts.reverse.dropWhile (·.isEmpty)).reverse

/-- The parts of the parent, from the last on. The root, a lone empty part, has none. -/
def parentParts? (reversed : List String) : Option (List String) :=
  match dropIdle reversed with
  | [] | [""] => none
  | _ :: before => some (dropIdle before)

/-- The path and its ancestors from the inside out, as long as they are named. -/
def namedAncestors : Nat → List String → List String
  | 0, _ => []
  | steps + 1, reversed =>
      match reversed with
      | [] => []
      | [""] => ["/"]
      | _ =>
          ofParts reversed.reverse ::
            ((parentParts? reversed).elim [] (namedAncestors steps))

/-- The directories that lead to a path, from the inside out. A parent has fewer parts than its
path, so their number bounds the directories. -/
def directories (path : String) : List String :=
  let reversed := (parts path).reverse
  (parentParts? reversed).elim [] (namedAncestors reversed.length)

end CollectionTypes.Path
