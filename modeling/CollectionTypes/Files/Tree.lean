import CollectionTypes.Files.System

/-!
# File trees

A file system as a value: what stands at each place, a place being the list of names that leads to
it from the root. Paths are followed from the root or from the working directory. The root and what
is on the way to an entry are meant to be directories; nothing here takes an entry away.
-/

namespace CollectionTypes

inductive FileEntry where
  | file (content : ByteArray)
  | directory

structure FileTree where
  workingDirectory : List String
  entries : List (List String × FileEntry)

namespace FileTree

abbrev Place := List String

def get? (tree : FileTree) (place : Place) : Option FileEntry :=
  if place.isEmpty then some .directory else tree.entries.lookup place

def put (tree : FileTree) (place : Place) (entry : FileEntry) : FileTree :=
  { tree with entries := (place, entry) :: tree.entries.filter (·.1 != place) }

theorem lookup_without (place other : Place) (h : other ≠ place)
    (entries : List (Place × FileEntry)) :
    (entries.filter (·.1 != place)).lookup other = entries.lookup other := by
  induction entries with
  | nil => rfl
  | cons head rest ih =>
      obtain ⟨key, entry⟩ := head
      by_cases gone : key = place
      · subst gone
        have absent : (other == key) = false := by simp [h]
        simp [ih, List.lookup_cons, absent]
      · simp [gone, ih, List.lookup_cons]

theorem get?_put (tree : FileTree) (place other : Place) (entry : FileEntry)
    (h : place ≠ []) :
    (tree.put place entry).get? other = if other = place then some entry else tree.get? other := by
  by_cases same : other = place
  · simp [get?, put, same, h]
  · have apart : (other == place) = false := by simp [same]
    simp [get?, put, same, List.lookup_cons, apart, lookup_without place other same]

/-- The most bytes that a name can have. -/
def nameLimit : Nat := 255

/-- The most bytes that a path can have. -/
def pathLimit : Nat := 4095

/-- Follows the parts of a path. Every part is looked for in a directory; whether something stands
at the place that the last one leads to is left open. -/
def follow (tree : FileTree) : Place → List String → Except FileFailure Place
  | place, [] => .ok place
  | place, part :: rest =>
      match tree.get? place with
      | none => .error .notFound
      | some (.file _) => .error .notDirectory
      | some .directory =>
          if part = "" || part = "." then tree.follow place rest
          else if part = ".." then tree.follow place.dropLast rest
          else if nameLimit < part.utf8ByteSize then .error .nameTooLong
          else tree.follow (place ++ [part]) rest

/-- Follows parts of a path from where the path starts; an empty first part stands for the root. -/
def locateParts (tree : FileTree) (path : String) (parts : List String) :
    Except FileFailure Place :=
  if pathLimit < path.utf8ByteSize then .error .nameTooLong
  else
    let start := if (Path.parts path).head? = some "" then [] else tree.workingDirectory
    tree.follow start parts

/-- The place that a path leads to. -/
def locate (tree : FileTree) (path : String) : Except FileFailure Place :=
  tree.locateParts path (Path.parts path)

/-- Looks for the directory in which the last name of a path stands. -/
def locateParent (tree : FileTree) (path : String) : Except FileFailure Place :=
  tree.locateParts path ((Path.dropSlashes (Path.parts path)).dropLast ++ [""])

def read (tree : FileTree) (path : String) : Except FileFailure ByteArray := do
  match tree.get? (← tree.locate path) with
  | none => .error .notFound
  | some .directory => .error .isDirectory
  | some (.file content) => .ok content

/-- A path with a slash at its end means a directory, which cannot be written. -/
def write (tree : FileTree) (path : String) (content : ByteArray) :
    Except FileFailure FileTree := do
  if (Path.parts path).getLast? = some "" then
    let _ ← tree.locateParent path
    .error .isDirectory
  else
    let place ← tree.locate path
    match tree.get? place with
    | some .directory => .error .isDirectory
    | _ => .ok (tree.put place (.file content))

def makeDirectory (tree : FileTree) (path : String) : Except FileFailure FileTree := do
  let place ← tree.locate path
  match tree.get? place with
  | some _ => .error .alreadyExists
  | none => .ok (tree.put place .directory)

/-- Keeps the tree where a change fails. -/
def change (f : FileTree → Except FileFailure FileTree) :
    StateM FileTree (Except FileFailure Unit) :=
  fun tree =>
    match f tree with
    | .ok changed => (.ok (), changed)
    | .error failure => (.error failure, tree)

instance : FileSystem (StateM FileTree) where
  read path := fun tree => (tree.read path, tree)
  write path content := change (·.write path content)
  makeDirectory path := change (·.makeDirectory path)

end FileTree

end CollectionTypes
