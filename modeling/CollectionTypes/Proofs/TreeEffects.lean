import CollectionTypes.Files.Tree
import Mathlib.Data.List.Infix

/-!
# Effects on file trees

What becomes of a file tree where directories are made and a file is written. The ancestors of a
path are told from its text, and every directory that is made is one of them. No change takes a
directory away, so a path leads on to the place that it led to before.
-/

namespace CollectionTypes

namespace Path

/-- What stands in front of a slash of a path. -/
def IsAncestor (directory path : String) : Prop :=
  ∃ rest, path = directory ++ "/" ++ rest

theorem toList_ofParts (parts : List String) :
    (ofParts parts).toList = ['/'].intercalate (parts.map String.toList) :=
  String.toList_intercalate

theorem ofParts_parts (path : String) : ofParts (parts path) = path := by
  apply String.toList_injective
  have texts : (parts path).map String.toList = path.toList.splitOn '/' := by
    rw [parts, List.map_map]
    exact List.map_id'' (fun _ => String.toList_ofList) _
  rw [toList_ofParts, texts, List.intercalate_splitOn]

theorem ofParts_append {front back : List String} (someFront : front ≠ []) (someBack : back ≠ []) :
    ofParts (front ++ back) = ofParts front ++ "/" ++ ofParts back := by
  obtain ⟨first, back, rfl⟩ := List.exists_cons_of_ne_nil someBack
  induction front with
  | nil => exact absurd rfl someFront
  | cons part front ih =>
    cases front with
    | nil => simp [ofParts, String.intercalate_cons_cons]
    | cons next front =>
      have tail := ih (List.cons_ne_nil _ _)
      simp only [ofParts, List.cons_append] at tail ⊢
      rw [String.intercalate_cons_cons, tail, String.intercalate_cons_cons]
      simp only [String.append_assoc]

theorem dropIdle_suffix (reversed : List String) : dropIdle reversed <:+ reversed := by
  induction reversed with
  | nil => exact List.suffix_rfl
  | cons part reversed ih =>
    cases reversed with
    | nil => exact List.suffix_rfl
    | cons before more =>
      rw [dropIdle]
      split
      · exact ih.trans (List.suffix_cons _ _)
      · exact List.suffix_rfl

theorem parentParts?_eq_some {reversed parent : List String}
    (found : parentParts? reversed = some parent) :
    ∃ behind, behind ≠ [] ∧ reversed = behind ++ parent := by
  unfold parentParts? at found
  split at found
  · cases found
  · cases found
  next last before _ shape =>
    obtain rfl := Option.some.inj found
    obtain ⟨idle, kept⟩ := dropIdle_suffix reversed
    obtain ⟨dots, named⟩ := dropIdle_suffix before
    refine ⟨idle ++ last :: dots, by simp, ?_⟩
    rw [List.append_assoc, List.cons_append, named, ← shape, kept]

theorem mem_namedAncestors {steps : Nat} {reversed : List String} {directory : String}
    (member : directory ∈ namedAncestors steps reversed) :
    directory = "/" ∨
      ∃ behind named, named ≠ [] ∧ reversed = behind ++ named ∧
        directory = ofParts named.reverse := by
  induction steps generalizing reversed with
  | zero => cases member
  | succ steps ih =>
    unfold namedAncestors at member
    split at member
    · cases member
    · exact .inl (List.mem_singleton.mp member)
    next one _ =>
      rcases List.mem_cons.mp member with rfl | outer
      · exact .inr ⟨[], reversed, one, rfl, rfl⟩
      · cases found : parentParts? reversed with
        | none => simp [found] at outer
        | some parent =>
          rw [found] at outer
          obtain ⟨behind, -, rfl⟩ := parentParts?_eq_some found
          refine (ih outer).imp id ?_
          rintro ⟨between, named, some, rfl, same⟩
          exact ⟨behind ++ between, named, some, (List.append_assoc ..).symm, same⟩

/-- Every directory that is made for a path is the root or an ancestor of it. -/
theorem mem_directories {directory path : String} (member : directory ∈ directories path) :
    directory = "/" ∨ IsAncestor directory path := by
  rw [directories] at member
  cases found : parentParts? (parts path).reverse with
  | none => simp [found] at member
  | some parent =>
    rw [found] at member
    obtain ⟨last, someLast, whole⟩ := parentParts?_eq_some found
    refine (mem_namedAncestors member).imp id ?_
    rintro ⟨behind, named, some, rfl, rfl⟩
    have split : parts path = named.reverse ++ (last ++ behind).reverse := by
      rw [← List.reverse_reverse (parts path), whole, ← List.append_assoc, List.reverse_append]
    refine ⟨ofParts (last ++ behind).reverse, ?_⟩
    rw [← ofParts_append (by simpa using some) (by simp [someLast]), ← split, ofParts_parts]

end Path

namespace FileTree

/-- Where one part leads to from a directory. -/
def stride (place : Place) (part : String) : Except FileFailure Place :=
  if part = "" || part = "." then .ok place
  else if part = ".." then .ok place.dropLast
  else if nameLimit < part.utf8ByteSize then .error .nameTooLong
  else .ok (place ++ [part])

/-- Parts lead somewhere one after the other, each of them from a directory. -/
theorem follow_cons_eq_ok_iff {tree : FileTree} {start last : Place} {part : String}
    {parts : List String} :
    tree.follow start (part :: parts) = .ok last ↔
      tree.get? start = some .directory ∧
        ∃ next, stride start part = .ok next ∧ tree.follow next parts = .ok last := by
  rw [follow, stride]
  cases tree.get? start with
  | none => simp
  | some entry =>
    cases entry with
    | file content => simp
    | directory => split_ifs <;> simp

section Ways

variable {before after : FileTree}

/-- Every directory is still there, and paths start where they did. -/
structure KeepsWays (before after : FileTree) : Prop where
  workingDirectory : after.workingDirectory = before.workingDirectory
  directories : ∀ place, before.get? place = some .directory → after.get? place = some .directory

theorem KeepsWays.follow (keeps : KeepsWays before after) {parts : List String} {start last : Place}
    (reached : before.follow start parts = .ok last) : after.follow start parts = .ok last := by
  induction parts generalizing start with
  | nil => exact reached
  | cons part parts ih =>
    obtain ⟨there, next, leads, rest⟩ := follow_cons_eq_ok_iff.mp reached
    exact follow_cons_eq_ok_iff.mpr ⟨keeps.directories start there, next, leads, ih rest⟩

theorem KeepsWays.locate (keeps : KeepsWays before after) {path : String} {place : Place}
    (reached : before.locate path = .ok place) : after.locate path = .ok place := by
  rw [FileTree.locate, locateParts] at reached ⊢
  rw [keeps.workingDirectory]
  split
  next long =>
    rw [if_pos long] at reached
    cases reached
  next short =>
    rw [if_neg short] at reached
    exact keeps.follow reached

/-- The root is a directory whatever the entries are. -/
theorem ne_root_of_free {tree : FileTree} {place : Place}
    (free : tree.get? place ≠ some .directory) : place ≠ [] := by
  rintro rfl
  exact free rfl

/-- What is put where no directory is stands in nobody's way. -/
theorem keepsWays_put {tree : FileTree} {place : Place} (entry : FileEntry)
    (free : tree.get? place ≠ some .directory) : KeepsWays tree (tree.put place entry) where
  workingDirectory := rfl
  directories other there := by
    rw [get?_put tree place other entry (ne_root_of_free free), if_neg, there]
    rintro rfl
    exact free there

end Ways

section Directories

variable {before after : FileTree}

/-- At a place where nothing was, a directory was made that one of some paths leads to. -/
structure Made (paths : String → Prop) (before after : FileTree) (place : Place) : Prop where
  new : before.get? place = none
  directory : after.get? place = some .directory
  reached : ∃ path, paths path ∧ after.locate path = .ok place

/-- Nothing was done but to make directories that some paths lead to. -/
structure Grown (paths : String → Prop) (before after : FileTree) : Prop where
  workingDirectory : after.workingDirectory = before.workingDirectory
  places : ∀ place, after.get? place = before.get? place ∨ Made paths before after place

variable {paths : String → Prop}

theorem Grown.refl (tree : FileTree) : Grown paths tree tree where
  workingDirectory := rfl
  places _ := .inl rfl

theorem Grown.keepsWays (grown : Grown paths before after) : KeepsWays before after where
  workingDirectory := grown.workingDirectory
  directories place there := by
    rcases grown.places place with same | made
    · rw [same, there]
    · exact made.directory

theorem Grown.trans {middle : FileTree} (first : Grown paths before middle)
    (second : Grown paths middle after) : Grown paths before after where
  workingDirectory := second.workingDirectory.trans first.workingDirectory
  places place := by
    rcases first.places place with same | made
    · refine (second.places place).imp (·.trans same) fun made => ?_
      exact ⟨same ▸ made.new, made.directory, made.reached⟩
    · obtain ⟨path, one, reached⟩ := made.reached
      exact .inr ⟨made.new, second.keepsWays.directories place made.directory, path, one,
        second.keepsWays.locate reached⟩

/-- No content of a file is new or gone. -/
theorem Grown.files (grown : Grown paths before after) (place : Place) (content : ByteArray) :
    after.get? place = some (.file content) ↔ before.get? place = some (.file content) := by
  rcases grown.places place with same | made
  · rw [same]
  · simp [made.new, made.directory]

theorem makeDirectory_eq_ok {tree changed : FileTree} {path : String}
    (done : tree.makeDirectory path = .ok changed) :
    ∃ place, tree.locate path = .ok place ∧ tree.get? place = none ∧
      changed = tree.put place .directory := by
  rw [FileTree.makeDirectory] at done
  cases reached : tree.locate path with
  | error failure => simp [reached, bind, Except.bind] at done
  | ok place =>
    cases there : tree.get? place with
    | some entry => simp [reached, bind, Except.bind, there] at done
    | none =>
      simp only [reached, bind, Except.bind, there, Except.ok.injEq] at done
      exact ⟨place, rfl, there, done.symm⟩

theorem grown_makeDirectory {tree changed : FileTree} {path : String} (one : paths path)
    (done : tree.makeDirectory path = .ok changed) : Grown paths tree changed := by
  obtain ⟨place, reached, there, rfl⟩ := makeDirectory_eq_ok done
  have free : tree.get? place ≠ some .directory := by simp [there]
  have entry (other : Place) := get?_put tree place other .directory (ne_root_of_free free)
  refine ⟨rfl, fun other => ?_⟩
  by_cases same : other = place
  · subst same
    exact .inr ⟨there, by rw [entry, if_pos rfl], path, one, (keepsWays_put _ free).locate reached⟩
  · exact .inl (by rw [entry, if_neg same])

end Directories

section Programs

variable {paths : String → Prop}

/-- Whether a path leads to a directory. -/
def leadsToDirectory (tree : FileTree) (path : String) : Bool :=
  match tree.read path with
  | .error .isDirectory => true
  | _ => false

theorem locate_root (tree : FileTree) : tree.locate "/" = .ok [] := by
  rw [locate, locateParts, if_neg (by decide), if_pos (by decide)]
  rw [show Path.parts "/" = ["", ""] by decide]
  rfl

theorem run_makeDirectory (path : String) (tree : FileTree) :
    (FileSystem.makeDirectory path : StateM FileTree (Except FileFailure Unit)).run tree =
      match tree.makeDirectory path with
      | .ok changed => (.ok (), changed)
      | .error failure => (.error failure, tree) :=
  rfl

theorem run_isDirectory (path : String) (tree : FileTree) :
    (FileSystem.isDirectory path : StateM FileTree Bool).run tree =
      (tree.leadsToDirectory path, tree) := by
  rw [FileSystem.isDirectory, StateT.run_bind, leadsToDirectory]
  change (match tree.read path with
    | .error .isDirectory => (pure true : StateM FileTree Bool)
    | _ => pure false).run tree = _
  split <;> rfl

/-- What comes of a directory that could not be made. -/
def unlessDirectory (tree : FileTree) (path : String) (failure : FileFailure) :
    Except FileFailure Unit × FileTree :=
  (if tree.leadsToDirectory path then .ok () else .error failure, tree)

theorem run_unlessDirectory (path : String) (failure : FileFailure) (tree : FileTree) :
    StateT.run (do
      if ← FileSystem.isDirectory path then pure (.ok ()) else pure (.error failure) :
        StateM FileTree (Except FileFailure Unit)) tree = tree.unlessDirectory path failure := by
  rw [StateT.run_bind, run_isDirectory, unlessDirectory]
  cases tree.leadsToDirectory path <;> rfl

theorem run_ensureDirectory (path : String) (tree : FileTree) :
    (FileSystem.ensureDirectory path : StateM FileTree (Except FileFailure Unit)).run tree =
      match tree.makeDirectory path with
      | .ok changed => (.ok (), changed)
      | .error failure => tree.unlessDirectory path failure := by
  rw [FileSystem.ensureDirectory, StateT.run_bind, run_makeDirectory]
  cases tree.makeDirectory path with
  | ok changed => rfl
  | error failure => exact run_unlessDirectory path failure tree

theorem run_ensureDirectories_cons (path : String) (outer : List String) (tree : FileTree) :
    (FileSystem.ensureDirectories (path :: outer) :
        StateM FileTree (Except FileFailure Unit)).run tree =
      match tree.makeDirectory path with
      | .error .notFound =>
          match (FileSystem.ensureDirectories outer :
              StateM FileTree (Except FileFailure Unit)).run tree with
          | (.ok (), middle) =>
              (FileSystem.ensureDirectory path :
                StateM FileTree (Except FileFailure Unit)).run middle
          | (.error failure, middle) => (.error failure, middle)
      | .ok changed => (.ok (), changed)
      | .error failure => tree.unlessDirectory path failure := by
  rw [FileSystem.ensureDirectories, StateT.run_bind, run_makeDirectory]
  cases made : tree.makeDirectory path with
  | ok changed => rfl
  | error failure =>
    cases failure with
    | notFound =>
      change ((FileSystem.ensureDirectories outer >>= _ :
        StateM FileTree (Except FileFailure Unit)).run tree) = _
      rw [StateT.run_bind]
      dsimp only
      obtain ⟨result, middle⟩ := (FileSystem.ensureDirectories outer :
        StateM FileTree (Except FileFailure Unit)).run tree
      cases result with
      | ok done => rfl
      | error failure => rfl
    | _ => exact run_unlessDirectory path _ tree

/-- A path leads nowhere, or to a file. -/
def Blocked (tree : FileTree) (path : String) : Prop :=
  ∀ place, tree.locate path = .ok place → ∃ content, tree.get? place = some (.file content)

theorem blocked_of_makeDirectory {tree : FileTree} {path : String} {failure : FileFailure}
    (failed : tree.makeDirectory path = .error failure)
    (noDirectory : tree.leadsToDirectory path = false) : tree.Blocked path := by
  intro place reached
  cases there : tree.get? place with
  | none => simp [FileTree.makeDirectory, reached, bind, Except.bind, there] at failed
  | some entry =>
    cases entry with
    | file content => exact ⟨content, rfl⟩
    | directory =>
      simp [leadsToDirectory, FileTree.read, reached, bind, Except.bind, there] at noDirectory

/-- What comes of making directories: no change but such directories, and where they could not all
be made, one of them is blocked. -/
structure Ensured (paths : String → Prop) (before : FileTree)
    (result : Except FileFailure Unit × FileTree) : Prop where
  grown : Grown paths before result.2
  blocked : ∀ failure, result.1 = .error failure → ∃ path, paths path ∧ result.2.Blocked path

theorem ensured_unlessDirectory {tree : FileTree} {path : String} {failure : FileFailure}
    (one : paths path) (failed : tree.makeDirectory path = .error failure) :
    Ensured paths tree (tree.unlessDirectory path failure) where
  grown := .refl tree
  blocked _ refused := by
    cases there : tree.leadsToDirectory path with
    | true => simp [unlessDirectory, there] at refused
    | false => exact ⟨path, one, blocked_of_makeDirectory failed there⟩

theorem ensured_ensureDirectory {path : String} (one : paths path) (tree : FileTree) :
    Ensured paths tree ((FileSystem.ensureDirectory path :
      StateM FileTree (Except FileFailure Unit)).run tree) := by
  rw [run_ensureDirectory]
  cases made : tree.makeDirectory path with
  | ok changed => exact ⟨grown_makeDirectory one made, fun _ failed => by cases failed⟩
  | error failure => exact ensured_unlessDirectory one made

theorem Ensured.after {before middle : FileTree} {result : Except FileFailure Unit × FileTree}
    (grown : Grown paths before middle) (ensured : Ensured paths middle result) :
    Ensured paths before result where
  grown := grown.trans ensured.grown
  blocked := ensured.blocked

/-- The outer directories are made first, and then the path itself is tried again. -/
theorem ensured_ensureDirectories {directories : List String}
    (each : ∀ path ∈ directories, paths path) (tree : FileTree) :
    Ensured paths tree ((FileSystem.ensureDirectories directories :
      StateM FileTree (Except FileFailure Unit)).run tree) := by
  induction directories with
  | nil => exact ⟨.refl tree, fun _ failed => by cases failed⟩
  | cons path outer ih =>
    have one : paths path := each path List.mem_cons_self
    rw [run_ensureDirectories_cons]
    cases made : tree.makeDirectory path with
    | ok changed => exact ⟨grown_makeDirectory one made, fun _ failed => by cases failed⟩
    | error failure =>
      cases failure with
      | notFound =>
        have outerEnsured := ih fun other member => each other (List.mem_cons_of_mem _ member)
        cases outerDone : (FileSystem.ensureDirectories outer :
          StateM FileTree (Except FileFailure Unit)).run tree with
        | mk result middle =>
          rw [outerDone] at outerEnsured
          cases result with
          | ok done => exact (ensured_ensureDirectory one middle).after outerEnsured.grown
          | error failure => exact ⟨outerEnsured.grown, outerEnsured.blocked⟩
      | _ => exact ensured_unlessDirectory one made

/-- The root is there from the start, so it is neither made nor blocked. -/
theorem Ensured.without_root {before : FileTree} {result : Except FileFailure Unit × FileTree}
    (ensured : Ensured (fun path => path = "/" ∨ paths path) before result) :
    Ensured paths before result where
  grown := by
    refine ⟨ensured.grown.workingDirectory, fun place => (ensured.grown.places place).imp id ?_⟩
    intro made
    obtain ⟨path, rfl | one, reached⟩ := made.reached
    · rw [locate_root] at reached
      obtain rfl := Except.ok.inj reached
      cases made.new
    · exact ⟨made.new, made.directory, path, one, reached⟩
  blocked failure failed := by
    obtain ⟨path, rfl | one, blocked⟩ := ensured.blocked failure failed
    · obtain ⟨content, file⟩ := blocked [] (locate_root _)
      cases file
    · exact ⟨path, one, blocked⟩

end Programs

section Files

variable {tree changed : FileTree} {path : String} {content : ByteArray}

theorem write_eq_ok (done : tree.write path content = .ok changed) :
    ∃ place, tree.locate path = .ok place ∧ tree.get? place ≠ some .directory ∧
      changed = tree.put place (.file content) := by
  rw [FileTree.write] at done
  split at done
  · cases parent : tree.locateParent path with
    | error failure => simp [parent, bind, Except.bind] at done
    | ok place => simp [parent, bind, Except.bind] at done
  · cases reached : tree.locate path with
    | error failure => simp [reached, bind, Except.bind] at done
    | ok place =>
      simp only [reached, bind, Except.bind] at done
      split at done
      · cases done
      next free => exact ⟨place, rfl, free, (Except.ok.inj done).symm⟩

/-- A path ends with a slash, or it leads nowhere or to a directory. -/
def Unwritable (tree : FileTree) (path : String) : Prop :=
  (Path.parts path).getLast? = some "" ∨
    ∀ place, tree.locate path = .ok place → tree.get? place = some .directory

theorem unwritable_of_write {failure : FileFailure}
    (failed : tree.write path content = .error failure) : tree.Unwritable path := by
  rw [FileTree.write] at failed
  split at failed
  next slash => exact .inl slash
  next =>
    right
    intro place reached
    simp only [reached, bind, Except.bind] at failed
    split at failed
    next there => exact there
    · cases failed

/-- What was written is read again, and is all that changed. -/
theorem write_effect (done : tree.write path content = .ok changed) :
    changed.read path = .ok content ∧ KeepsWays tree changed ∧
      ∃ target, changed.locate path = .ok target ∧
        ∀ place, place ≠ target → changed.get? place = tree.get? place := by
  obtain ⟨place, reached, free, rfl⟩ := write_eq_ok done
  have keeps : KeepsWays tree (tree.put place (.file content)) := keepsWays_put _ free
  have entry (other : Place) := get?_put tree place other (.file content) (ne_root_of_free free)
  have found := keeps.locate reached
  refine ⟨?_, keeps, place, found, fun other apart => by rw [entry, if_neg apart]⟩
  rw [FileTree.read, found]
  simp only [bind, Except.bind]
  rw [entry, if_pos rfl]

end Files

end FileTree

end CollectionTypes
