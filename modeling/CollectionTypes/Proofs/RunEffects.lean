import CollectionTypes.CommandLine.Run
import CollectionTypes.Proofs.LevelFlags
import CollectionTypes.Proofs.TreeEffects

/-!
# Effects of runs

What a run leaves behind: nothing, a module with the directories that lead to it, or only such
directories. How much is told has no influence on it.

Specification: sections 6 and 7 (output file, standard output, exit code).
-/

namespace CollectionTypes.CommandLine

open CollectionTypes.Path (IsAncestor)
open FileTree (Made Grown)

/-- A module stands at its path, and nothing else is new but directories that lead there. -/
structure Written (path text : String) (before after : FileTree) : Prop where
  workingDirectory : after.workingDirectory = before.workingDirectory
  content : after.read path = .ok text.toUTF8
  elsewhere : ∀ place, after.locate path ≠ .ok place →
    after.get? place = before.get? place ∨ Made (IsAncestor · path) before after place

/-- Nothing was done but to make directories that lead to a path: one of them is blocked, or the path
cannot be written. -/
structure Abandoned (path : String) (before after : FileTree) : Prop where
  grown : Grown (IsAncestor · path) before after
  blocked : (∃ directory, IsAncestor directory path ∧ after.Blocked directory) ∨
    after.Unwritable path

theorem run_makeParents (path : String) (before : FileTree) :
    (makeParents path : StateM FileTree (Except WriteError Unit)).run before =
      match Path.directories path with
      | [] => (.ok (), before)
      | parent :: outer =>
          match (FileSystem.ensureDirectories (parent :: outer) :
              StateM FileTree (Except FileFailure Unit)).run before with
          | (.ok (), middle) => (.ok (), middle)
          | (.error failure, middle) => (.error (.directory parent failure), middle) := by
  rw [makeParents]
  cases Path.directories path with
  | nil => rfl
  | cons parent outer =>
    dsimp only
    rw [StateT.run_bind]
    obtain ⟨result, middle⟩ := (FileSystem.ensureDirectories (parent :: outer) :
      StateM FileTree (Except FileFailure Unit)).run before
    cases result with
    | ok done => rfl
    | error failure => rfl

theorem makeParents_effect (path : String) (before : FileTree) :
    match (makeParents path : StateM FileTree (Except WriteError Unit)).run before with
    | (.ok (), middle) => Grown (IsAncestor · path) before middle
    | (.error _, middle) => Abandoned path before middle := by
  rw [run_makeParents]
  cases directories : Path.directories path with
  | nil => exact .refl before
  | cons parent outer =>
    have each : ∀ directory ∈ parent :: outer, directory = "/" ∨ IsAncestor directory path :=
      fun directory member => Path.mem_directories (directories ▸ member)
    have ensured := (FileTree.ensured_ensureDirectories each before).without_root
    dsimp only
    cases made : (FileSystem.ensureDirectories (parent :: outer) :
        StateM FileTree (Except FileFailure Unit)).run before with
    | mk result middle =>
      rw [made] at ensured
      cases result with
      | ok done => exact ensured.grown
      | error failure => exact ⟨ensured.grown, .inl (ensured.blocked failure rfl)⟩

theorem run_writeModule (path text : String) (before : FileTree) :
    (writeModule path text : StateM FileTree (Except WriteError Unit)).run before =
      match (makeParents path : StateM FileTree (Except WriteError Unit)).run before with
      | (.error error, middle) => (.error error, middle)
      | (.ok (), middle) =>
          match middle.write path text.toUTF8 with
          | .ok after => (.ok (), after)
          | .error failure => (.error (.file path failure), middle) := by
  rw [writeModule, StateT.run_bind]
  obtain ⟨made, middle⟩ := (makeParents path : StateM FileTree (Except WriteError Unit)).run before
  cases made with
  | error error => rfl
  | ok done =>
    have write : (FileSystem.write path text.toUTF8 :
        StateM FileTree (Except FileFailure Unit)).run middle =
        FileTree.change (·.write path text.toUTF8) middle := rfl
    change ((FileSystem.write path text.toUTF8 >>= _ :
        StateM FileTree (Except WriteError Unit)).run middle) = _
    rw [StateT.run_bind, write, FileTree.change]
    dsimp only
    cases middle.write path text.toUTF8 with
    | ok after => rfl
    | error failure => rfl

/-- Nothing that is made on the way to a file is lost where it is written. -/
theorem Written.of_write {path text : String} {before middle after : FileTree}
    (made : Grown (IsAncestor · path) before middle)
    (written : middle.write path text.toUTF8 = .ok after) : Written path text before after := by
  obtain ⟨content, keeps, target, reached, others⟩ := FileTree.write_effect written
  refine ⟨keeps.workingDirectory.trans made.workingDirectory, content, fun place apart => ?_⟩
  have same : after.get? place = middle.get? place := by
    refine others place ?_
    rintro rfl
    exact apart reached
  refine (made.places place).imp same.trans fun made => ?_
  obtain ⟨directory, ancestor, found⟩ := made.reached
  exact ⟨made.new, same.trans made.directory, directory, ancestor, keeps.locate found⟩

/-- The module is written, or there are just some directories more. -/
theorem writeModule_effect (path text : String) (before : FileTree) :
    match (writeModule path text : StateM FileTree (Except WriteError Unit)).run before with
    | (.ok (), after) => Written path text before after
    | (.error _, after) => Abandoned path before after := by
  have effect := makeParents_effect path before
  rw [run_writeModule]
  cases parents : (makeParents path : StateM FileTree (Except WriteError Unit)).run before with
  | mk result middle =>
    rw [parents] at effect
    cases result with
    | error error => exact effect
    | ok done =>
      dsimp only at effect ⊢
      cases written : middle.write path text.toUTF8 with
      | error failure => exact ⟨effect, .inr (FileTree.unwritable_of_write written)⟩
      | ok after => exact .of_write effect written

/-- With a slash at its end a path stands for a directory, so the one before it is made in vain. -/
example :
    let run : StateM FileTree (Except WriteError Unit) := writeModule "types/module/" ""
    let (result, after) := run.run ⟨[], []⟩
    result = .error (.file "types/module/" .isDirectory) ∧
      after.leadsToDirectory "types" = true :=
  ⟨rfl, rfl⟩

/-- The part of a result that does not go to the error stream. -/
def seen (result : Outcome × FileTree) : UInt32 × String × FileTree :=
  (result.1.exitCode, result.1.stdout, result.2)

/-- What a run comes to apart from what it tells. -/
def work (json out : String) (stdout : Bool) (before : FileTree) : UInt32 × String × FileTree :=
  match generateFromContent (before.read json) with
  | .error _ => (1, "", before)
  | .ok text =>
      if stdout then (0, text ++ "\n", before)
      else
        match (writeModule out text : StateM FileTree (Except WriteError Unit)).run before with
        | (.ok (), after) => (0, "", after)
        | (.error _, after) => (1, "", after)

theorem seen_perform (invocation : Invocation) (filter : LogFilter) (before : FileTree) :
    seen ((perform invocation filter : StateM FileTree Outcome).run before) =
      work invocation.json invocation.out invocation.stdout before := by
  have loaded : (loadModule invocation :
      StateM FileTree (Except GenerationError String × List Event)).run before =
      ((generateFromContent (before.read invocation.json), readingEvent invocation ::
        documentEvents (Document.collectionsOfContent (before.read invocation.json))), before) :=
    rfl
  rw [perform, StateT.run_bind, loaded, work]
  cases generateFromContent (before.read invocation.json) with
  | error error => rfl
  | ok text =>
    cases invocation.stdout with
    | true => rfl
    | false =>
      change seen ((writeModule invocation.out text >>= _ : StateM FileTree Outcome).run before) = _
      rw [StateT.run_bind]
      dsimp only
      rw [if_neg Bool.false_ne_true]
      obtain ⟨result, after⟩ := (writeModule invocation.out text :
        StateM FileTree (Except WriteError Unit)).run before
      cases result with
      | ok done => rfl
      | error error => rfl

/-- The same files have the same contents. -/
def SameFiles (before after : FileTree) : Prop :=
  ∀ place content,
    after.get? place = some (.file content) ↔ before.get? place = some (.file content)

/-- What a run may come to that reads a document: its failure, the module in print, or the module in
a file. Where the file cannot be written, some directories on the way to it may have been made. -/
def Performed (invocation : Invocation) (before : FileTree) (result : Outcome × FileTree) : Prop :=
  match generateFromContent (before.read invocation.json) with
  | .error _ => result.1.exitCode = 1 ∧ result.1.stdout = "" ∧ result.2 = before
  | .ok text =>
      if invocation.stdout then
        result.1.exitCode = 0 ∧ result.1.stdout = text ++ "\n" ∧ result.2 = before
      else
        result.1.stdout = "" ∧
          (result.1.exitCode = 0 ∧ Written invocation.out text before result.2 ∨
            result.1.exitCode = 1 ∧ SameFiles before result.2 ∧
              Abandoned invocation.out before result.2)

theorem performed_of_seen {invocation : Invocation} {before : FileTree}
    {result : Outcome × FileTree}
    (same : seen result = work invocation.json invocation.out invocation.stdout before) :
    Performed invocation before result := by
  obtain ⟨⟨exitCode, stdout, stderr⟩, after⟩ := result
  rw [seen, work] at same
  rw [Performed]
  cases generated : generateFromContent (before.read invocation.json) with
  | error error =>
    rw [generated] at same
    cases same
    exact ⟨rfl, rfl, rfl⟩
  | ok text =>
    rw [generated] at same
    dsimp only at same ⊢
    cases printed : invocation.stdout with
    | true =>
      rw [printed, if_pos rfl] at same
      cases same
      exact ⟨rfl, rfl, rfl⟩
    | false =>
      have effect := writeModule_effect invocation.out text before
      rw [printed, if_neg Bool.false_ne_true] at same
      rw [if_neg Bool.false_ne_true]
      split at effect
      next made =>
        rw [made] at same
        cases same
        exact ⟨rfl, .inl ⟨rfl, effect⟩⟩
      next made =>
        rw [made] at same
        cases same
        exact ⟨rfl, .inr ⟨rfl, effect.grown.files, effect⟩⟩

/-- A run on a file tree, with what it leaves behind. -/
def runOn (before : FileTree) (arguments : List String) (environment : Environment) :
    Outcome × FileTree :=
  (run arguments environment : StateM FileTree Outcome).run before

theorem runOn_of_ok {arguments : List String} {environment : Environment} {invocation : Invocation}
    (success : Invocation.ofArguments arguments environment.json = .ok invocation)
    (before : FileTree) :
    runOn before arguments environment =
      (perform invocation (environment.filter invocation.level) : StateM FileTree Outcome).run
        before := by
  rw [runOn, run, success]

/-- No run leaves a part of a module behind. What it leaves is told by the arguments, and neither
the flags for more or less to be told nor the filter that the environment sets has any influence on
it. -/
theorem runOn_effects (arguments : List String) (environment : Environment) (before : FileTree) :
    match Invocation.ofArguments arguments environment.json with
    | .error stop => runOn before arguments environment = (stop.outcome environment, before)
    | .ok invocation =>
        Performed invocation before (runOn before arguments environment) ∧
          ∀ log, seen (runOn before (arguments.filterMap withoutLevel?) ⟨environment.json, log⟩) =
            seen (runOn before arguments environment) := by
  cases parsed : Invocation.ofArguments arguments environment.json with
  | error stop =>
    dsimp only
    rw [runOn, run, parsed]
    rfl
  | ok invocation =>
    have done : seen (runOn before arguments environment) =
        work invocation.json invocation.out invocation.stdout before := by
      rw [runOn_of_ok parsed, seen_perform]
    refine ⟨performed_of_seen done, fun log => ?_⟩
    have left : Invocation.ofArguments (arguments.filterMap withoutLevel?)
        (Environment.mk environment.json log).json =
          .ok { invocation with quiet := false, verbose := false } :=
      ofArguments_withoutLevel parsed
    rw [done, runOn_of_ok left, seen_perform]

end CollectionTypes.CommandLine
