import GolfProgress.Requirements.Building

/-!
# Building tables in memory

What the tasks of building, writing and reading come to in surroundings kept in memory
(`MemoryHost.run`), one task after the other.  A task stops at its first failure and
leaves what was done before it (`MemoryHost.stops`).

A written file is what its path leads to afterwards (`FileTree.look?_write?`), because
putting a file in a tree takes no directory away that the path leads through.  A sheet
that can be read gives its import, with nothing changed but the lines of complaint.
-/

set_option autoImplicit false

namespace GolfProgress

/-! ## Written files -/

namespace FileTree

variable {tree written : FileTree} {place start : Place} {path : String} {content : List UInt8}

/-- A file put where no directory stands takes no directory away. -/
theorem find?_put_file (free : tree.find? place ≠ some .directory) (other : Place) :
    (tree.put place (.file content)).find? other = some .directory ↔
      tree.find? other = some .directory := by
  by_cases same : other = place
  · subst same
    have inner : other ≠ [] := fun root => free (by simp [find?, root])
    rw [find?_put tree other _ inner]
    exact ⟨fun file => (by cases file), fun directory => absurd directory free⟩
  · rw [find?_put_of_ne tree place other _ same]

/-- A path leads through the same directories as before. -/
theorem directory?_put_file (free : tree.find? place ≠ some .directory) (start : Place)
    (parts : List String) :
    (tree.put place (.file content)).directory? start parts = tree.directory? start parts := by
  induction parts generalizing start with
  | nil => simp only [directory?, find?_put_file free]
  | cons part rest ih => simp only [directory?, find?_put_file free, ih]

theorem target?_put_file (free : tree.find? place ≠ some .directory) (path : String) :
    (tree.put place (.file content)).target? path = tree.target? path := by
  have begun : (tree.put place (.file content)).start path = tree.start path := rfl
  simp only [target?, begun, directory?_put_file free]

theorem target?_ne_nil (found : tree.target? path = some place) : place ≠ [] := by
  simp only [target?, Option.bind_eq_bind] at found
  obtain ⟨last, -, found⟩ := Option.bind_eq_some_iff.mp found
  split at found
  · cases found
  · obtain ⟨directory, -, inside⟩ := Option.bind_eq_some_iff.mp found
    cases inside
    simp

/-- **A written file is what its path leads to.** -/
theorem look?_write? (done : tree.write? path content = some written) :
    written.look? path = some (.file content) := by
  simp only [write?, Option.bind_eq_bind, Option.bind_eq_some_iff] at done
  obtain ⟨place, target, done⟩ := done
  split at done
  · next fits =>
      cases done
      simp only [Bool.and_eq_true, decide_eq_true_eq] at fits
      obtain ⟨⟨usable, -⟩, free⟩ := fits
      simp only [look?, usable, target?_put_file free, target, Bool.not_true,
        Bool.false_eq_true, if_false]
      exact find?_put tree place _ (target?_ne_nil target)
  · cases done

/-- The tree after the directories around a path are made, and whether they are there. -/
def withRoom (tree : FileTree) (path : String) : Bool × FileTree :=
  match (Path.parent? path).filter (· ≠ "") with
  | none => (true, tree)
  | some directory => tree.makeDirectories directory

/-- A path at which any file can be written once the directories around it are made. -/
def Writable (tree : FileTree) (path : String) : Prop :=
  (tree.withRoom path).1 = true ∧
    ∀ content, ((tree.withRoom path).2.write? path content).isSome = true

end FileTree

/-! ## Tasks -/

/-- A task of building tables, done in memory. -/
abbrev MemoryTask (α : Type) : Type := ExceptT BuildFailure (StateM MemoryHost) α

namespace MemoryHost

/-- What a task comes to in some surroundings, and the surroundings after it. -/
def run {α : Type} (host : MemoryHost) (task : MemoryTask α) :
    Except BuildFailure α × MemoryHost :=
  StateT.run (ExceptT.run task) host

variable {α β : Type} {host after : MemoryHost} {path : String} {content : List UInt8}

section Failing

variable {Failing : Type} {task : ExceptT Failing (StateM MemoryHost) α}
  {next : α → ExceptT Failing (StateM MemoryHost) β}

/-- Whatever the failures, what comes after a first part goes on with what that comes to. -/
theorem goes_on {value : α} (done : StateT.run (ExceptT.run task) host = (.ok value, after)) :
    StateT.run (ExceptT.run (task >>= next)) host =
      StateT.run (ExceptT.run (next value)) after := by
  rw [ExceptT.run_bind, StateT.run_bind, done]
  rfl

/-- Whatever the failures, nothing comes after a first part that fails. -/
theorem stops {failure : Failing}
    (failed : StateT.run (ExceptT.run task) host = (.error failure, after)) :
    StateT.run (ExceptT.run (task >>= next)) host = (.error failure, after) := by
  rw [ExceptT.run_bind, StateT.run_bind, failed]
  rfl

end Failing

section Bind

variable {task : MemoryTask α} {next : α → MemoryTask β}

theorem run_bind_ok {value : α} (done : host.run task = (.ok value, after)) :
    host.run (task >>= next) = after.run (next value) :=
  goes_on done

end Bind

theorem run_look (path : String) :
    host.run (liftM (Host.look? (m := StateM MemoryHost) path)) =
      (.ok (host.files.look? path), host) := rfl

theorem run_now : host.run (liftM (Host.now (m := StateM MemoryHost))) = (.ok host.clock, host) :=
  rfl

theorem run_write {files : FileTree} (written : host.files.write? path content = some files) :
    host.run (liftM (Host.write (m := StateM MemoryHost) path content)) =
      (.ok true, { host with files }) := by
  have asked : host.run (liftM (Host.write (m := StateM MemoryHost) path content)) =
      (.ok (host.write path content).1, (host.write path content).2) := rfl
  rw [asked, write, written]

/-- A file that is there is read. -/
theorem run_readTableFile (found : host.files.look? path = some (.file content)) :
    host.run (readTableFile path) = (.ok content, host) := by
  rw [readTableFile, run_bind_ok (run_look path), found]
  rfl

/-- The surroundings with other lines of complaint. -/
def complaining (host : MemoryHost) (complaints : List String) : MemoryHost :=
  { host with complaints }

theorem run_complaints (host : MemoryHost) (entries : List (Nat × RowFault)) :
    ∃ lines, host.run (entries.forM fun (number, fault) =>
      Host.complain (m := StateM MemoryHost) (Warning.passedOver number fault).line) =
        (.ok (), host.complaining lines) := by
  induction entries generalizing host with
  | nil => exact ⟨host.complaints, rfl⟩
  | cons entry entries ih =>
      obtain ⟨lines, told⟩ := ih (host.complaining
        ((Warning.passedOver entry.1 entry.2).line :: host.complaints))
      exact ⟨lines, told⟩

/-- The import of a sheet that is there, and the complaints about it. -/
theorem run_importRequirements (found : host.files.look? path = some (.file content)) :
    ∃ lines, host.run (importRequirements path) =
      (.ok (.ofFile content), host.complaining lines) := by
  obtain ⟨lines, told⟩ := run_complaints host (RequirementImport.passedOver (.ofBytes content))
  refine ⟨lines, ?_⟩
  rw [importRequirements, run_bind_ok (run_look path), found]
  exact run_bind_ok told

theorem run_makeRoom (made : (host.files.withRoom path).1 = true) :
    host.run (makeRoom path) = (.ok (), { host with files := (host.files.withRoom path).2 }) := by
  unfold FileTree.withRoom at made ⊢
  rw [makeRoom]
  cases around : (Path.parent? path).filter (· ≠ "") with
  | none => rfl
  | some directory =>
      simp only [around] at made ⊢
      have asked : host.run (liftM (Host.makeDirectories (m := StateM MemoryHost) directory)) =
          (.ok (host.files.makeDirectories directory).1,
            { host with files := (host.files.makeDirectories directory).2 }) := rfl
      rw [run_bind_ok asked, made]
      rfl

/-- **A table written at a path that can be written to** is the table of now, and its file
is what the path leads to afterwards; nothing but the files has changed. -/
theorem run_writeTable (writable : host.files.Writable path) (rows : List Requirement)
    (version : String) :
    let table : RequirementTable := ⟨version, host.clock.toOffsetText, rows⟩
    ∃ files, host.run (writeTable rows path version) =
        (.ok (.ofTable table table.toFile), { host with files }) ∧
      files.look? path = some (.file table.toFile) := by
  intro table
  obtain ⟨files, written⟩ := Option.isSome_iff_exists.mp (writable.2 table.toFile)
  refine ⟨files, ?_, FileTree.look?_write? written⟩
  let roomy : MemoryHost := { host with files := (host.files.withRoom path).2 }
  have kept : roomy.run (liftM (Host.write (m := StateM MemoryHost) path table.toFile)) =
      (.ok true, { host with files }) := run_write written
  rw [writeTable, run_bind_ok run_now]
  refine (run_bind_ok (run_makeRoom writable.1)).trans ?_
  exact run_bind_ok kept

end MemoryHost

end GolfProgress
