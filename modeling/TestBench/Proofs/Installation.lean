import TestBench.Harness
import TestBench.Proofs.Command
import TestBench.Proofs.Tree

/-!
What building a test leaves on the disk. Compilers do not touch it, so the disk changes only where
directories are made or removed and where the properties are written, and it stays a tree.

- `execute_disk` and `compile_disk`: running a program,
- `build_installed`: a test that can be run has been installed, and its mode says as what,
- `installTest_directory`: its working directory is there and is empty.
-/
namespace TestBench
set_option autoImplicit false

/-! ## Running programs -/

namespace Command

theorem start_disk (command : Command) (host : Host) :
    (command.start host).2.disk = host.disk := by
  unfold start
  split
  · rfl
  · unfold Host.spawn
    cases answered : host.answer command.arguments command.directory with
    | mk result left => cases result <;> rfl

theorem gather_disk (command : Command) (host : Host) :
    (command.gather host).2.disk = host.disk := by
  obtain ⟨moment, waited⟩ := command.gather_waits host
  rw [waited]
  rfl

theorem terminate_disk (command : Command) (host : Host) :
    (command.terminate host).2.disk = host.disk := by
  obtain ⟨events, processes, now, ended, -, -⟩ := terminateUnder_frame .usual command host
  rw [terminate, ended]

theorem execute_disk (command : Command) (host : Host) :
    (command.execute host).2.2.disk = host.disk := by
  have began := command.start_disk host
  rw [execute_eq]
  rcases first : command.start host with ⟨fault | started, begun⟩
  · rw [first] at began
    exact began
  · rw [first] at began
    have waited := started.gather_disk begun
    dsimp only
    rcases second : started.gather begun with ⟨result, read⟩
    rw [second] at waited
    have ended : (started.terminate read).2.disk = host.disk :=
      (started.terminate_disk read).trans (waited.trans began)
    cases result with
    | ok output => exact ended
    | error fault =>
      cases fault with
      | endless => exact waited.trans began
      | _ => exact ended

end Command

namespace Compiler

theorem complete_disk {arguments : List String} {host after : Host} {result : Except Fault Unit}
    (h : complete arguments host = (result, after)) : after.disk = host.disk := by
  have kept := (Command.ofArguments arguments none).execute_disk host
  unfold complete at h
  split at h <;>
  · next executed =>
    cases h
    rw [executed] at kept
    exact kept

theorem compile_disk {compiler : Compiler} {job : Compilation} {host after : Host}
    {result : Except Fault Unit} (h : compiler.compile job host = (result, after)) :
    after.disk = host.disk := by
  cases compiler with
  | javac executable encoding debug => exact complete_disk h
  | recording fault diagnostics =>
    simp only [compile] at h
    split at h <;> cases h <;> rfl

end Compiler

namespace Mode

/-- What a mode runs a test from. -/
def installed (mode : Mode) (area : WorkArea) (qualifiedName : String) : Path :=
  match mode with
  | dalvikvm _ => testArchive area qualifiedName
  | _ => area.classesDirectory qualifiedName

theorem install_ok {mode : Mode} {area : WorkArea} {qualifiedName : String} {host after : Host}
    {classpath : Classpath}
    (h : mode.install area qualifiedName host = (.ok classpath, after)) :
    classpath = .of [mode.installed area qualifiedName] ∧ after.disk = host.disk := by
  cases mode with
  | jvm config =>
    cases h
    exact ⟨rfl, rfl⟩
  | dalvikvm config =>
    simp only [install] at h
    split at h
    next archived =>
      cases h
      exact ⟨rfl, Compiler.complete_disk archived⟩
    · cases h
  | scripted script =>
    simp only [install] at h
    split at h
    · cases h
    · cases h
      exact ⟨rfl, rfl⟩

end Mode

/-! ## Trees -/

theorem Host.makeDirectories_tree {host after : Host} {lenient : Bool} {path : Path}
    {result : Except Fault Unit} (tree : host.disk.IsTree)
    (h : host.makeDirectories lenient path = (result, after)) : after.disk.IsTree := by
  cases h
  exact tree.makeDirectories lenient path

theorem Properties.write_tree {directory : Path} {entries : List (String × String)}
    {comment : String} {host after : Host} {result : Except Fault Path} (tree : host.disk.IsTree)
    (h : Properties.write directory entries comment host = (result, after)) :
    after.disk.IsTree := by
  simp only [Properties.write] at h
  split at h
  · cases h
    exact tree
  next emptied begun =>
    have emptied := tree.write begun
    split at h
    · cases h
      exact emptied
    · split at h
      · cases h
        exact emptied
      next written =>
        cases h
        exact emptied.write written

namespace Harness
variable {harness : Harness} {test done : TestRun} {runner : Runner} {host after : Host}

theorem compileTest_ok {classpath : Classpath} (tree : host.disk.IsTree)
    (h : harness.compileTest test runner host = (.ok classpath, after)) :
    classpath = .of [harness.mode.installed harness.area test.qualifiedName] ∧
      after.disk.IsTree := by
  simp only [compileTest] at h
  split at h
  · cases h
  next made =>
    have tree := Host.makeDirectories_tree tree made
    split at h
    · cases h
    next written =>
      have tree := Properties.write_tree tree written
      split at h
      · cases h
      next compiled =>
        obtain ⟨same, disk⟩ := Mode.install_ok h
        refine ⟨same, ?_⟩
        rw [disk, Compiler.compile_disk compiled]
        exact tree

/-- The working directory of an installed test is new and empty. -/
theorem installTest_ok {classpath : Classpath} (tree : host.disk.IsTree)
    (h : harness.installTest test runner host = (.ok classpath, after)) :
    classpath = .of [harness.mode.installed harness.area test.qualifiedName] ∧
      ∃ place, after.disk.locate (harness.area.userDirectory test.qualifiedName) = .ok place ∧
        after.disk.isDirectoryAt place = true ∧
        ∀ name, after.disk.entry? (place ++ [name]) = none := by
  unfold installTest at h
  split at h
  · cases h
  next compiled =>
    obtain ⟨same, tree⟩ := compileTest_ok tree compiled
    split at h
    · cases h
    next prepared =>
      cases h
      refine ⟨same, ?_⟩
      unfold WorkArea.prepareUserDirectory at prepared
      split at prepared
      · cases prepared
      · obtain ⟨made, rfl⟩ := Prod.mk.inj prepared
        exact Disk.makeDirectories_new (tree.remove _) (Prod.ext made rfl)

/-- A test that can be run has been installed. -/
theorem build_installed (built : harness.build test runner host = (.ok done, after))
    (runnable : done.isRunnable = true) :
    ∃ classpath, harness.installTest test runner host = (.ok classpath, after) ∧
      done = test.withClasspath classpath := by
  have unset := (TestRun.isRunnable_iff.mp runnable).2
  have recorded {result : TestResult} {output : List String} :
      test.setResult result output ≠ .ok done := by
    intro set
    rw [TestRun.setResult_recorded set] at unset
    cases unset
  simp only [build] at built
  split at built
  · cases built
  split at built
  · exact absurd (Prod.mk.inj built).1 recorded
  · rcases installed : harness.installTest test runner host with ⟨fault | classpath, ready⟩
    · rw [installed] at built
      obtain ⟨record, -⟩ := Prod.mk.inj built
      cases fault with
      | endless => cases record
      | _ => exact absurd record recorded
    · rw [installed] at built
      cases built
      exact ⟨classpath, rfl, rfl⟩

end Harness
end TestBench
