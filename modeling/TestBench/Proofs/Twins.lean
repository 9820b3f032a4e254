import TestBench.Proofs.Agreement
import TestBench.Proofs.Footprint
import TestBench.Proofs.Outcome
import TestBench.Proofs.Properties.Roundtrip
import TestBench.Proofs.Steady

/-!
Two hosts that a test cannot tell apart: their disks agree near the directory of the test, and what
is left of their steady programs comes from the same list. A test that is built and run on both ends
in the same way.

- `Host.Agree` and `Host.Together`: such hosts, and operations that end alike on them,
- `WorkArea.Owns`: all that belongs to a test lies near one place,
- `compileTest_together`, `installTest_together` and `build_together`: building a test,
- `run_alike` and `runOne_alike`: running it.
-/
namespace TestBench
set_option autoImplicit false
open Disk (Near Leads)

theorem Compiler.complete_result (arguments : List String) (host : Host) :
    (complete arguments host).1 = ((host.answer arguments none).1.bind fun behaviour =>
      behaviour.conclusion arguments).map fun _ => () := by
  have fresh : (Command.ofArguments arguments none).IsFresh := ⟨rfl, rfl⟩
  have concludes := Command.execute_conclusion fresh host
  dsimp only [Command.ofArguments] at concludes
  rw [← concludes]
  unfold complete
  split <;>
  · next executed =>
    dsimp only [Command.ofArguments] at executed
    rw [executed]
    rfl

theorem Compiler.complete_remain {arguments : List String} {host after : Host}
    {result : Except Fault Unit} (ends : Ends host.programs (Host.program arguments))
    (h : complete arguments host = (result, after)) : Remain host.programs after.programs := by
  have returns : result ≠ .error .endless := by
    rintro rfl
    exact complete_returns ends h rfl
  obtain ⟨blocks, leaves⟩ := (complete_ran h).leaves returns
  exact leaves.programs

namespace Host

/-- Hosts whose disks agree near a place and whose programs were the same once. -/
structure Agree (programs : List (String × List Behaviour)) (base : Path) (start top : Location)
    (first second : Host) : Prop where
  disk : Disk.Agree base start top first.disk second.disk
  remain : Remain programs first.programs
  remain' : Remain programs second.programs

/-- Two operations that end in the same way, on hosts that agree again. -/
structure Together {α : Type} (programs : List (String × List Behaviour)) (base : Path)
    (start top : Location) (first second : α × Host) : Prop where
  result : first.1 = second.1
  hosts : Agree programs base start top first.2 second.2

section Agree
variable {programs : List (String × List Behaviour)} {base path : Path} {start top : Location}
  {first second : Host}

/-- Both operations fail, or both come to a value. -/
theorem Together.split {α : Type} {first second : Except Fault α × Host}
    (h : Together programs base start top first second) :
    (∃ fault after after', first = (.error fault, after) ∧ second = (.error fault, after') ∧
        Agree programs base start top after after') ∨
      ∃ value after after', first = (.ok value, after) ∧ second = (.ok value, after') ∧
        Agree programs base start top after after' := by
  obtain ⟨result, hosts⟩ := h
  rcases first with ⟨outcome, after⟩
  rcases second with ⟨outcome', after'⟩
  obtain rfl := result
  cases outcome with
  | error fault => exact .inl ⟨fault, after, after', rfl, rfl, hosts⟩
  | ok value => exact .inr ⟨value, after, after', rfl, rfl, hosts⟩

namespace Agree

theorem makeDirectories (agree : Agree programs base start top first second)
    (leads : Leads base start top path) (lenient : Bool) :
    Together programs base start top (first.makeDirectories lenient path)
      (second.makeDirectories lenient path) := by
  obtain ⟨result, disk⟩ := agree.disk.makeDirectories leads lenient
  exact ⟨result, disk, agree.remain, agree.remain'⟩

theorem remove (agree : Agree programs base start top first second)
    (leads : Leads base start top path) :
    Agree programs base start top (first.remove path) (second.remove path) :=
  ⟨agree.disk.remove leads, agree.remain, agree.remain'⟩

/-- Properties that are written, with whatever date. -/
theorem writeProperties (agree : Agree programs base start top first second) {directory : Path}
    (leads : Leads base start top (directory.child Properties.fileName)) {comment : String}
    (writable : Properties.IsWritable comment.toList) (entries : List (String × String)) :
    Together programs base start top (Properties.write directory entries comment first)
      (Properties.write directory entries comment second) := by
  obtain ⟨octets, encoded, -⟩ := Properties.load_text writable first.epoch entries
  obtain ⟨octets', encoded', -⟩ := Properties.load_text writable second.epoch entries
  simp only [Properties.write, encoded, encoded']
  rcases agree.disk.write leads [] [] with ⟨obstacle, fails, fails'⟩ | ⟨made, made', makes, makes', also⟩
  · rw [fails, fails']
    exact ⟨rfl, agree⟩
  · rw [makes, makes']
    dsimp only
    rcases also.write leads octets octets' with
      ⟨obstacle, fails, fails'⟩ | ⟨written, written', writes, writes', again⟩
    · rw [fails, fails']
      exact ⟨rfl, also, agree.remain, agree.remain'⟩
    · rw [writes, writes']
      exact ⟨rfl, again, agree.remain, agree.remain'⟩

theorem directoryFault? (agree : Agree programs base start top first second)
    (leads : Leads base start top path) :
    first.directoryFault? path = second.directoryFault? path := by
  simp only [Host.directoryFault?, agree.disk.isDirectory leads, agree.disk.locate leads]

/-- Starts come to the same if the working directory is one that cannot be told apart. -/
theorem answer (agree : Agree programs base start top first second) (steady : Steady programs)
    (arguments : List String) {directory : Option Path}
    (leads : ∀ path, directory = some path → Leads base start top path) :
    (first.answer arguments directory).1 = (second.answer arguments directory).1 := by
  have faults : directory.bind first.directoryFault? = directory.bind second.directoryFault? := by
    cases directory with
    | none => rfl
    | some path => exact agree.directoryFault? (leads path rfl)
  have offered := (steady.offered agree.remain (program arguments)).trans
    (steady.offered agree.remain' (program arguments)).symm
  unfold Host.answer
  rw [faults]
  split
  · rfl
  · split
    · rfl
    · rcases takes : takeBehaviour first.programs (program arguments) with ⟨behaviour, left⟩
      rcases takes' : takeBehaviour second.programs (program arguments) with ⟨behaviour', left'⟩
      rw [takes, takes'] at offered
      obtain rfl : behaviour = behaviour' := offered
      cases behaviour with
      | none => rfl
      | some behaviour => cases hindered : behaviour.startFault <;> simp only [hindered]

theorem complete (agree : Agree programs base start top first second) (steady : Steady programs)
    {arguments : List String} (ends : Ends programs (program arguments)) :
    Together programs base start top (Compiler.complete arguments first)
      (Compiler.complete arguments second) := by
  have same : (Compiler.complete arguments first).1 = (Compiler.complete arguments second).1 := by
    rw [Compiler.complete_result, Compiler.complete_result,
      agree.answer steady arguments (by simp)]
  rcases one : Compiler.complete arguments first with ⟨result, after⟩
  rcases two : Compiler.complete arguments second with ⟨result', after'⟩
  rw [one, two] at same
  refine ⟨same, ?_, ?_, ?_⟩
  · rw [Compiler.complete_disk one, Compiler.complete_disk two]
    exact agree.disk
  · exact agree.remain.trans (Compiler.complete_remain (ends.remain agree.remain) one)
  · exact agree.remain'.trans (Compiler.complete_remain (ends.remain agree.remain') two)

/-- Commands that are started one after the other are read alike. -/
theorem readings (agree : Agree programs base start top first second) (steady : Steady programs)
    {commands : List Command}
    (leads : ∀ command ∈ commands, ∀ path, command.directory = some path →
      Leads base start top path) (timeout : Nat) :
    TestBench.readings timeout commands first = TestBench.readings timeout commands second := by
  induction commands generalizing first second with
  | nil => rfl
  | cons command rest ih =>
    have same := agree.answer steady command.arguments (leads command List.mem_cons_self)
    -- Both lists have been shortened, perhaps by different amounts, and stay within the first one.
    have remain := first.answer_remain command.arguments command.directory
    have remain' := second.answer_remain command.arguments command.directory
    simp only [TestBench.readings, same]
    refine congrArg _ (ih ⟨agree.disk, ?_, ?_⟩ fun other member =>
      leads other (List.mem_cons_of_mem _ member))
    · exact agree.remain.trans remain
    · exact agree.remain'.trans remain'

end Agree
end Agree
end Host

/-! ## Paths of a test -/

/-- All that belongs to a test lies near one place. -/
structure WorkArea.Owns (area : WorkArea) (start top : Location) (qualifiedName : String) : Prop where
  directory : Leads area.base start top (area.testDirectory qualifiedName)
  below : top <+: start ++ (area.testDirectory qualifiedName).names

namespace WorkArea.Owns
variable {area : WorkArea} {start top : Location} {qualifiedName : String}

theorem classes (owns : area.Owns start top qualifiedName) :
    Leads area.base start top (area.classesDirectory qualifiedName) :=
  owns.directory.child owns.below (by decide) (by decide)

theorem user (owns : area.Owns start top qualifiedName) :
    Leads area.base start top (area.userDirectory qualifiedName) :=
  owns.directory.child owns.below (by decide) (by decide)

theorem properties (owns : area.Owns start top qualifiedName) :
    Leads area.base start top (area.propertiesFile qualifiedName) := by
  refine owns.classes.child ?_ (by decide) (by decide)
  have isName : IsName "classes" := by decide
  rw [classesDirectory, Path.names_child isName, ← List.append_assoc]
  exact owns.below.trans (List.prefix_append _ _)

end WorkArea.Owns

/-! ## One test -/

section Harness
variable {harness : Harness} {test : TestRun} (runner : Runner) {start top : Location}
  {programs : List (String × List Behaviour)} {first second : Host}

section Build
variable (agree : Host.Agree programs harness.area.base start top first second)
  (steady : Steady programs) (real : harness.IsReal) (ends : harness.ToolsEnd programs)
include agree steady real ends

theorem Harness.compile_together (job : Compilation) :
    Host.Together programs harness.area.base start top (harness.compiler.compile job first)
      (harness.compiler.compile job second) := by
  obtain ⟨executable, encoding, debug, tool⟩ := real.compiler
  rw [tool]
  exact agree.complete steady (ends executable (by simp [tools, tool]))

theorem Harness.install_together (qualifiedName : String) :
    Host.Together programs harness.area.base start top
      (harness.mode.install harness.area qualifiedName first)
      (harness.mode.install harness.area qualifiedName second) := by
  rcases real.mode with ⟨config, mode⟩ | ⟨config, mode⟩
  · rw [mode]
    exact ⟨rfl, agree⟩
  · have archives : Host.Together programs harness.area.base start top
        (Mode.archive config (harness.area.classesDirectory qualifiedName)
          (Mode.testArchive harness.area qualifiedName) first)
        (Mode.archive config (harness.area.classesDirectory qualifiedName)
          (Mode.testArchive harness.area qualifiedName) second) :=
      agree.complete steady (ends config.dx (by simp [tools, mode]))
    rw [mode]
    simp only [Mode.install]
    rcases archives.split with
      ⟨fault, after, after', fails, fails', also⟩ | ⟨value, after, after', stores, stores', also⟩
    · rw [fails, fails']
      exact ⟨rfl, also⟩
    · rw [stores, stores']
      exact ⟨rfl, also⟩

variable (owns : harness.area.Owns start top test.qualifiedName)
include owns

theorem Harness.compileTest_together :
    Host.Together programs harness.area.base start top (harness.compileTest test runner first)
      (harness.compileTest test runner second) := by
  simp only [compileTest]
  rcases (agree.makeDirectories owns.classes true).split with
    ⟨fault, after, after', fails, fails', also⟩ | ⟨value, made, made', makes, makes', also⟩
  · rw [fails, fails']
    exact ⟨rfl, also⟩
  rw [makes, makes']
  dsimp only
  rcases (also.writeProperties owns.properties propertiesComment_writable
      (harness.testProperties test)).split with
    ⟨fault, after, after', fails, fails', also⟩ | ⟨file, written, written', writes, writes', also⟩
  · rw [fails, fails']
    exact ⟨rfl, also⟩
  rw [writes, writes']
  dsimp only
  rcases (compile_together also steady real ends (harness.testJob test runner)).split with
    ⟨fault, after, after', fails, fails', also⟩ | ⟨value, compiled, compiled', ends', ends'', also⟩
  · rw [fails, fails']
    exact ⟨rfl, also⟩
  · rw [ends', ends'']
    exact install_together also steady real ends test.qualifiedName

theorem Harness.installTest_together :
    Host.Together programs harness.area.base start top (harness.installTest test runner first)
      (harness.installTest test runner second) := by
  unfold installTest
  rcases (compileTest_together runner agree steady real ends owns).split with
    ⟨fault, after, after', fails, fails', also⟩ | ⟨value, compiled, compiled', passes, passes', also⟩
  · rw [fails, fails']
    exact ⟨rfl, also⟩
  rw [passes, passes']
  simp only [WorkArea.prepareUserDirectory, real.directories]
  rcases ((also.remove owns.user).makeDirectories owns.user false).split with
    ⟨fault, after, after', fails, fails', last⟩ | ⟨value, made, made', makes, makes', last⟩
  · rw [fails, fails']
    exact ⟨rfl, last⟩
  · rw [makes, makes']
    exact ⟨rfl, last⟩

theorem Harness.build_together :
    Host.Together programs harness.area.base start top (harness.build test runner first)
      (harness.build test runner second) := by
  unfold build
  split
  · exact ⟨rfl, agree⟩
  · split
    · exact ⟨rfl, agree⟩
    · obtain ⟨result, hosts⟩ := installTest_together runner agree steady real ends owns
      rcases one : harness.installTest test runner first with ⟨installed, after⟩
      rcases two : harness.installTest test runner second with ⟨installed', after'⟩
      rw [one, two] at result hosts
      exact ⟨congrArg (recordInstall test) result, hosts⟩

end Build

/-- An installed test comes to one outcome on both hosts. -/
theorem Harness.run_alike (agree : Host.Agree programs harness.area.base start top first second)
    (steady : Steady programs) (real : harness.IsReal)
    (owns : harness.area.Owns start top test.qualifiedName) :
    (harness.run test runner first).1 = (harness.run test runner second).1 := by
  by_cases runnable : test.isRunnable = true
  · cases closed : harness.closed with
    | true => simp only [run, runnable, closed]; rfl
    | false =>
      obtain ⟨_, _, ran, -⟩ := run_eq runner first closed runnable
      obtain ⟨_, _, ran', -⟩ := run_eq runner second closed runnable
      have leads : ∀ command ∈ harness.mode.commands harness.area runner test, ∀ path,
          command.directory = some path → Leads harness.area.base start top path := by
        rcases real.mode with ⟨config, mode⟩ | ⟨config, mode⟩ <;>
        · simp only [mode, Mode.commands, List.forall_mem_singleton]
          rintro path ⟨⟩
          exact owns.user
      have same := agree.readings steady leads (harness.settings.timeoutSeconds * 1000)
      rw [ran, ran', readings, readings, same]
  · simp only [run, runnable]
    rfl

namespace Suite

theorem buildAndRun_alike (agree : Host.Agree programs harness.area.base start top first second)
    (steady : Steady programs) (real : harness.IsReal) (ends : harness.ToolsEnd programs)
    (owns : harness.area.Owns start top test.qualifiedName) :
    (buildAndRun harness runner test first).2.1 =
      (buildAndRun harness runner test second).2.1 := by
  unfold buildAndRun
  rcases (Harness.build_together runner agree steady real ends owns).split with
    ⟨fault, after, after', fails, fails', also⟩ | ⟨built, after, after', builds, builds', also⟩
  · rw [fails, fails']
  rw [builds, builds']
  dsimp only
  have owns : harness.area.Owns start top built.qualifiedName := by
    rwa [TestRun.name_of_bare (Harness.build_bare builds)]
  have same := Harness.run_alike runner also steady real owns
  split
  · rcases one : harness.run built runner after with ⟨result, ended⟩
    rcases two : harness.run built runner after' with ⟨result', ended'⟩
    rw [one, two] at same
    obtain rfl : result = result' := same
    cases result <;> rfl
  · rfl

/-- A test that is run on its own part of a host ends as it would on any host that has this part. -/
theorem runOne_alike (agree : Host.Agree programs harness.area.base start top first second)
    (steady : Steady programs) (real : harness.IsReal) (ends : harness.ToolsEnd programs)
    (owns : harness.area.Owns start top test.qualifiedName) :
    (runOne harness runner test first).2.1 = (runOne harness runner test second).2.1 := by
  have ended (host : Host) : (runOne harness runner test host).2.1 =
      (buildAndRun harness runner test host).2.1 := by
    unfold runOne
    split <;> simp [*]
  rw [ended, ended, buildAndRun_alike runner agree steady real ends owns]

end Suite
end Harness
end TestBench
