import TestBench.Proofs.Moments
import TestBench.Proofs.Properties.Roundtrip

/-!
What a machine finds when it is started for a test: an empty working directory, the properties of
the test, the classes of the test and of the test runner that compilers have written, and a
classpath that begins with both.

- `Passed`: a program was run, and it exited with status zero,
- `readies_properties` and `prepareUserDirectory_reads`: the properties are written, and they are
  still there when the working directory has been made,
- `commands_classpath`: how the classpath of a machine begins,
- `runAll_launch`: whenever a suite starts a machine, all of this holds.
-/
namespace TestBench
set_option autoImplicit false

/-! ## Programs that have passed -/

/-- Among blocks there is that of a program that was run without a working directory of its own, and
its process has exited with status zero. -/
def Passed (arguments : List String) (blocks : List Block) : Prop :=
  ∃ block ∈ blocks, block.command = .ofArguments arguments none ∧ block.status? = some 0

namespace Passed
variable {arguments : List String} {first second : List Block}

theorem append_left (h : Passed arguments first) (second : List Block) :
    Passed arguments (first ++ second) := by
  obtain ⟨block, member, passed⟩ := h
  exact ⟨block, List.mem_append_left _ member, passed⟩

theorem append_right (h : Passed arguments second) (first : List Block) :
    Passed arguments (first ++ second) := by
  obtain ⟨block, member, passed⟩ := h
  exact ⟨block, List.mem_append_right _ member, passed⟩

end Passed

namespace Compiler

theorem complete_passed {arguments : List String} {host after : Host}
    (h : complete arguments host = (.ok (), after)) :
    ∃ blocks, Leaves host blocks after ∧ Passed arguments blocks := by
  unfold complete at h
  split at h
  · next executed =>
    cases h
    obtain ⟨block, own, status, leaves⟩ := Command.execute_passed ⟨rfl, rfl⟩ executed
    exact ⟨[block], leaves, block, List.mem_cons_self, own, status⟩
  · cases h

/-- A compiler was run on sources with a directory for their classes, and it exited with status
zero. -/
def HasPassed (compiler : Compiler) (sources : List Path) (destination : Path)
    (blocks : List Block) : Prop :=
  ∃ executable encoding debug options, compiler = .javac executable encoding debug ∧
    Passed (executable :: options ++ ["-d", destination.toString] ++ sources.map Path.toString)
      blocks

theorem arguments_eq (executable encoding : String) (debug : Bool) (job : Compilation) :
    ∃ options, arguments executable encoding debug job =
      executable :: options ++ ["-d", job.destination.toString] ++ job.sources.map Path.toString :=
  ⟨["-encoding", encoding] ++ (if debug then ["-g"] else [])
    ++ classpathArguments "-bootclasspath" job.bootClasspath
    ++ classpathArguments "-classpath" job.classpath ++ ["-sourcepath", job.sourcePath.toString],
    by simp [arguments]⟩

theorem compile_passed {compiler : Compiler} {executable encoding : String} {debug : Bool}
    (tool : compiler = .javac executable encoding debug) {job : Compilation} {host after : Host}
    (h : compiler.compile job host = (.ok (), after)) :
    ∃ blocks, Leaves host blocks after ∧
      compiler.HasPassed job.sources job.destination blocks := by
  rw [tool] at h
  obtain ⟨blocks, leaves, passed⟩ := complete_passed h
  obtain ⟨options, same⟩ := arguments_eq executable encoding debug job
  rw [same] at passed
  exact ⟨blocks, leaves, executable, encoding, debug, options, tool, passed⟩

namespace HasPassed
variable {compiler : Compiler} {sources : List Path} {destination : Path}
  {first second : List Block}

theorem append_left (h : compiler.HasPassed sources destination first) (second : List Block) :
    compiler.HasPassed sources destination (first ++ second) := by
  obtain ⟨executable, encoding, debug, options, tool, passed⟩ := h
  exact ⟨executable, encoding, debug, options, tool, passed.append_left second⟩

theorem append_right (h : compiler.HasPassed sources destination second) (first : List Block) :
    compiler.HasPassed sources destination (first ++ second) := by
  obtain ⟨executable, encoding, debug, options, tool, passed⟩ := h
  exact ⟨executable, encoding, debug, options, tool, passed.append_right first⟩

end HasPassed
end Compiler

namespace Mode

/-- Where a mode has an archiver, it was run with success. -/
def HasArchived (mode : Mode) (classes output : Path) (blocks : List Block) : Prop :=
  ∀ config, mode = .dalvikvm config → Passed (archiveArguments config classes output) blocks

theorem HasArchived.append_left {mode : Mode} {classes output : Path} {first : List Block}
    (h : mode.HasArchived classes output first) (second : List Block) :
    mode.HasArchived classes output (first ++ second) :=
  fun config same => (h config same).append_left second

theorem HasArchived.append_right {mode : Mode} {classes output : Path} {second : List Block}
    (h : mode.HasArchived classes output second) (first : List Block) :
    mode.HasArchived classes output (first ++ second) :=
  fun config same => (h config same).append_right first

theorem install_passed {mode : Mode} {area : WorkArea} {qualifiedName : String}
    {classpath : Classpath} {host after : Host}
    (h : mode.install area qualifiedName host = (.ok classpath, after)) :
    ∃ blocks, Leaves host blocks after ∧ mode.HasArchived (area.classesDirectory qualifiedName)
      (testArchive area qualifiedName) blocks := by
  cases mode with
  | jvm config =>
    cases h
    refine ⟨[], .refl host, fun config same => ?_⟩
    cases same
  | dalvikvm config =>
    simp only [install, archive_eq] at h
    split at h
    · next archived =>
      cases h
      obtain ⟨blocks, leaves, passed⟩ := Compiler.complete_passed archived
      refine ⟨blocks, leaves, fun config same => ?_⟩
      cases same
      exact passed
    · cases h
  | scripted script =>
    obtain ⟨blocks, leaves⟩ := (install_ran h).returned
    refine ⟨blocks, leaves, fun config same => ?_⟩
    cases same

theorem setUpRunner_passed {mode : Mode} {runner : Runner} {host after : Host}
    (h : mode.setUpRunner runner host = (.ok (), after)) :
    ∃ blocks, Leaves host blocks after ∧
      mode.HasArchived runner.classes (runnerArchive runner) blocks := by
  cases mode with
  | jvm config =>
    cases h
    refine ⟨[], .refl host, fun config same => ?_⟩
    cases same
  | dalvikvm config =>
    obtain ⟨blocks, leaves, passed⟩ := Compiler.complete_passed h
    refine ⟨blocks, leaves, fun config same => ?_⟩
    cases same
    exact passed
  | scripted script =>
    obtain ⟨blocks, leaves⟩ := (setUpRunner_ran h).returned
    refine ⟨blocks, leaves, fun config same => ?_⟩
    cases same

/-! ## The classpath of a machine -/

/-- What a mode runs the test runner from. -/
def installedRunner (mode : Mode) (runner : Runner) : Path :=
  match mode with
  | dalvikvm _ => runnerArchive runner
  | _ => runner.classes

end Mode

theorem Classpath.entries_pair {first second : Path} (apart : second ≠ first) :
    (of [first] + of [second]).entries = [first, second] := by
  simp [entries_add, distinct, apart]

theorem Classpath.entries_begin {first second : Path} (apart : second ≠ first)
    (rest : Classpath) :
    ∃ others, (of [first] + of [second] + rest).entries = first :: second :: others := by
  rw [entries_add, entries_pair apart]
  exact ⟨_, rfl⟩

/-- A machine has the working directory of its test, and its classpath begins with what the test and
the test runner were installed as. -/
theorem Harness.commands_classpath {harness : Harness} {runner : Runner} {test : TestRun}
    {command : Command} (real : harness.IsReal)
    (classes : runner.classes = harness.area.runnerClasses)
    (installed : test.classpath =
      some (.of [harness.mode.installed harness.area test.qualifiedName]))
    (only : harness.mode.commands harness.area runner test = [command]) :
    command.directory = some (harness.area.userDirectory test.qualifiedName) ∧
      ∃ front classpath mainClass others,
        command.arguments = front ++ ["-classpath", Classpath.toString classpath, mainClass] ∧
        classpath.entries = harness.mode.installed harness.area test.qualifiedName ::
          harness.mode.installedRunner runner :: others := by
  have isClasses : IsName "classes" := by decide
  have isRunner : IsName "testrunner" := by decide
  have isTestArchive : IsName Mode.testArchiveName := by decide
  have isRunnerArchive : IsName Mode.runnerArchiveName := by decide
  rcases real.mode with ⟨config, mode⟩ | ⟨config, mode⟩ <;>
    rw [mode] at only installed ⊢ <;>
    simp only [Mode.commands, installed, Option.getD_some, List.cons.injEq, and_true] at only
  · have apart : runner.classes ≠ harness.area.classesDirectory test.qualifiedName := by
      intro same
      have names := congrArg Path.name same
      rw [classes, WorkArea.runnerClasses, WorkArea.classesDirectory, Path.name_child isRunner,
        Path.name_child isClasses] at names
      exact absurd names (by decide)
    subst only
    obtain ⟨others, entries⟩ := Classpath.entries_begin apart runner.classpath
    exact ⟨rfl, [config.java] ++ config.vmArguments, _, config.runnerMainClass, others, rfl, entries⟩
  · have apart : Mode.runnerArchive runner ≠
        Mode.testArchive harness.area test.qualifiedName := by
      intro same
      have names := congrArg Path.name same
      rw [Mode.runnerArchive, Mode.testArchive, Path.name_child isRunnerArchive,
        Path.name_child isTestArchive] at names
      exact absurd names (by decide)
    subst only
    exact ⟨rfl, [config.dalvikvm] ++ config.vmArguments, _, config.runnerMainClass, [], rfl,
      Classpath.entries_pair apart⟩

/-! ## The properties of a test -/

theorem Harness.testProperties_eq {harness : Harness} (real : harness.IsReal) (test : TestRun) :
    harness.testProperties test = [(Properties.testClassKey, test.testClass),
      (Properties.qualifiedNameKey, test.qualifiedName)] := by
  rcases real.mode with ⟨config, mode⟩ | ⟨config, mode⟩ <;>
  · simp only [testProperties, mode, Mode.extraProperties]
    rfl

/-- When a test can be compiled, its properties can be read. -/
theorem Harness.Readies.properties {harness : Harness} {test : TestRun} {host written : Host}
    (real : harness.IsReal) (h : harness.Readies test host written) :
    ∃ octets, written.disk.read (harness.area.propertiesFile test.qualifiedName) = .ok octets ∧
      Properties.load octets = some [
        (Properties.utf16 Properties.testClassKey, Properties.utf16 test.testClass),
        (Properties.utf16 Properties.qualifiedNameKey, Properties.utf16 test.qualifiedName)] := by
  obtain ⟨made, file, -, writes⟩ := h.wrote
  obtain ⟨octets, reads, loads⟩ := Properties.load_written (by decide +kernel) writes
  rw [testProperties_eq real] at loads
  exact ⟨octets, reads, loads⟩

/-- The working directory of a test is made beside its classes, and what could be read there can
still be read. -/
theorem WorkArea.prepareUserDirectory_reads {area : WorkArea} {qualifiedName : String}
    {host after : Host} {octets : List UInt8}
    (reads : host.disk.read (area.propertiesFile qualifiedName) = .ok octets)
    (h : area.prepareUserDirectory qualifiedName host = (.ok (), after)) :
    after.disk.read (area.propertiesFile qualifiedName) = .ok octets := by
  have isUser : IsName "user.dir" ∧ "user.dir" ≠ ".." := by decide
  have isClasses : IsName "classes" ∧ "classes" ≠ ".." := by decide
  have isFile : IsName Properties.fileName ∧ Properties.fileName ≠ ".." := by decide
  have starts := host.disk.startsAt_getD (area.testDirectory qualifiedName)
  generalize (host.disk.origin? (area.testDirectory qualifiedName)).getD [] = start at starts
  have begins := starts.congr (Path.anchor_child isUser.1)
  unfold prepareUserDirectory at h
  split at h
  · cases h
  · have removed : Disk.Confined _ (Disk.OnWay start (area.userDirectory qualifiedName).names)
        host.disk _ := Disk.remove_confined begins List.prefix_rfl
    have changed := removed.trans (Disk.makeDirectories_confined (removed.startsAt begins)
      (fun front short => .inr ⟨front, short, rfl⟩) false)
    obtain ⟨place, found, -⟩ := Host.makeDirectories_stands (Path.names_child_ne_nil isUser.1) h
    rw [Host.makeDirectories_disk h] at found ⊢
    exact changed.read_beside isClasses.1 isFile.1 isUser.1 isClasses.2 isFile.2
      isUser.2 (by decide) starts found reads

/-! ## The start of a machine -/

/-- What a machine finds that is started for a test with arguments in a directory, after blocks that
were left before. -/
structure Harness.Launches (harness : Harness) (runner : Runner) (test : TestRun)
    (blocks : List Block) (disk : Disk) (arguments : List String) (directory : Path) : Prop where
  own : directory = harness.area.userDirectory test.qualifiedName
  empty : ∃ place, disk.locate directory = .ok place ∧ disk.isDirectoryAt place = true ∧
    ∀ name, disk.entry? (place ++ [name]) = none
  properties : ∃ octets,
    disk.read (harness.area.propertiesFile test.qualifiedName) = .ok octets ∧
    Properties.load octets = some [
      (Properties.utf16 Properties.testClassKey, Properties.utf16 test.testClass),
      (Properties.utf16 Properties.qualifiedNameKey, Properties.utf16 test.qualifiedName)]
  compiled : harness.compiler.HasPassed [test.source]
    (harness.area.classesDirectory test.qualifiedName) blocks
  archived : harness.mode.HasArchived (harness.area.classesDirectory test.qualifiedName)
    (Mode.testArchive harness.area test.qualifiedName) blocks
  runnerCompiled : harness.compiler.HasPassed runner.sources runner.classes blocks
  runnerArchived : harness.mode.HasArchived runner.classes (Mode.runnerArchive runner) blocks
  classpath : ∃ front classpath mainClass others,
    arguments = front ++ ["-classpath", Classpath.toString classpath, mainClass] ∧
    classpath.entries = harness.mode.installed harness.area test.qualifiedName ::
      harness.mode.installedRunner runner :: others

section Start
variable {harness : Harness} {runner : Runner} {test : TestRun} {host : Host}

theorem Harness.prepare_passed {sources classpath : List Path} {ready : Host}
    (real : harness.IsReal)
    (prepared : harness.prepare sources classpath host = (.ok runner, ready)) :
    ∃ blocks, Leaves host blocks ready ∧
      harness.compiler.HasPassed runner.sources runner.classes blocks ∧
      harness.mode.HasArchived runner.classes (Mode.runnerArchive runner) blocks := by
  obtain ⟨executable, encoding, debug, tool⟩ := real.compiler
  obtain ⟨rfl, begun, made, compiled, begins, makes, compiles, sets⟩ := prepare_steps prepared
  obtain ⟨first, leaves, passed⟩ := Compiler.compile_passed tool compiles
  obtain ⟨second, leaves', archived⟩ := Mode.setUpRunner_passed sets
  have directories := (Host.makeDirectories_leaves begins).trans (Host.makeDirectories_leaves makes)
  exact ⟨_, (directories.trans leaves).trans leaves', (passed.append_right _).append_left _,
    archived.append_right _⟩

/-- A machine that is started for a test finds what was made for it. -/
theorem Harness.build_launches {built : TestRun} {installed : Host} {command : Command}
    {earlier : List Block} (real : harness.IsReal) (tree : host.disk.IsTree)
    (classes : runner.classes = harness.area.runnerClasses)
    (runnerCompiled : harness.compiler.HasPassed runner.sources runner.classes earlier)
    (runnerArchived : harness.mode.HasArchived runner.classes (Mode.runnerArchive runner) earlier)
    (builds : harness.build test runner host = (.ok built, installed))
    (runnable : built.isRunnable = true)
    (only : harness.mode.commands harness.area runner built = [command]) :
    ∃ blocks, Leaves host blocks installed ∧ ∃ directory, command.directory = some directory ∧
      harness.Launches runner test (earlier ++ blocks) installed.disk command.arguments
        directory := by
  obtain ⟨executable, encoding, debug, tool⟩ := real.compiler
  obtain ⟨written, compiled, archived, classpath, readies, compiles, installs, prepares, same⟩ :=
    build_steps builds runnable
  -- The blocks of the steps, one step after the other.
  obtain ⟨first, leaves, passed⟩ := Compiler.compile_passed tool compiles
  obtain ⟨second, leaves', stored⟩ := Mode.install_passed installs
  have whole := ((readies.leaves.trans leaves).trans leaves').trans
    (WorkArea.prepareUserDirectory_leaves prepares)
  rw [List.append_nil] at whole
  -- The disk: programs do not touch it.
  obtain ⟨octets, reads, loads⟩ := readies.properties real
  rw [← Compiler.compile_disk compiles, ← (Mode.install_ok installs).2] at reads
  have still := WorkArea.prepareUserDirectory_reads reads prepares
  obtain ⟨_, installation, -⟩ := build_installed builds runnable
  obtain ⟨-, place, found, standing, empty⟩ := installTest_ok tree installation
  -- The command: it is built from what was installed.
  rw [same, (Mode.install_ok installs).1] at only
  obtain ⟨directory, arguments⟩ := commands_classpath real classes rfl only
  refine ⟨_, whole, _, directory, ?_⟩
  exact {
    own := rfl
    empty := ⟨place, found, standing, empty⟩
    properties := ⟨octets, still, loads⟩
    compiled := ((passed.append_right []).append_left second).append_right earlier
    archived := (stored.append_right ([] ++ first)).append_right earlier
    runnerCompiled := runnerCompiled.append_left _
    runnerArchived := runnerArchived.append_left _
    classpath := arguments }

end Start

namespace Suite

/-- Whenever a suite starts a program in a working directory, that program is the machine of one of
its tests. The directory is new and empty, and the properties of the test, its classes, those of the
test runner and the archives of both are where the machine looks for them. Each was made by a
program that had exited with status zero before. -/
theorem runAll_launch {harness closed : Harness} {places : List Nat}
    {sources classpath : List Path} {tests ended : List TestRun} {host after : Host}
    {result : Except Fault Unit} {past rest : List Event} {arguments : List String}
    {directory : Path} {environment : Option (List (String × String))} (real : harness.IsReal)
    (tree : host.disk.IsTree)
    (ran : runAll harness places sources classpath tests host = (result, ended, closed, after))
    (recorded : after.events =
      host.events ++ past ++ .spawn arguments (some directory) environment :: rest) :
    ∃ runner ready earlier place given test before command moment blocks,
      harness.prepare sources classpath host = (.ok runner, ready) ∧
      Comes harness runner places tests (begins places ready) earlier place test before ∧
      tests[place]? = some given ∧ test.bare = given.bare ∧
      harness.Starts runner test before command moment ∧
      command.launch = .spawn arguments (some directory) environment ∧
      moment.events = host.events ++ past ∧ Leaves host blocks moment ∧
      harness.Launches runner test blocks moment.disk arguments directory := by
  have something : places ≠ [] := by
    refine something_of_grown ran ?_
    rw [recorded]
    simp only [List.length_append, List.length_cons]
    omega
  rcases runAll_accounts real something ran with ⟨-, quiet⟩ | ⟨runner, ready, prepared, later⟩
  · obtain ⟨command, moment, bare, -, launch⟩ := quiet.find recorded
    rw [Command.launch, bare] at launch
    cases launch
  have accounts := ((prepare_accounts real prepared).mono fun _ _ => Or.inl).trans
    (later.mono fun _ _ => Or.inr)
  obtain ⟨command, moment, bare | starts, events, launch⟩ := accounts.find recorded
  · rw [Command.launch, bare] at launch
    cases launch
  obtain ⟨earlier, place, test, before, comes, starts⟩ := starts
  obtain ⟨given, at_place, alike⟩ := comes.given
  -- Everything up to the moment: the preparation, the tests before this one, and its own build.
  obtain ⟨classes, -⟩ := Harness.prepare_steps prepared
  obtain ⟨first, leaves, compiled, archived⟩ := Harness.prepare_passed real prepared
  have tree : ready.disk.IsTree :=
    Harness.prepare_preserves (fun tree => tree.makeDirectories _ _) tree prepared
  have tree : before.disk.IsTree :=
    comes.preserves (fun _ _ given _ => harness.area.preserves_tree given.qualifiedName) tree
  obtain ⟨table, passed, -⟩ := comes.ran
  obtain ⟨second, leaves'⟩ := (runEach_ran passed).returned
  have sofar : Leaves host (first ++ second) before :=
    leaves.trans (((ready.note_leaves _ _).trans leaves'))
  cases id starts with
  | compiler readies tool => cases launch
  | archiver readies compiles mode => cases launch
  | machine builds runnable only =>
    obtain ⟨blocks, own, place', goes, launches⟩ := Harness.build_launches real tree
      (congrArg Runner.classes classes) (compiled.append_left second)
      (archived.append_left second) builds runnable only
    obtain ⟨rfl, at_directory, rfl⟩ := Event.spawn.inj launch
    rw [at_directory] at goes
    cases goes
    exact ⟨runner, ready, earlier, place, given, test, before, command, moment, _, prepared, comes,
      at_place, alike, starts, launch, events, sofar.trans own, launches⟩

theorem runAll_launch_sample :
    ∃ runner test blocks disk, test.bare = Samples.test.bare ∧
      sampleHarness.Launches runner test blocks disk
        ["java", "-classpath", "/work/com.example.FooTest/classes:/work/testrunner",
          "vmtest.TestRunner"] (.parse "/work/com.example.FooTest/user.dir") := by
  have tree : sampleHost.disk.IsTree := by decide
  have recorded : (runAll sampleHarness [0] [] [] [Samples.test] sampleHost).2.2.2.events =
      sampleHost.events ++
        [.spawn ["javac", "-encoding", "UTF-8", "-g", "-bootclasspath", "/sdk/core.jar",
            "-sourcepath", "/runner", "-d", "/work/testrunner"] none none,
          .killGroup "javac" .gone,
          .spawn ["javac", "-encoding", "UTF-8", "-g", "-bootclasspath", "/sdk/core.jar",
            "-sourcepath", "/src/com/example", "-d", "/work/com.example.FooTest/classes",
            "/src/com/example/FooTest.java"] none none,
          .killGroup "javac" .gone] ++
        .spawn ["java", "-classpath", "/work/com.example.FooTest/classes:/work/testrunner",
            "vmtest.TestRunner"] (some (.parse "/work/com.example.FooTest/user.dir")) none ::
          [.killGroup "java" .natural] := by
    decide +kernel
  rcases ran : runAll sampleHarness [0] [] [] [Samples.test] sampleHost with
    ⟨result, ended, closed, after⟩
  rw [ran] at recorded
  obtain ⟨runner, ready, earlier, place, given, test, before, command, moment, blocks, -, -,
    at_place, alike, -, -, -, -, launches⟩ := runAll_launch sampleHarness_real tree ran recorded
  have own : given = Samples.test := by
    rw [List.getElem?_singleton] at at_place
    split at at_place
    · exact (Option.some.inj at_place).symm
    · cases at_place
  exact ⟨runner, test, blocks, moment.disk, own ▸ alike, launches⟩

end Suite
end TestBench
