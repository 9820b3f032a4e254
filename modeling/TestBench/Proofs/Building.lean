import TestBench.Proofs.Installation
import TestBench.Proofs.Tools

/-!
How a test is classified that is made ready to run. Every fault on the way is recorded, and a test
has a classpath only when all of it has been done.

- `installTest_works`: the tools of a test, and the making of its working directory,
- `build_classifies`: a test without a result is ready, unsupported, has failed to compile or has
  met a fault,
- `build_recorded`: a test with a result is not spared.
-/
namespace TestBench
set_option autoImplicit false

theorem Ran.recorded {α : Type} {result : Except Fault α} {host after : Host}
    (h : Ran result host after) : ∃ more, after.events = host.events ++ more := by
  rcases h with ⟨blocks, leaves⟩ | ⟨-, blocks, waits⟩
  · exact ⟨_, leaves.events⟩
  · obtain ⟨command, behaviour, left, leaves, -⟩ := waits
    refine ⟨blocks.flatMap Block.events ++ [command.launch], ?_⟩
    rw [← List.append_assoc, ← leaves.events]
    rfl

/-- A program that is run is the first thing to be recorded, whatever becomes of it. -/
theorem Compiler.complete_launches {arguments : List String} {host after : Host}
    {result : Except Fault Unit} (h : Compiler.complete arguments host = (result, after)) :
    ∃ rest, after.events = host.events ++ (Command.ofArguments arguments none).launch :: rest := by
  rcases executed : (Command.ofArguments arguments none).execute host with
    ⟨outcome, ended, finished⟩
  have same : finished = after := by
    simp only [Compiler.complete, executed] at h
    cases outcome <;> exact (Prod.mk.inj h).2
  rw [← same]
  rcases Command.execute_leaves ⟨rfl, rfl⟩ executed with
    ⟨block, own, leaves⟩ | ⟨-, behaviour, left, waiting, -⟩
  · obtain ⟨kills, events, -⟩ := block.events_cons
    exact ⟨kills, by rw [leaves.events, ← own, ← events]; simp⟩
  · exact ⟨[], by rw [waiting]; rfl⟩

namespace Fault

def IsFailure (fault : Fault) : Prop :=
  ∃ arguments status output, fault = .commandFailed arguments status output

/-- A fault that a test records as an error. -/
structure IsRecorded (fault : Fault) : Prop where
  returns : fault ≠ .endless
  unfailed : ¬fault.IsFailure

end Fault

theorem WorkArea.holdsNull_classes {area : WorkArea} {qualifiedName : String}
    (h : (area.userDirectory qualifiedName).HoldsNull) :
    (area.classesDirectory qualifiedName).HoldsNull :=
  (Path.HoldsNull.of_child (by decide) (by unfold HoldsNull; decide) h).child (by decide)

namespace Harness
variable {harness : Harness} {runner : Runner} {test : TestRun} {host after : Host}

/-- No tool shows by itself the fault of a failed command. -/
def ToolsTame (harness : Harness) (programs : List (String × List Behaviour)) : Prop :=
  ∀ program ∈ harness.tools, ∀ behaviour, Supplied programs program behaviour →
    ∀ fault, behaviour.startFault = some fault ∨ behaviour.readFault = some fault →
      ¬fault.IsFailure

/-- The faults that keep a test from being made ready, other than the failure of a tool. -/
def Obstructs (harness : Harness) (test : TestRun) (runner : Runner)
    (programs : List (String × List Behaviour)) (fault : Fault) : Prop :=
  Hinders programs (harness.testTools test runner) fault ∨
    harness.area.userDirectoryFault = some fault

theorem Obstructs.isRecorded {programs : List (String × List Behaviour)} {fault : Fault}
    (ends : harness.ToolsEnd programs) (tame : harness.ToolsTame programs)
    (directories : ∀ fault, harness.area.userDirectoryFault = some fault → fault.IsRecorded)
    (h : harness.Obstructs test runner programs fault) : fault.IsRecorded := by
  rcases h with hinders | directory
  · refine ⟨hinders.returns fun _ tool => ends _ (mem_tools tool), ?_⟩
    cases hinders with
    | refused refusal detail => exact nofun
    | null tool member holds => exact nofun
    | shown tool supplied faulty => exact tame _ (mem_tools tool) _ supplied fault faulty
  · exact directories fault directory

theorem prepareUserDirectory_obstructs {programs : List (String × List Behaviour)} {fault : Fault}
    (equipped : harness.IsEquipped)
    (h : harness.area.prepareUserDirectory test.qualifiedName host = (.error fault, after)) :
    harness.Obstructs test runner programs fault := by
  obtain ⟨arguments, tool, named⟩ := equipped.destination (harness.testJob test runner)
  unfold WorkArea.prepareUserDirectory at h
  split at h
  · next directory =>
    cases h
    exact .inr directory
  -- Of the two directories of a test, the compiler is given only the one for the classes. A null
  -- character that stops the other one stands in what they share.
  · have refuses := (Host.makeDirectories_refuses h).imp WorkArea.holdsNull_classes
    exact .inl (.of_path (List.mem_append_left _ tool) named refuses)

/-- The tools of a test are run, and then its working directory is made. -/
theorem installTest_works {result : Except Fault Classpath} (equipped : harness.IsEquipped)
    (ends : harness.ToolsEnd host.programs)
    (h : harness.installTest test runner host = (result, after)) :
    ∃ blocks, Works (harness.Obstructs test runner host.programs) (harness.testTools test runner)
      host blocks result after := by
  have obstructs : ∀ fault, Hinders host.programs (harness.testTools test runner) fault →
      harness.Obstructs test runner host.programs fault := fun _ => .inl
  unfold installTest at h
  split at h
  · next compiled =>
    cases h
    obtain ⟨blocks, works⟩ := compileTest_works equipped ends compiled
    exact ⟨blocks, by simpa using (works.mono obstructs).stop []⟩
  · next compiled =>
    obtain ⟨blocks, works⟩ := compileTest_works equipped ends compiled
    obtain ⟨rest, last⟩ : ∃ rest, Works (harness.Obstructs test runner host.programs) [] _ rest
        result after := by
      split at h
      · next made =>
        cases h
        exact ⟨[], .obstructed (WorkArea.prepareUserDirectory_leaves made)
          (prepareUserDirectory_obstructs equipped made)⟩
      · next made =>
        cases h
        exact ⟨[], .quiet _ (WorkArea.prepareUserDirectory_leaves made)⟩
    exact ⟨_, by simpa only [List.append_nil] using (works.mono obstructs).next last⟩

theorem build_unsupported (opened : harness.closed = false)
    (unsupported : isSupported test.source = false) :
    harness.build test runner host = (test.setResult .unsupported [], host) := by
  simp [build, opened, unsupported]

theorem build_supported (opened : harness.closed = false)
    (supported : isSupported test.source = true) :
    harness.build test runner host =
      (recordInstall test (harness.installTest test runner host).1,
        (harness.installTest test runner host).2) := by
  simp [build, opened, supported]

theorem recordInstall_error {fault : Fault} (unset : test.result = none)
    (recorded : fault.IsRecorded) :
    recordInstall test (.error fault) =
      .ok { test with result := some .error, output := fault.report } := by
  cases fault with
  | commandFailed arguments status output => exact absurd ⟨_, _, _, rfl⟩ recorded.unfailed
  | endless => exact absurd rfl recorded.returns
  | _ => exact TestRun.setResult_of_none unset _ _

theorem recordInstall_failed {arguments : List String} {status : Int} {output : List String}
    (unset : test.result = none) :
    recordInstall test (.error (.commandFailed arguments status output)) =
      .ok { test with result := some .compileFailed, output := output } :=
  TestRun.setResult_of_none unset _ _

/-! ## A test without a result -/

def HasUserDirectory (harness : Harness) (test : TestRun) (disk : Disk) : Prop :=
  ∃ place, disk.locate (harness.area.userDirectory test.qualifiedName) = .ok place ∧
    disk.isDirectoryAt place = true ∧ ∀ name, disk.entry? (place ++ [name]) = none

/-- How building has classified a test. -/
def Classifies (harness : Harness) (test : TestRun) (runner : Runner) (host : Host)
    (blocks : List Block) (after : Host) (done : TestRun) : Prop :=
  match done.result with
  | none => done = test.withClasspath (.of [harness.mode.installed harness.area test.qualifiedName])
      ∧ harness.HasUserDirectory test after.disk ∧
      blocks.map Block.command = toolCommands (harness.testTools test runner) ∧
      ∀ process ∈ blocks.flatMap Block.processes, process.statusAt after.now = some 0
  | some .unsupported => isSupported test.source = false ∧ done.output = [] ∧ blocks = [] ∧
      after = host
  | some .compileFailed => ∃ block ∈ blocks, block.command ∈
      toolCommands (harness.testTools test runner) ∧
      ∃ status, status ≠ 0 ∧ block.Exits status ∧ done.output = block.lines
  | some .error => ∃ fault, (harness.installTest test runner host).1 = .error fault ∧
      fault.IsRecorded ∧ done.output.head? = some (fault.label ++ ": " ++ fault.message)
  | some _ => False

theorem recordInstall_classifies {blocks : List Block} {installed : Except Fault Classpath}
    (ends : harness.ToolsEnd host.programs) (tame : harness.ToolsTame host.programs)
    (directories : ∀ fault, harness.area.userDirectoryFault = some fault → fault.IsRecorded)
    (tree : host.disk.IsTree) (unset : test.result = none)
    (installs : harness.installTest test runner host = (installed, after))
    (works : Works (harness.Obstructs test runner host.programs) (harness.testTools test runner)
      host blocks installed after) :
    ∃ done, recordInstall test installed = .ok done ∧
      (done.result.isSome → done.classpath = test.classpath) ∧
      harness.Classifies test runner host blocks after done := by
  cases installed with
  | ok classpath =>
    obtain ⟨same, directory⟩ := installTest_ok tree installs
    obtain ⟨all, zero⟩ := works.passed classpath rfl
    refine ⟨test.withClasspath classpath, rfl, ?_, ?_⟩
    · simp [TestRun.withClasspath, unset]
    · simp only [Classifies, TestRun.withClasspath, unset]
      exact ⟨by rw [same], directory, all, works.leaves.timely.statusAt zero⟩
  | error fault =>
    rcases works.failed fault rfl with ⟨block, member, status, nonzero, exits⟩ | obstructs
    · cases works.told block member status exits nonzero
      refine ⟨_, recordInstall_failed unset, fun _ => rfl, block, member, ?_, status, nonzero, exits,
        rfl⟩
      exact works.order.subset (List.mem_map_of_mem member)
    · have recorded := obstructs.isRecorded ends tame directories
      exact ⟨_, recordInstall_error unset recorded, fun _ => rfl, fault,
        congrArg Prod.fst installs, recorded, fault.report_head⟩

/-- A test that has neither a result nor a classpath is classified once. It is ready to run, with
an empty working directory and what output it had, and every tool has been run and has exited with
status zero; or it is not supported, and nothing has been done; or a tool has exited with another status,
and its output is that of the test; or it records the fault that has been met. In the last three
cases it has no classpath. -/
theorem build_classifies (opened : harness.closed = false) (equipped : harness.IsEquipped)
    (ends : harness.ToolsEnd host.programs) (tame : harness.ToolsTame host.programs)
    (directories : ∀ fault, harness.area.userDirectoryFault = some fault → fault.IsRecorded)
    (tree : host.disk.IsTree) (unset : test.result = none) (uninstalled : test.classpath = none) :
    ∃ done blocks after, harness.build test runner host = (.ok done, after) ∧
      Leaves host blocks after ∧ harness.Classifies test runner host blocks after done ∧
      (done.result = none → done.isRunnable = true ∧ done.output = test.output) ∧
      (done.result.isSome → done.isRunnable = false ∧ done.classpath = none) := by
  obtain ⟨done, blocks, after, built, leaves, kept, classified⟩ : ∃ done blocks after,
      harness.build test runner host = (.ok done, after) ∧ Leaves host blocks after ∧
      (done.result.isSome → done.classpath = test.classpath) ∧
      harness.Classifies test runner host blocks after done := by
    cases supported : isSupported test.source with
    | false =>
      rw [build_unsupported opened supported, TestRun.setResult_of_none unset]
      exact ⟨_, [], host, rfl, .refl host, fun _ => rfl, supported, rfl, rfl, rfl⟩
    | true =>
      rw [build_supported opened supported]
      rcases installs : harness.installTest test runner host with ⟨installed, after⟩
      obtain ⟨blocks, works⟩ := installTest_works equipped ends installs
      obtain ⟨done, recorded, kept, classified⟩ :=
        recordInstall_classifies ends tame directories tree unset installs works
      exact ⟨done, blocks, after, by rw [recorded], works.leaves, kept, classified⟩
  refine ⟨done, blocks, after, built, leaves, classified, fun ready => ?_, fun settled => ?_⟩
  · simp only [Classifies, ready] at classified
    obtain ⟨rfl, -⟩ := classified
    exact ⟨TestRun.isRunnable_iff.mpr ⟨rfl, ready⟩, rfl⟩
  · obtain ⟨result, settled'⟩ := Option.isSome_iff_exists.mp settled
    exact ⟨by simp [TestRun.isRunnable, settled'], (kept settled).trans uninstalled⟩

def sampleRefusing : Behaviour :=
  ⟨Text.Utf8.encode "FooTest.java:1: error\n1 error\n".toList, some 5, 1, some 7, none, none,
    .natural, false⟩

def sampleCompilers : Host :=
  .fresh ⟨[], some []⟩ 0 [("javac", [sampleRefusing])]

theorem sampleCompilers_shown {program : String} {behaviour : Behaviour}
    (supplied : Supplied sampleCompilers.programs program behaviour) :
    behaviour = sampleRefusing := by
  obtain ⟨behaviours, inside, shown⟩ := supplied
  cases List.mem_singleton.mp inside
  exact List.mem_singleton.mp shown

theorem build_classifies_sample :
    ∃ done blocks after,
      Suite.sampleHarness.build Samples.test (Suite.sampleHarness.runnerOf [] []) sampleCompilers =
        (.ok done, after) ∧
      Leaves sampleCompilers blocks after ∧ done.result = some .compileFailed ∧
      done.classpath = none ∧
      ∃ block ∈ blocks, ∃ status, status ≠ 0 ∧ block.Exits status ∧ done.output = block.lines := by
  have told : (Suite.sampleHarness.build Samples.test (Suite.sampleHarness.runnerOf [] [])
      sampleCompilers).1.map TestRun.result = .ok (some .compileFailed) := by
    decide +kernel
  have ends : Suite.sampleHarness.ToolsEnd sampleCompilers.programs := by
    rintro program - behaviour supplied
    rw [sampleCompilers_shown supplied]
    exact ⟨nofun, nofun, fun _ _ => ⟨rfl, rfl⟩⟩
  have tame : Suite.sampleHarness.ToolsTame sampleCompilers.programs := by
    rintro program - behaviour supplied fault shown
    rw [sampleCompilers_shown supplied] at shown
    rcases shown with shown | shown <;> cases shown
  obtain ⟨done, blocks, after, built, leaves, classified, -, unfit⟩ :=
    @build_classifies Suite.sampleHarness (Suite.sampleHarness.runnerOf [] []) Samples.test
      sampleCompilers rfl ⟨⟨_, _, _, rfl⟩, .inl ⟨_, rfl⟩⟩ ends tame nofun (by decide) rfl rfl
  rw [built] at told
  have failed : done.result = some .compileFailed := Except.ok.inj told
  simp only [Classifies, failed] at classified
  obtain ⟨block, member, -, status, nonzero, exits, output⟩ := classified
  exact ⟨done, blocks, after, built, leaves, failed, (unfit (by rw [failed]; rfl)).2, block, member,
    status, nonzero, exits, output⟩

/-- A test that has output, though it has no result. -/
def sampleNoisy : TestRun :=
  { Samples.test with output := ["noise"] }

/-- A harness on which a command fails whenever a user directory is to be prepared. -/
def sampleRoomless : Harness :=
  { Suite.sampleHarness with
    area := { Suite.sampleHarness.area with
      userDirectoryFault := some (.commandFailed ["mkdir"] 1 ["no room"]) } }

/-- A test that becomes ready keeps the output that it had. And a command that fails while the user
directory is prepared is recorded as a failure to compile, though every tool has exited with status
zero. -/
theorem build_keeps_noise :
    (Suite.sampleHarness.build sampleNoisy (Suite.sampleHarness.runnerOf [] [])
        Suite.sampleHost).1 =
      .ok { sampleNoisy with classpath := some (.of
        [Suite.sampleHarness.area.classesDirectory sampleNoisy.qualifiedName]) } ∧
      sampleNoisy.result = none ∧ sampleNoisy.output ≠ [] ∧
      (sampleRoomless.build Samples.test (sampleRoomless.runnerOf [] []) Suite.sampleHost).1 =
        .ok { Samples.test with result := some .compileFailed, output := ["no room"] } ∧
      (sampleRoomless.build Samples.test (sampleRoomless.runnerOf [] [])
        Suite.sampleHost).2.processes.map (fun process => process.exit?.map Prod.snd) =
          [some 0] := by
  refine ⟨?_, rfl, List.cons_ne_nil _ _, ?_, ?_⟩ <;> decide +kernel

/-! ## A test with a result -/

/-- A result that is there is kept, and so is the output, but the classpath is not. -/
theorem recordInstall_recorded {earlier : TestResult} (had : test.result = some earlier)
    (installed : Except Fault Classpath) :
    recordInstall test installed = match installed with
      | .ok classpath => .ok (test.withClasspath classpath)
      | .error .endless => .error .endless
      | .error _ => .error (test.alreadySet earlier) := by
  have refused (result : TestResult) (output : List String) :
      test.setResult result output = .error (test.alreadySet earlier) := by
    simp [TestRun.setResult, had, TestRun.alreadySet]
  cases installed with
  | ok classpath => rfl
  | error fault => cases fault <;> first | rfl | exact refused _ _

theorem installTest_bare (harness : Harness) (test : TestRun) (runner : Runner) (host : Host) :
    harness.installTest test.bare runner host = harness.installTest test runner host := by
  have job : harness.testJob test.bare runner = harness.testJob test runner := rfl
  have properties : harness.testProperties test.bare = harness.testProperties test := rfl
  have name : test.bare.qualifiedName = test.qualifiedName := rfl
  simp only [installTest, compileTest, job, properties, name]

theorem compile_launches {job : Compilation} {result : Except Fault Unit}
    (equipped : harness.IsEquipped) (h : harness.compiler.compile job host = (result, after)) :
    ∃ arguments ∈ harness.compiler.toolArguments job, ∃ rest,
      after.events = host.events ++ (Command.ofArguments arguments none).launch :: rest := by
  obtain ⟨executable, encoding, debug, compiler⟩ := equipped.compiler
  rw [compiler] at h ⊢
  exact ⟨_, List.mem_cons_self, Compiler.complete_launches h⟩

/-- What comes after the compilation is added to what has been done until then. -/
theorem Readies.onward {written compiled : Host} {result : Except Fault Unit}
    (readies : harness.Readies test host written)
    (compiles : harness.compiler.compile (harness.testJob test runner) written =
      (result, compiled)) :
    Ran (harness.installTest test runner host).1 compiled
      (harness.installTest test runner host).2 := by
  obtain ⟨made, file, makes, writes⟩ := readies.wrote
  cases result with
  | error fault =>
    simp only [installTest, compileTest, makes, writes, compiles]
    exact .refl _ _
  | ok value =>
    simp only [installTest, compileTest, makes, writes, compiles]
    rcases installs : harness.mode.install harness.area test.qualifiedName compiled with
      ⟨fault | classpath, installed⟩
    · exact Mode.install_ran installs
    · refine (Mode.install_ran installs).next ?_
      dsimp only
      split <;>
      · next made =>
        exact .inl ⟨[], WorkArea.prepareUserDirectory_leaves made⟩

/-- A harness that gets to the compilation of a test starts its compiler for it. -/
theorem Readies.launches {written : Host} (readies : harness.Readies test host written)
    (equipped : harness.IsEquipped) (runner : Runner) :
    ∃ arguments ∈ harness.testTools test runner, ∃ rest,
      (harness.build test runner host).2.events =
        host.events ++ (Command.ofArguments arguments none).launch :: rest := by
  rcases compiles : harness.compiler.compile (harness.testJob test runner) written with
    ⟨result, compiled⟩
  obtain ⟨arguments, tool, rest, started⟩ := compile_launches equipped compiles
  obtain ⟨more, added⟩ := (readies.onward compiles).recorded
  refine ⟨arguments, List.mem_append_left _ tool, rest ++ more, ?_⟩
  rw [build_supported readies.opened readies.supported, added, started,
    events_of_leaves readies.leaves, List.append_assoc, List.cons_append]

/-- A test that has a result is made ready all the same: what is done to the host is what is done
for the test without its result, and it is given the classpath. Only then is a second result
refused. -/
theorem build_recorded (opened : harness.closed = false) {earlier : TestResult}
    (had : test.result = some earlier) :
    (harness.build test runner host).2 = (harness.build test.bare runner host).2 ∧
      (isSupported test.source = false →
        harness.build test runner host = (.error (test.alreadySet earlier), host)) ∧
      (isSupported test.source = true →
        (harness.build test runner host).1 =
          match (harness.installTest test runner host).1 with
          | .ok classpath => .ok (test.withClasspath classpath)
          | .error .endless => .error .endless
          | .error _ => .error (test.alreadySet earlier)) ∧
      ∀ written, harness.IsEquipped → harness.Readies test host written →
        ∃ arguments ∈ harness.testTools test runner, ∃ rest,
          (harness.build test runner host).2.events =
            host.events ++ (Command.ofArguments arguments none).launch :: rest := by
  refine ⟨?_, fun unsupported => ?_, fun supported => ?_, fun written equipped readies =>
    readies.launches equipped runner⟩
  · cases supported : isSupported test.source with
    | false =>
      have alone : harness.build test.bare runner host = _ := build_unsupported opened supported
      rw [build_unsupported opened supported, alone]
    | true =>
      have alone : harness.build test.bare runner host = _ := build_supported opened supported
      rw [build_supported opened supported, alone, installTest_bare]
  · rw [build_unsupported opened unsupported]
    simp [TestRun.setResult, had, TestRun.alreadySet]
  · rw [build_supported opened supported]
    dsimp only
    rw [recordInstall_recorded had]

def sampleRecorded : TestRun :=
  { Samples.test with result := some .success }

def sampleMade : Host :=
  (Suite.sampleHost.makeDirectories true
    (Suite.sampleHarness.area.classesDirectory sampleRecorded.qualifiedName)).2

def sampleWritten : Host :=
  (Properties.write (Suite.sampleHarness.area.classesDirectory sampleRecorded.qualifiedName)
    (Suite.sampleHarness.testProperties sampleRecorded) propertiesComment sampleMade).2

theorem build_recorded_sample :
    ∃ arguments rest,
      (Suite.sampleHarness.build sampleRecorded (Suite.sampleHarness.runnerOf [] [])
        Suite.sampleHost).2.events = (Command.ofArguments arguments none).launch :: rest := by
  have readies : Suite.sampleHarness.Readies sampleRecorded Suite.sampleHost sampleWritten := by
    refine ⟨rfl, by decide +kernel, sampleMade, (Suite.sampleHarness.area.classesDirectory
      sampleRecorded.qualifiedName).child Properties.fileName, ?_, ?_⟩
    · exact Prod.ext (by decide +kernel) rfl
    · exact Prod.ext (by decide +kernel) rfl
  obtain ⟨-, -, -, starts⟩ := @build_recorded Suite.sampleHarness
    (Suite.sampleHarness.runnerOf [] []) sampleRecorded Suite.sampleHost rfl .success rfl
  obtain ⟨arguments, -, rest, started⟩ := starts _ ⟨⟨_, _, _, rfl⟩, .inl ⟨_, rfl⟩⟩ readies
  exact ⟨arguments, rest, started⟩

/-- A test that has passed is compiled again, and it is given a classpath. -/
theorem build_recorded_starts :
    Suite.sampleHarness.closed = false ∧ sampleRecorded.result = some .success ∧
      sampleRecorded.classpath = none ∧
      (Suite.sampleHarness.build sampleRecorded (Suite.sampleHarness.runnerOf [] [])
          Suite.sampleHost).1 =
        .ok (sampleRecorded.withClasspath
          (.of [Suite.sampleHarness.area.classesDirectory sampleRecorded.qualifiedName])) ∧
      (Suite.sampleHarness.build sampleRecorded (Suite.sampleHarness.runnerOf [] [])
        Suite.sampleHost).2.processes.length = 1 ∧
      (Suite.sampleHarness.build sampleRecorded (Suite.sampleHarness.runnerOf [] [])
        Suite.sampleHost).2.disk ≠ Suite.sampleHost.disk := by
  refine ⟨rfl, rfl, rfl, ?_⟩
  decide +kernel

end Harness
end TestBench
