import TestBench.Proofs.Discovery
import TestBench.Proofs.Moments

/-!
The test runner that all tests of a suite share. It lies in the base directory of the work area,
beside the directories of the tests, so a test that has its directory elsewhere cannot touch it.

- `prepare_runner`: the directory of a test runner that was prepared,
- `preserves_shared`: a test whose name stands apart leaves it alone,
- `runAll_runner_kept`: at every start the test runner is still there with all that it had, unless
  one of the tests up to then has one of four names.
-/
namespace TestBench
set_option autoImplicit false

/-! ## The directory of the test runner -/

/-- The directory of a test runner is where it was, and has all that it had. -/
structure RunnerKept (runner : Runner) (before after : Disk) (shared : Location) : Prop where
  was : before.locate runner.classes = .ok shared
  still : after.locate runner.classes = .ok shared
  directory : after.isDirectoryAt shared = true
  holds : Disk.Holds shared before after

theorem Harness.prepare_runner {harness : Harness} {sources classpath : List Path}
    {runner : Runner} {host ready : Host}
    (prepared : harness.prepare sources classpath host = (.ok runner, ready)) :
    runner.classes = harness.area.runnerClasses ∧
      ∃ shared, ready.disk.locate harness.area.runnerClasses = .ok shared ∧
        ready.disk.isDirectoryAt shared = true := by
  obtain ⟨rfl, begun, made, compiled, -, makes, compiles, sets⟩ := prepare_steps prepared
  refine ⟨rfl, ?_⟩
  rw [Mode.setUpRunner_disk sets, Compiler.compile_disk compiles]
  exact Host.makeDirectories_stands (Path.names_child_ne_nil (by decide)) makes

namespace WorkArea
variable {area : WorkArea} {start : Location} {name : String}

/-- The place of the test runner. -/
def sharedPlace (area : WorkArea) (start : Location) : Location :=
  Disk.follow start area.base.names ++ ["testrunner"]

theorem testPlace_apart (area : WorkArea) (apart : StandsApart name) (start : Location) :
    ¬area.testPlace start name <+: area.sharedPlace start ∧
      ¬area.sharedPlace start <+: area.testPlace start name := by
  obtain ⟨isName, down, other⟩ := apart
  have place : area.testPlace start name = Disk.follow start area.base.names ++ [name] :=
    Disk.follow_child isName down start
  rw [place, sharedPlace, List.prefix_append_right_inj, List.prefix_append_right_inj]
  simp [other, Ne.symm other]

/-- A test whose name stands apart leaves the directory of the test runner alone. -/
theorem preserves_shared (apart : StandsApart name) (before : Disk) :
    area.Preserves name fun disk =>
      disk.StartsAt area.base start ∧ Disk.Holds (area.sharedPlace start) before disk := by
  have anchor : (area.testDirectory name).anchor = area.base.anchor := Path.anchor_child apart.1
  obtain ⟨outside, outside'⟩ := area.testPlace_apart apart start
  refine preserves_of_keeps start (fun kept => kept.1.congr anchor) ?_
  rintro disk changed ⟨starts, held⟩ change
  exact ⟨change.startsAt starts, held.trans (change.holds outside outside')⟩

end WorkArea

/-- If the directory of the test runner holds all that it had when something is started for a test,
then it is there. -/
theorem Harness.Starts.runner_kept {harness : Harness} {runner : Runner} {test : TestRun}
    {before moment : Host} {command : Command} {start shared : Location} {ready : Disk}
    (starts : harness.Starts runner test before command moment)
    (apart : StandsApart test.qualifiedName)
    (classes : runner.classes = harness.area.runnerClasses)
    (was : ready.locate harness.area.runnerClasses = .ok shared)
    (standing : ready.isDirectoryAt shared = true) (origin : ready.StartsAt harness.area.base start)
    (begins : moment.disk.StartsAt harness.area.base start)
    (holds : Disk.Holds (harness.area.sharedPlace start) ready moment.disk) :
    RunnerKept runner ready moment.disk shared := by
  have isName : IsName "testrunner" := by decide
  have down : "testrunner" ≠ ".." := by decide
  have same : shared = harness.area.sharedPlace start := by
    rw [Disk.locate_follow (origin.congr (Path.anchor_child isName)) was]
    exact Disk.follow_child isName down start
  have there : moment.disk.entry? shared = some .directory := by
    refine holds shared (same ▸ List.prefix_rfl) _ ?_
    simpa [Disk.isDirectoryAt] using standing
  -- The way to the base directory is there, since it leads on to the directory of the test.
  obtain ⟨name, isInner, place, found⟩ := starts.located
  have anchor : ((harness.area.testDirectory test.qualifiedName).child name).anchor =
      harness.area.base.anchor := (Path.anchor_child isInner).trans (Path.anchor_child apart.1)
  have names : ((harness.area.testDirectory test.qualifiedName).child name).names =
      harness.area.base.names ++ test.qualifiedName :: [name] := by
    rw [Path.names_child isInner, WorkArea.testDirectory, Path.names_child apart.1,
      List.append_assoc]
    rfl
  obtain ⟨begun, leads, above⟩ := Disk.locate_front (begins.congr anchor) names found
  obtain ⟨-, fits, -⟩ := Disk.locate_ok.mp was
  have goes : moment.disk.walk (Disk.follow start harness.area.base.names) ["testrunner"] =
      .ok shared := by
    refine Disk.walk_cons_ok.mpr ⟨above, .inr ⟨down, by decide +kernel, ?_, ?_⟩⟩
    · rw [← WorkArea.sharedPlace, ← same, there]
      rfl
    · rw [same]
      rfl
  have begun : moment.disk.origin? harness.area.runnerClasses = some start := by
    rwa [Disk.origin?_congr anchor, ← Disk.origin?_congr (Path.anchor_child isName)] at begun
  refine ⟨classes ▸ was, ?_, by simp [Disk.isDirectoryAt, there], same ▸ holds⟩
  rw [classes]
  exact Disk.locate_along fits begun (Path.names_child isName) leads goes

namespace Suite

/-- What a name without separators is if it does not stand apart. -/
theorem not_apart {name : String} (single : '/' ∉ name.toList) (h : ¬StandsApart name) :
    name ∈ ["", ".", "..", "testrunner"] := by
  simp only [StandsApart, IsName, single, not_false_eq_true, and_true, not_and_or, not_not] at h
  rcases h with (empty | dot) | dots | shared <;> simp [*]

/-- Tests that were found are run as a suite. Whenever a compiler, an archiver or a machine is
started for one of them, the directory of the test runner is where it was when it was prepared, and
has all that it had. The one exception is a suite that has come to a test without a package whose
source has a stem that means the base directory, the one above it or that of the test runner. -/
theorem runAll_runner_kept {harness closed : Harness} {paths : List Path} {places : List Nat}
    {sources classpath : List Path} {tests ended : List TestRun} {runner : Runner}
    {first host ready after : Host} {result : Except Fault Unit} {past rest : List Event}
    {arguments : List String} {directory : Option Path}
    {environment : Option (List (String × String))} (real : harness.IsReal)
    (found : Discovery.findTests paths first = (.ok tests, host))
    (prepared : harness.prepare sources classpath host = (.ok runner, ready))
    (ran : runAll harness places sources classpath tests host = (result, ended, closed, after))
    (recorded : after.events =
      ready.events ++ past ++ .spawn arguments directory environment :: rest) :
    ∃ earlier place test before command moment,
      Comes harness runner places tests (begins places ready) earlier place test before ∧
      harness.Starts runner test before command moment ∧
      moment.events = ready.events ++ past ∧
      command.launch = .spawn arguments directory environment ∧
      ((∃ shared, RunnerKept runner ready.disk moment.disk shared) ∨
        ∃ other ∈ earlier ++ [place], ∃ given source, tests[other]? = some given ∧
          Discovery.FoundIn host.disk source given ∧ given.qualifiedName = source.stem ∧
          given.qualifiedName ∈ ["", ".", "..", "testrunner"]) := by
  have something : places ≠ [] := by
    obtain ⟨blocks, leaves⟩ := (Harness.prepare_ran prepared).returned
    refine something_of_grown ran ?_
    rw [recorded, leaves.events]
    simp only [List.length_append, List.length_cons]
    omega
  rcases runAll_accounts real something ran with ⟨⟨fault, failed, refused⟩, -⟩ | passed
  · rw [prepared] at refused
    cases refused
  obtain ⟨_, _, again, accounts⟩ := passed
  rw [prepared] at again
  cases again
  obtain ⟨command, moment, ⟨earlier, place, test, before, comes, starts⟩, events, launch⟩ :=
    accounts.find recorded
  refine ⟨earlier, place, test, before, command, moment, comes, starts, events, launch, ?_⟩
  by_cases all : ∀ other ∈ earlier ++ [place], ∀ given, tests[other]? = some given →
    StandsApart given.qualifiedName
  · left
    obtain ⟨classes, shared, was, standing⟩ := Harness.prepare_runner prepared
    have origin := ready.disk.startsAt_getD harness.area.base
    have sofar := comes.preserves
      (fun other member given at_other => WorkArea.preserves_shared
        (all other (List.mem_append_left _ member) given at_other) ready.disk)
      ⟨origin, .refl _ _⟩
    obtain ⟨given, at_place, alike⟩ := comes.given
    have apart : StandsApart test.qualifiedName := by
      rw [TestRun.name_of_bare alike]
      exact all place (List.mem_append_right _ List.mem_cons_self) given at_place
    obtain ⟨begins, holds⟩ := starts.preserves (WorkArea.preserves_shared apart ready.disk) sofar
    exact ⟨shared, starts.runner_kept apart classes was standing origin begins holds⟩
  · right
    simp only [not_forall] at all
    obtain ⟨other, member, given, at_other, touching⟩ := all
    obtain ⟨kept, founds⟩ := Discovery.findTests_found found
    obtain ⟨source, named⟩ := founds given (List.mem_of_getElem? at_other)
    rw [← kept] at named
    exact ⟨other, member, given, source, at_other, named, named.name.resolve_right touching,
      not_apart named.single touching⟩

/-! ## Samples -/

def sampleFoo : TestRun :=
  .fresh "Foo" "Foo" (.parse "/src/Foo.java") none

/-- The test runner of the sample harness. -/
def sampleRunner : Runner :=
  .of [] [] sampleHarness.area.runnerClasses

/-- The sample host with tests that were found at some paths, when the test runner is prepared. -/
def samplePrepared (paths : List String) : Host :=
  (sampleHarness.prepare [] [] (Discovery.sampleFound paths sampleHost).2).2

theorem runAll_runner_kept_sample :
    ∃ command moment shared,
      sampleHarness.Starts sampleRunner sampleFoo
        (begins [0] (samplePrepared ["/src/Foo.java"])) command moment ∧
      RunnerKept sampleRunner (samplePrepared ["/src/Foo.java"]).disk moment.disk shared := by
  have found : Discovery.findTests [.parse "/src/Foo.java"] sampleHost =
      (.ok (Discovery.sampleFound ["/src/Foo.java"] sampleHost).1,
        (Discovery.sampleFound ["/src/Foo.java"] sampleHost).2) :=
    Prod.ext (by decide +kernel) rfl
  have prepared : sampleHarness.prepare [] [] (Discovery.sampleFound ["/src/Foo.java"] sampleHost).2 =
      (.ok sampleRunner, samplePrepared ["/src/Foo.java"]) :=
    Prod.ext (by decide +kernel) rfl
  have recorded : (runAll sampleHarness [0] [] []
      (Discovery.sampleFound ["/src/Foo.java"] sampleHost).1
      (Discovery.sampleFound ["/src/Foo.java"] sampleHost).2).2.2.2.events =
      (samplePrepared ["/src/Foo.java"]).events ++ [] ++
        .spawn ["javac", "-encoding", "UTF-8", "-g", "-bootclasspath", "/sdk/core.jar",
          "-sourcepath", "/src", "-d", "/work/Foo/classes", "/src/Foo.java"] none none ::
        [.killGroup "javac" .gone,
          .spawn ["java", "-classpath", "/work/Foo/classes:/work/testrunner", "vmtest.TestRunner"]
            (some (.parse "/work/Foo/user.dir")) none,
          .killGroup "java" .natural] := by
    decide +kernel
  rcases ran : runAll sampleHarness [0] [] [] (Discovery.sampleFound ["/src/Foo.java"] sampleHost).1
    (Discovery.sampleFound ["/src/Foo.java"] sampleHost).2 with ⟨result, ended, closed, after⟩
  rw [ran] at recorded
  obtain ⟨earlier, place, test, before, command, moment, comes, starts, -, -, kept⟩ :=
    runAll_runner_kept sampleHarness_real found prepared ran recorded
  obtain ⟨⟨later, listed⟩, table, passed, at_place⟩ := comes
  obtain ⟨rfl, rfl⟩ : earlier = [] ∧ place = 0 := by
    cases earlier with
    | nil => exact ⟨rfl, (List.cons.inj listed).1.symm⟩
    | cons other more => simp at listed
  cases passed
  cases at_place
  rcases kept with ⟨shared, kept⟩ | ⟨other, first, given, source, at_other, -, -, shared⟩
  · exact ⟨command, moment, shared, starts, kept⟩
  · rw [List.nil_append, List.mem_singleton] at first
    subst first
    cases at_other
    exact absurd shared (by decide +kernel)

/-- Two tests that are found at paths that lead nowhere. The first one is not supported. -/
def sampleNamesake : List TestRun × Host :=
  Discovery.sampleFound ["/src/testrunner", "/src/Foo.java"] sampleHost

/-- The tests and the host after the first of them has been run. -/
def samplePassed : List TestRun × Host :=
  (runEach sampleHarness sampleRunner [0] sampleNamesake.1
    (begins [0, 1] (samplePrepared ["/src/testrunner", "/src/Foo.java"]))).2

/-- The host on which the classes of the second test have their directory. -/
def sampleMade : Host :=
  (samplePassed.2.makeDirectories true (sampleHarness.area.classesDirectory "Foo")).2

/-- The host on which the second test can be compiled. -/
def sampleWritten : Host :=
  (Properties.write (sampleHarness.area.classesDirectory "Foo")
    (sampleHarness.testProperties sampleFoo) Harness.propertiesComment sampleMade).2

/-- A test that has the name of the directory of the test runner is cleaned up together with it, and
the next test is compiled against nothing. -/
theorem runAll_runner_lost :
    ∃ command,
      (Discovery.findTests [.parse "/src/testrunner", .parse "/src/Foo.java"] sampleHost).1 =
        .ok sampleNamesake.1 ∧
      (sampleHarness.prepare [] [] sampleNamesake.2).1 = .ok sampleRunner ∧
      (samplePrepared ["/src/testrunner", "/src/Foo.java"]).disk.locate sampleRunner.classes =
        .ok ["work", "testrunner"] ∧
      (runAll sampleHarness [0, 1] [] [] sampleNamesake.1 sampleNamesake.2).1 = .ok () ∧
      Comes sampleHarness sampleRunner [0, 1] sampleNamesake.1
        (begins [0, 1] (samplePrepared ["/src/testrunner", "/src/Foo.java"])) [0] 1 sampleFoo
        samplePassed.2 ∧
      sampleHarness.Starts sampleRunner sampleFoo samplePassed.2 command sampleWritten ∧
      sampleWritten.disk.locate sampleRunner.classes = .error .missing := by
  have readies : sampleHarness.Readies sampleFoo samplePassed.2 sampleWritten := by
    refine ⟨rfl, by decide +kernel, sampleMade,
      (sampleHarness.area.classesDirectory "Foo").child Properties.fileName, ?_, ?_⟩
    · exact Prod.ext (by decide +kernel) rfl
    · exact Prod.ext (by decide +kernel) rfl
  refine ⟨_, ?_, ?_, ?_, ?_, ⟨⟨[], rfl⟩, samplePassed.1, ?_, ?_⟩, .compiler readies rfl, ?_⟩
  · decide +kernel
  · decide +kernel
  · decide +kernel
  · decide +kernel
  · exact Prod.ext (by decide +kernel) rfl
  · decide +kernel
  · decide +kernel

end Suite
end TestBench
