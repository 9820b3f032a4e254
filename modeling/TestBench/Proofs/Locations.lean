import TestBench.Proofs.Installation
import TestBench.Proofs.Suite

/-!
Where a machine finds its classpath. The classpath is one argument, a text, and the machine reads it
in its own working directory, which is a new one for each test. Only what is written from a root
means the same there.

- `locations_toString`: the machine reads the entries of the classpath,
- `locateFrom_of_isAbsolute` and `locateFrom_empty`: the two kinds of entries,
- `build_locations`: the command of a test that has been built.
-/
namespace TestBench
set_option autoImplicit false

/-! ## Reading a classpath -/

/-- The locations that a machine reads from its classpath argument. -/
def locations (argument : String) : List Path :=
  (Text.splitOn ':' argument.toList).map fun piece => .parse (String.ofList piece)

namespace Path

/-- A path of which no name holds the separator of classpaths. -/
def IsPlain (path : Path) : Prop :=
  ∀ name ∈ path.names, ':' ∉ name.toList

instance (path : Path) : Decidable path.IsPlain :=
  List.decidableBAll (fun name : String => ':' ∉ name.toList) _

theorem IsPlain.toString {path : Path} (plain : path.IsPlain) : ':' ∉ path.toString.toList := by
  by_cases written : path.parts = []
  · rw [Path.toString, if_pos written]
    decide
  · rw [toList_toString written, List.mem_append, not_or]
    refine ⟨by cases path.anchor <;> decide, ?_⟩
    intro member
    rcases Text.mem_intercalate member with same | ⟨piece, written, inside⟩
    · cases same
    · obtain ⟨name, named, rfl⟩ := List.mem_map.mp written
      exact plain name named inside

theorem IsPlain.child {base : Path} {text : String} (plain : base.IsPlain)
    (below : (parse text).IsPlain) : (base.child text).IsPlain := by
  unfold Path.child join
  split
  · exact below
  · exact List.forall_mem_append.mpr ⟨plain, below⟩

theorem IsPlain.parent {path : Path} (plain : path.IsPlain) : path.parent.IsPlain :=
  fun name member => plain name (List.mem_of_mem_take member)

theorem isAbsolute_child {base : Path} (text : String) (h : base.isAbsolute = true) :
    (base.child text).isAbsolute = true := by
  unfold Path.child join
  split
  next absolute => exact absolute
  · exact h

end Path

theorem locations_toString {classpath : Classpath} (some : classpath.entries ≠ [])
    (plain : ∀ entry ∈ classpath.entries, entry.IsPlain) :
    locations classpath.toString = classpath.entries := by
  have whole : ∀ piece ∈ (classpath.entries.map Path.toString).map String.toList, ':' ∉ piece := by
    rw [List.forall_mem_map, List.forall_mem_map]
    exact fun entry member => (plain entry member).toString
  have text : classpath.toString.toList =
      [':'].intercalate ((classpath.entries.map Path.toString).map String.toList) :=
    String.toList_intercalate
  rw [locations, text, Text.splitOn_intercalate (by simpa using some) whole, List.map_map,
    List.map_map]
  simp [Function.comp_def, Path.parse_toString]

/-! ## Working directories -/

namespace Disk

/-- Where a path leads from a working directory. -/
def locateFrom (disk : Disk) (place : Location) (path : Path) : Except Obstacle Location :=
  Disk.locate { disk with cwd := some place } path

theorem walk_from (disk : Disk) (place start : Location) (names : List String) :
    Disk.walk { disk with cwd := some place } start names = disk.walk start names := by
  induction names generalizing start with
  | nil => rfl
  | cons name rest ih =>
    simp only [walk, ih]
    rfl

theorem locateFrom_of_isAbsolute {disk : Disk} {path : Path} (h : path.isAbsolute = true)
    (place : Location) : disk.locateFrom place path = disk.locate path := by
  simp only [locateFrom, locate, origin?, h, if_true, walk_from]

/-- From an empty directory no name leads anywhere, unless it leads up. -/
theorem locateFrom_empty {disk : Disk} {path : Path} {place : Location} {name : String}
    {rest : List String} (relative : path.isAbsolute = false) (names : path.names = name :: rest)
    (down : name ≠ "..") (empty : ∀ name, disk.entry? (place ++ [name]) = none)
    (target : Location) : disk.locateFrom place path ≠ .ok target := by
  intro found
  obtain ⟨start, -, begins, goes⟩ := locate_ok.mp found
  have here : place = start := by simpa [origin?, relative] using begins
  rw [walk_from, names, ← here] at goes
  obtain ⟨-, ⟨up, -⟩ | ⟨-, -, there, -⟩⟩ := walk_cons_ok.mp goes
  · exact down up
  · rw [empty name] at there
    cases there

end Disk

/-! ## Commands -/

namespace Mode

/-- The names that lead from the base directory of a work area to what a test is run from. -/
def namesBelow (qualifiedName : String) : List String :=
  [qualifiedName, "classes", "testrunner", testArchiveName, runnerArchiveName]

/-- What a machine has to find in order to run a test. -/
def needed (mode : Mode) (area : WorkArea) (runner : Runner) (qualifiedName : String) : List Path :=
  mode.installed area qualifiedName :: match mode with
    | jvm _ => runner.classes :: runner.classpath.entries
    | dalvikvm _ => [runnerArchive runner]
    | scripted _ => []

/-- What is needed lies below the base directory, or was asked for. -/
theorem forall_mem_needed {P : Path → Prop} {mode : Mode} {area : WorkArea} {runner : Runner}
    {qualifiedName : String} (classes : runner.classes = area.runnerClasses)
    (child : ∀ {base : Path} {text : String}, P base → text ∈ namesBelow qualifiedName →
      P (base.child text))
    (parent : ∀ {path : Path}, P path → P path.parent)
    (base : P area.base) (asked : ∀ entry ∈ runner.classpath.entries, P entry) :
    ∀ entry ∈ mode.needed area runner qualifiedName, P entry := by
  have runnerClasses : P runner.classes := by
    rw [classes]
    exact child base (by simp [namesBelow])
  have test : P (area.testDirectory qualifiedName) := child base (by simp [namesBelow])
  have testClasses : P (area.classesDirectory qualifiedName) := child test (by simp [namesBelow])
  cases mode with
  | jvm config =>
    rw [needed, List.forall_mem_cons, List.forall_mem_cons]
    exact ⟨testClasses, runnerClasses, asked⟩
  | dalvikvm config =>
    have archive : P (testArchive area qualifiedName) := child test (by simp [namesBelow])
    rw [needed, List.forall_mem_cons, List.forall_mem_singleton]
    exact ⟨archive, child (parent runnerClasses) (by simp [namesBelow])⟩
  | scripted script =>
    rw [needed, List.forall_mem_singleton]
    exact testClasses

theorem needed_isPlain {mode : Mode} {area : WorkArea} {runner : Runner} {qualifiedName : String}
    (classes : runner.classes = area.runnerClasses) (base : area.base.IsPlain)
    (name : (Path.parse qualifiedName).IsPlain)
    (asked : ∀ entry ∈ runner.classpath.entries, entry.IsPlain) :
    ∀ entry ∈ mode.needed area runner qualifiedName, entry.IsPlain := by
  refine forall_mem_needed classes ?_ Path.IsPlain.parent base asked
  intro path text plain below
  apply plain.child
  rcases List.mem_cons.mp below with rfl | known
  · exact name
  · have fixed : ∀ text ∈ (namesBelow "").tail, (Path.parse text).IsPlain := by decide
    exact fixed text known

theorem needed_isAbsolute {mode : Mode} {area : WorkArea} {runner : Runner} {qualifiedName : String}
    (classes : runner.classes = area.runnerClasses) (base : area.base.isAbsolute = true)
    (asked : ∀ entry ∈ runner.classpath.entries, entry.isAbsolute = true) :
    ∀ entry ∈ mode.needed area runner qualifiedName, entry.isAbsolute = true := by
  have parent {path : Path} (rooted : path.isAbsolute = true) : path.parent.isAbsolute = true :=
    rooted
  refine forall_mem_needed classes ?_ parent base asked
  intro path text rooted _
  exact Path.isAbsolute_child text rooted

/-- The command of a machine searches what is needed, nothing else. -/
theorem commands_needed {mode : Mode} (machine : ∀ script, mode ≠ .scripted script)
    {area : WorkArea} {runner : Runner} {test : TestRun} {qualifiedName : String}
    (classpath : test.classpath = some (.of [mode.installed area qualifiedName]))
    (named : test.qualifiedName = qualifiedName)
    (plain : ∀ entry ∈ mode.needed area runner qualifiedName, entry.IsPlain) :
    ∃ command front argument mainClass, mode.commands area runner test = [command] ∧
      command.arguments = front ++ ["-classpath", argument, mainClass] ∧
      command.directory = some (area.userDirectory qualifiedName) ∧
      ∀ entry, entry ∈ locations argument ↔ entry ∈ mode.needed area runner qualifiedName := by
  subst named
  have searched {whole : Classpath}
      (same : ∀ entry, entry ∈ whole.entries ↔ entry ∈ mode.needed area runner test.qualifiedName) :
      ∀ entry, entry ∈ locations whole.toString ↔
        entry ∈ mode.needed area runner test.qualifiedName := by
    have some : whole.entries ≠ [] := by
      have first := (same (mode.installed area test.qualifiedName)).mpr List.mem_cons_self
      exact List.ne_nil_of_mem first
    rw [locations_toString some fun entry member => plain entry ((same entry).mp member)]
    exact same
  cases mode with
  | jvm config =>
    refine ⟨_, _, _, _, rfl, rfl, rfl, searched ?_⟩
    intro entry
    simp [classpath, Classpath.mem_add, needed, or_assoc]
  | dalvikvm config =>
    refine ⟨_, _, _, _, rfl, rfl, rfl, searched ?_⟩
    intro entry
    simp [classpath, Classpath.mem_add, needed]
  | scripted script => exact absurd rfl (machine script)

end Mode

/-! ## Builds -/

namespace Harness

theorem prepare_ok {harness : Harness} {sources classpath : List Path} {runner : Runner}
    {host after : Host} (h : harness.prepare sources classpath host = (.ok runner, after)) :
    runner = .of sources classpath harness.area.runnerClasses := by
  simp only [prepare] at h
  split at h
  · cases h
  · split at h
    · cases h
      rfl
    · cases h

/-- The command of a test that has been built runs in an empty directory. An entry of its classpath
that starts at a root leads from there to where it leads for the harness; one that starts with a name
leads nowhere. So all that the machine needs is found if the work area and the classpath of the
runner start at a root. -/
theorem build_locations {harness : Harness} {sources classpath : List Path} {runner : Runner}
    {test done : TestRun} {first ready host after : Host}
    (machine : ∀ script, harness.mode ≠ .scripted script)
    (prepared : harness.prepare sources classpath first = (.ok runner, ready))
    (tree : host.disk.IsTree)
    (built : harness.build test runner host = (.ok done, after))
    (runnable : done.isRunnable = true)
    (base : harness.area.base.IsPlain) (name : (Path.parse test.qualifiedName).IsPlain)
    (asked : ∀ entry ∈ classpath, entry.IsPlain) :
    ∃ command front argument mainClass place,
      harness.mode.commands harness.area runner done = [command] ∧
      command.arguments = front ++ ["-classpath", argument, mainClass] ∧
      command.directory = some (harness.area.userDirectory test.qualifiedName) ∧
      after.disk.locate (harness.area.userDirectory test.qualifiedName) = .ok place ∧
      (∀ entry, entry ∈ locations argument ↔
        entry ∈ harness.mode.needed harness.area runner test.qualifiedName) ∧
      (∀ entry ∈ locations argument, entry.isAbsolute = true →
        after.disk.locateFrom place entry = after.disk.locate entry) ∧
      (∀ entry ∈ locations argument, entry.isAbsolute = false →
        ∀ name rest, entry.names = name :: rest → name ≠ ".." →
          ∀ target, after.disk.locateFrom place entry ≠ .ok target) ∧
      (harness.area.base.isAbsolute = true → (∀ entry ∈ classpath, entry.isAbsolute = true) →
        ∀ entry ∈ locations argument,
          after.disk.locateFrom place entry = after.disk.locate entry) := by
  have runner := prepare_ok prepared
  subst runner
  obtain ⟨installed, ran, rfl⟩ := build_installed built runnable
  obtain ⟨rfl, place, located, -, empty⟩ := installTest_ok tree ran
  have plain : ∀ entry ∈ (Runner.of sources classpath harness.area.runnerClasses).classpath.entries,
      entry.IsPlain := by
    simpa [Runner.of] using asked
  have known : (test.withClasspath
      (.of [harness.mode.installed harness.area test.qualifiedName])).classpath =
        some (.of [harness.mode.installed harness.area test.qualifiedName]) := rfl
  obtain ⟨command, front, argument, mainClass, commands, arguments, directory, searched⟩ :=
    Mode.commands_needed machine known rfl (Mode.needed_isPlain rfl base name plain)
  have same (entry : Path) (absolute : entry.isAbsolute = true) :=
    after.disk.locateFrom_of_isAbsolute absolute place
  refine ⟨command, front, argument, mainClass, place, commands, arguments, directory, located,
    searched, fun entry _ => same entry, ?_, ?_⟩
  · intro entry _ relative first rest names down target
    exact Disk.locateFrom_empty relative names down empty target
  · intro rooted asked entry member
    have all : ∀ entry ∈ (Runner.of sources classpath
        harness.area.runnerClasses).classpath.entries, entry.isAbsolute = true := by
      simpa [Runner.of] using asked
    exact same entry (Mode.needed_isAbsolute rfl rooted all entry ((searched entry).mp member))

/-- A test, the runner of a session in a work area, and the hosts on which the runner has been
compiled and the test has been built. -/
def sampleTest : TestRun :=
  .fresh "Foo" "Foo" (.parse "/Foo.java") none

def sampleRunner (base : String) : Runner :=
  .of [] [.parse "/lib"] ((Path.parse base).child "testrunner")

def sampleIn (base : String) : Harness :=
  { Suite.sampleHarness with area := ⟨.parse base, false, none⟩ }

def samplePrepared (base : String) : Host :=
  ((sampleIn base).prepare [] [.parse "/lib"] Suite.sampleHost).2

def sampleInstalledOn (base : String) : Host :=
  ((sampleIn base).build sampleTest (sampleRunner base) (samplePrepared base)).2

def sampleBuilt (base : String) : TestRun :=
  sampleTest.withClasspath (.of [(sampleIn base).area.classesDirectory "Foo"])

theorem build_locations_sample :
    ∃ argument place,
      (sampleInstalledOn "/work").disk.locate (.parse "/work/Foo/user.dir") =
        .ok place ∧
      (∀ entry, entry ∈ locations argument ↔ entry ∈ (sampleIn "/work").mode.needed
        (sampleIn "/work").area (sampleRunner "/work") "Foo") ∧
      ∀ entry ∈ locations argument, (sampleInstalledOn "/work").disk.locateFrom place entry =
        (sampleInstalledOn "/work").disk.locate entry := by
  have prepared : (sampleIn "/work").prepare [] [.parse "/lib"] Suite.sampleHost =
      (.ok (sampleRunner "/work"), samplePrepared "/work") :=
    Prod.ext (by decide +kernel) rfl
  have built : (sampleIn "/work").build sampleTest (sampleRunner "/work")
      (samplePrepared "/work") = (.ok (sampleBuilt "/work"), sampleInstalledOn "/work") :=
    Prod.ext (by decide +kernel) rfl
  have tree : (samplePrepared "/work").disk.IsTree := by decide +kernel
  obtain ⟨-, -, argument, -, place, -, -, -, located, searched, -, -, same⟩ :=
    build_locations (fun _ scripted => by cases scripted) prepared tree built (by decide +kernel)
      (by decide +kernel) (by decide +kernel) (by decide +kernel)
  refine ⟨argument, place, located, searched, same (by decide +kernel) (by decide +kernel)⟩

/-- In a work area that starts at the working directory, the classes of the test are there for the
harness and lost for the machine. -/
theorem build_relative_lost :
    ∃ place target,
      ((sampleIn "work").prepare [] [.parse "/lib"] Suite.sampleHost).1 =
        .ok (sampleRunner "work") ∧
      ((sampleIn "work").build sampleTest (sampleRunner "work") (samplePrepared "work")).1 =
        .ok (sampleBuilt "work") ∧
      (sampleBuilt "work").isRunnable = true ∧
      ((sampleIn "work").mode.commands (sampleIn "work").area (sampleRunner "work")
        (sampleBuilt "work")).map (fun command => (command.arguments, command.directory)) =
        [(["java", "-classpath", "work/Foo/classes:work/testrunner:/lib",
          "vmtest.TestRunner"], some (.parse "work/Foo/user.dir"))] ∧
      (sampleInstalledOn "work").disk.locate (.parse "work/Foo/user.dir") =
        .ok place ∧
      (sampleInstalledOn "work").disk.locate (.parse "work/Foo/classes") =
        .ok target ∧
      (sampleInstalledOn "work").disk.locateFrom place
        (.parse "work/Foo/classes") = .error .missing := by
  refine ⟨["work", "Foo", "user.dir"], ["work", "Foo", "classes"], ?_, ?_, ?_, ?_, ?_⟩
  · decide +kernel
  · decide +kernel
  · decide +kernel
  · decide +kernel
  · decide +kernel

end Harness
end TestBench
