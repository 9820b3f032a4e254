import TestBench.Proofs.Confined
import TestBench.Proofs.Installation
import TestBench.Proofs.Suite

/-!
Where a harness changes the disk. Programs do not touch it, so it changes only where a work area
makes, writes or removes something, and these are a few paths for each test.

- `Preserves`: what the changes for one test keep,
- `build_preserves` and `runOne_preserves`: so it is kept while a test is built and run,
- `runEach_bare`: the tests stay the same tests,
- `prepare_preserves` and `runAll_preserves`: the same for the test runner and for a whole suite,
- `preserves_tree`, `preserves_confined` and `preserves_of_keeps`: the disk stays a tree, and all
  that changes for a test lies in its directory.
-/
namespace TestBench
set_option autoImplicit false

/-! ## Programs -/

namespace Mode

theorem archive_disk {config : DalvikConfig} {classes output : Path} {host after : Host}
    {result : Except Fault Unit} (h : archive config classes output host = (result, after)) :
    after.disk = host.disk := by
  unfold archive at h
  exact Compiler.complete_disk h

theorem setUpRunner_disk {mode : Mode} {runner : Runner} {host after : Host}
    {result : Except Fault Unit} (h : mode.setUpRunner runner host = (result, after)) :
    after.disk = host.disk := by
  cases mode with
  | jvm config =>
    cases h
    rfl
  | dalvikvm config => exact archive_disk h
  | scripted script =>
    simp only [setUpRunner] at h
    split at h <;> cases h <;> rfl

theorem install_disk {mode : Mode} {area : WorkArea} {qualifiedName : String} {host after : Host}
    {result : Except Fault Classpath}
    (h : mode.install area qualifiedName host = (result, after)) : after.disk = host.disk := by
  cases mode with
  | jvm config =>
    cases h
    rfl
  | dalvikvm config =>
    simp only [install] at h
    split at h <;>
    · next archived =>
      cases h
      exact archive_disk archived
  | scripted script =>
    simp only [install] at h
    split at h <;> cases h <;> rfl

end Mode

theorem Harness.runCommands_disk (settings : Settings) {commands : List Command}
    (fresh : ∀ command ∈ commands, command.IsFresh) (output : List String) (host : Host) :
    (runCommands settings commands output host).2.disk = host.disk := by
  induction commands generalizing output host with
  | nil => rfl
  | cons command rest ih =>
    have new : command.IsFresh := fresh command List.mem_cons_self
    have kept := (Command.stage_keeps new (timeLimit_pos settings) host).1
    rw [runCommands_cons settings rest output host new]
    dsimp only
    split
    · exact kept
    · exact (ih (fun other member => fresh other (List.mem_cons_of_mem _ member)) _ _).trans kept

theorem Harness.run_disk {harness : Harness} {test : TestRun} {runner : Runner}
    {host after : Host} {result : Except Fault TestRun}
    (h : harness.run test runner host = (result, after)) : after.disk = host.disk := by
  have counted : (harness.mode.countBuild host).disk = host.disk := by
    cases harness.mode <;> rfl
  simp only [run] at h
  split at h
  · cases h
    rfl
  · split at h
    · cases h
      rfl
    · obtain ⟨-, rfl⟩ := Prod.mk.inj h
      have fresh := harness.mode.commands_fresh harness.area runner test
      rw [runCommands_disk harness.settings fresh, counted]

/-! ## The directories of a test -/

/-- The file that a test reads its properties from. -/
def WorkArea.propertiesFile (area : WorkArea) (qualifiedName : String) : Path :=
  (area.classesDirectory qualifiedName).child Properties.fileName

/-- What all changes for a test keep. -/
structure WorkArea.Preserves (area : WorkArea) (qualifiedName : String) (P : Disk → Prop) : Prop where
  makeClasses : ∀ {disk : Disk}, P disk →
    P (disk.makeDirectories true (area.classesDirectory qualifiedName)).2
  writeProperties : ∀ {disk written : Disk} {content : List UInt8}, P disk →
    disk.write (area.propertiesFile qualifiedName) content = .ok written → P written
  removeUser : ∀ {disk : Disk}, P disk → P (disk.remove (area.userDirectory qualifiedName))
  makeUser : ∀ {disk : Disk}, P disk →
    P (disk.makeDirectories false (area.userDirectory qualifiedName)).2
  remove : ∀ {disk : Disk}, P disk → P (disk.remove (area.testDirectory qualifiedName))

section Preserves
variable {harness : Harness} {test : TestRun} {runner : Runner} {host after : Host}
  {P : Disk → Prop}

theorem Host.makeDirectories_disk {lenient : Bool} {path : Path} {result : Except Fault Unit}
    (h : host.makeDirectories lenient path = (result, after)) :
    after.disk = (host.disk.makeDirectories lenient path).2 := by
  cases h
  rfl

theorem Host.makeDirectories_stands {lenient : Bool} {path : Path} (named : path.names ≠ [])
    (h : host.makeDirectories lenient path = (.ok (), after)) :
    ∃ place, after.disk.locate path = .ok place ∧ after.disk.isDirectoryAt place = true := by
  obtain ⟨made, rfl⟩ := Prod.mk.inj h
  exact Disk.makeUpTo_stands named (Prod.ext made rfl)

@[simp] theorem Host.remove_disk (host : Host) (path : Path) :
    (host.remove path).disk = host.disk.remove path := rfl

theorem Properties.write_preserves {directory : Path} {entries : List (String × String)}
    {comment : String} {result : Except Fault Path}
    (step : ∀ {disk written : Disk} {content : List UInt8}, P disk →
      disk.write (directory.child fileName) content = .ok written → P written)
    (kept : P host.disk)
    (h : Properties.write directory entries comment host = (result, after)) : P after.disk := by
  simp only [Properties.write] at h
  split at h
  · cases h
    exact kept
  · next emptied begun =>
    have kept := step kept begun
    split at h
    · cases h
      exact kept
    · split at h
      · cases h
        exact kept
      · next written ended =>
        cases h
        exact step kept ended

theorem WorkArea.prepareUserDirectory_preserves {area : WorkArea} {qualifiedName : String}
    {result : Except Fault Unit} (all : area.Preserves qualifiedName P) (kept : P host.disk)
    (h : area.prepareUserDirectory qualifiedName host = (result, after)) : P after.disk := by
  unfold prepareUserDirectory at h
  split at h
  · cases h
    exact kept
  · rw [Host.makeDirectories_disk h, Host.remove_disk]
    exact all.makeUser (all.removeUser kept)

theorem WorkArea.cleanUp_preserves {area : WorkArea} {qualifiedName : String}
    (all : area.Preserves qualifiedName P) (kept : P host.disk) :
    P (area.cleanUp qualifiedName host).disk := by
  unfold cleanUp
  split
  · exact kept
  · rw [Host.remove_disk]
    exact all.remove kept

namespace Harness
variable (all : harness.area.Preserves test.qualifiedName P)
include all

theorem compileTest_preserves {result : Except Fault Classpath} (kept : P host.disk)
    (h : harness.compileTest test runner host = (result, after)) : P after.disk := by
  have directories := all.makeClasses kept
  simp only [compileTest] at h
  split at h
  · next made =>
    cases h
    rw [Host.makeDirectories_disk made]
    exact directories
  · next made =>
    rw [← Host.makeDirectories_disk made] at directories
    split at h
    · next written =>
      cases h
      exact Properties.write_preserves all.writeProperties directories written
    · next written =>
      have file := Properties.write_preserves all.writeProperties directories written
      split at h
      · next compiled =>
        cases h
        rw [Compiler.compile_disk compiled]
        exact file
      · next compiled =>
        rw [Mode.install_disk h, Compiler.compile_disk compiled]
        exact file

theorem installTest_preserves {result : Except Fault Classpath} (kept : P host.disk)
    (h : harness.installTest test runner host = (result, after)) : P after.disk := by
  unfold installTest at h
  split at h
  · next compiled =>
    cases h
    exact compileTest_preserves all kept compiled
  · next compiled =>
    have kept := compileTest_preserves all kept compiled
    split at h <;>
    · next prepared =>
      cases h
      exact WorkArea.prepareUserDirectory_preserves all kept prepared

theorem build_preserves {result : Except Fault TestRun} (kept : P host.disk)
    (h : harness.build test runner host = (result, after)) : P after.disk := by
  simp only [build] at h
  split at h
  · cases h
    exact kept
  · split at h
    · cases h
      exact kept
    · rcases installed : harness.installTest test runner host with ⟨outcome, ready⟩
      rw [installed] at h
      cases h
      exact installTest_preserves all kept installed

end Harness

/-! ## The same test -/

theorem TestRun.setResult_bare {done : TestRun} {outcome : TestResult} {output : List String}
    (h : test.setResult outcome output = .ok done) : done.bare = test.bare := by
  unfold setResult at h
  split at h <;> cases h
  rfl

theorem TestRun.name_of_bare {other : TestRun} (h : other.bare = test.bare) :
    other.qualifiedName = test.qualifiedName :=
  congrArg (·.qualifiedName) h

/-- A test that has been built is the same test. -/
theorem Harness.build_bare {built : TestRun}
    (h : harness.build test runner host = (.ok built, after)) : built.bare = test.bare := by
  simp only [build] at h
  split at h
  · cases h
  · split at h
    · exact TestRun.setResult_bare (Prod.mk.inj h).1
    · obtain ⟨recorded, -⟩ := Prod.mk.inj h
      unfold recordInstall at recorded
      split at recorded
      · cases recorded
        rfl
      · exact TestRun.setResult_bare recorded
      · cases recorded
      · exact TestRun.setResult_bare recorded

theorem Harness.run_bare {done : TestRun}
    (h : harness.run test runner host = (.ok done, after)) : done.bare = test.bare := by
  simp only [run] at h
  split at h
  · cases h
  · split at h
    · cases h
    · exact TestRun.setResult_bare (Prod.mk.inj h).1

namespace Suite
variable {result : Except Fault Unit} {ended : TestRun}

theorem buildAndRun_bare (h : buildAndRun harness runner test host = (result, ended, after)) :
    ended.bare = test.bare := by
  unfold buildAndRun at h
  split at h
  · cases h
    rfl
  · next built =>
    have same := Harness.build_bare built
    split at h
    · split at h
      · cases h
        exact same
      · next ran =>
        cases h
        exact (Harness.run_bare ran).trans same
    · cases h
      exact same

theorem runOne_bare (h : runOne harness runner test host = (result, ended, after)) :
    ended.bare = test.bare := by
  unfold runOne at h
  split at h <;>
  · next ran =>
    cases h
    exact buildAndRun_bare ran

/-- A suite gives back the tests that it was given, each at its place. -/
theorem runEach_bare {places : List Nat} {tests done : List TestRun}
    (h : runEach harness runner places tests host = (result, done, after)) :
    done.map TestRun.bare = tests.map TestRun.bare := by
  induction places generalizing tests host with
  | nil =>
    cases h
    rfl
  | cons place rest ih =>
    unfold runEach at h
    split at h
    · exact ih h
    · next test found =>
      have own {finished : TestRun} {outcome : Except Fault Unit} {ready : Host}
          (ran : runOne harness runner test host = (outcome, finished, ready)) :
          (tests.set place finished).map TestRun.bare = tests.map TestRun.bare :=
        (SameTable.set found (runOne_bare ran)).bare
      split at h
      · next ran =>
        cases h
        exact own ran
      · next ran => exact (ih h).trans (own ran)

/-- The test at a place of a table that a suite gives back. -/
theorem getElem?_of_bare {tests done : List TestRun} {place : Nat} {test : TestRun}
    (same : done.map TestRun.bare = tests.map TestRun.bare) (found : done[place]? = some test) :
    ∃ given, tests[place]? = some given ∧ test.bare = given.bare := by
  have bare : (tests.map TestRun.bare)[place]? = some test.bare := by
    rw [← same, List.getElem?_map, found]
    rfl
  rw [List.getElem?_map, Option.map_eq_some_iff] at bare
  obtain ⟨given, at_place, alike⟩ := bare
  exact ⟨given, at_place, alike.symm⟩

/-! ## One test after the other -/

theorem buildAndRun_preserves (all : harness.area.Preserves test.qualifiedName P)
    (kept : P host.disk) (h : buildAndRun harness runner test host = (result, ended, after)) :
    P after.disk := by
  unfold buildAndRun at h
  split at h
  · next built =>
    cases h
    exact Harness.build_preserves all kept built
  · next built =>
    have kept := Harness.build_preserves all kept built
    split at h
    · split at h <;>
      · next ran =>
        cases h
        rw [Harness.run_disk ran]
        exact kept
    · cases h
      exact kept

/-- One test of a suite changes what its directory allows, however it ends. -/
theorem runOne_preserves (all : harness.area.Preserves test.qualifiedName P)
    (kept : P host.disk) (h : runOne harness runner test host = (result, ended, after)) :
    P after.disk := by
  have cleaned {finished : TestRun} {ready : Host} {outcome : Except Fault Unit}
      (ran : buildAndRun harness runner test host = (outcome, finished, ready)) :
      P (harness.cleanUp finished ready).disk := by
    rw [Harness.cleanUp, TestRun.name_of_bare (buildAndRun_bare ran)]
    exact WorkArea.cleanUp_preserves all (buildAndRun_preserves all kept ran)
  unfold runOne at h
  split at h
  · next ran =>
    cases h
    exact buildAndRun_preserves all kept ran
  · next ran =>
    cases h
    exact cleaned ran
  · next ran =>
    cases h
    exact cleaned ran

/-- What the changes for each test of a table keep, a run of its tests keeps. -/
theorem runEach_preserves {places : List Nat} {tests done : List TestRun}
    (all : ∀ place ∈ places, ∀ test, tests[place]? = some test →
      harness.area.Preserves test.qualifiedName P)
    (kept : P host.disk)
    (h : runEach harness runner places tests host = (result, done, after)) : P after.disk := by
  induction places generalizing tests host with
  | nil =>
    cases h
    exact kept
  | cons place rest ih =>
    unfold runEach at h
    split at h
    · exact ih (fun other member => all other (List.mem_cons_of_mem _ member)) kept h
    · next test found =>
      have own := all place List.mem_cons_self test found
      split at h
      · next ran =>
        cases h
        exact runOne_preserves own kept ran
      · next ended ready ran =>
        refine ih ?_ (runOne_preserves own kept ran) h
        intro other member test' found'
        -- The test at this place has changed, but not its name.
        obtain ⟨given, at_place, alike⟩ := getElem?_of_bare (SameTable.set found (runOne_bare ran)).bare found'
        rw [TestRun.name_of_bare alike]
        exact all other (List.mem_cons_of_mem _ member) given at_place

end Suite
end Preserves

/-! ## The directory of the test runner -/

theorem Harness.buildRunner_preserves {harness : Harness} {runner : Runner} {host after : Host}
    {P : Disk → Prop} {result : Except Fault Unit}
    (classes : runner.classes = harness.area.runnerClasses)
    (step : ∀ {disk : Disk}, P disk →
      P (disk.makeDirectories true harness.area.runnerClasses).2)
    (kept : P host.disk) (h : harness.buildRunner runner host = (result, after)) :
    P after.disk := by
  have first := step kept
  have second := step first
  unfold buildRunner at h
  split at h
  · next prepared =>
    cases h
    rw [Host.makeDirectories_disk prepared]
    exact first
  · next prepared =>
    rw [← Host.makeDirectories_disk prepared, ← classes] at second
    split at h
    · next made =>
      cases h
      rw [Host.makeDirectories_disk made]
      exact second
    · next made =>
      rw [← Host.makeDirectories_disk made] at second
      split at h
      · next compiled =>
        cases h
        rw [Compiler.compile_disk compiled]
        exact second
      · next compiled =>
        rw [Mode.setUpRunner_disk h, Compiler.compile_disk compiled]
        exact second

theorem Harness.prepare_preserves {harness : Harness} {sources classpath : List Path}
    {host after : Host} {P : Disk → Prop} {result : Except Fault Runner}
    (step : ∀ {disk : Disk}, P disk →
      P (disk.makeDirectories true harness.area.runnerClasses).2)
    (kept : P host.disk) (h : harness.prepare sources classpath host = (result, after)) :
    P after.disk := by
  simp only [prepare] at h
  split at h
  · cases h
    exact kept
  · split at h <;>
    · next built =>
      cases h
      exact buildRunner_preserves rfl step kept built

/-- What all changes keep, a suite keeps. -/
theorem Suite.runAll_preserves {harness closed : Harness} {places : List Nat}
    {sources classpath : List Path} {tests ended : List TestRun} {host after : Host}
    {P : Disk → Prop} {result : Except Fault Unit}
    (runnerStep : ∀ {disk : Disk}, P disk →
      P (disk.makeDirectories true harness.area.runnerClasses).2)
    (testStep : ∀ place ∈ places, ∀ test, tests[place]? = some test →
      harness.area.Preserves test.qualifiedName P)
    (lastStep : ∀ {disk : Disk}, P disk → P (disk.remove harness.area.base))
    (kept : P host.disk)
    (h : runAll harness places sources classpath tests host = (result, ended, closed, after)) :
    P after.disk := by
  have middle {outcome : Except Fault Unit} {done : List TestRun} {finished : Host}
      (ran : prepareAndRun harness places sources classpath tests host =
        (outcome, done, finished)) : P finished.disk := by
    unfold prepareAndRun at ran
    split at ran
    · next prepared =>
      cases ran
      exact Harness.prepare_preserves runnerStep kept prepared
    · next prepared =>
      have kept := Harness.prepare_preserves runnerStep kept prepared
      refine runEach_preserves testStep ?_ ran
      exact kept
  have last {finished : Host} (kept : P finished.disk) : P (harness.shutDown finished).2.disk := by
    unfold Harness.shutDown WorkArea.shutDown
    split
    · exact kept
    · split
      · exact kept
      · rw [Host.remove_disk]
        exact lastStep kept
  simp only [runAll] at h
  split at h
  · cases h
    exact kept
  · split at h
    · next ran =>
      cases h
      exact middle ran
    · next ran =>
      split at h <;>
      · cases h
        exact last (middle ran)

/-! ## What is kept -/

namespace WorkArea

theorem preserves_tree (area : WorkArea) (qualifiedName : String) :
    area.Preserves qualifiedName Disk.IsTree where
  makeClasses := fun tree => tree.makeDirectories _ _
  writeProperties := fun tree written => tree.write written
  removeUser := fun tree => tree.remove _
  makeUser := fun tree => tree.makeDirectories _ _
  remove := fun tree => tree.remove _

/-- The place of a test's directory. -/
def testPlace (area : WorkArea) (start : Location) (qualifiedName : String) : Location :=
  Disk.follow start (area.testDirectory qualifiedName).names

/-- All changes lie in the directory of a test, up to directories on the way to it. -/
def Keeps (area : WorkArea) (start : Location) (qualifiedName : String) : Disk → Disk → Prop :=
  Disk.Confined (area.testPlace start qualifiedName)
    (Disk.OnWay start (area.testDirectory qualifiedName).names)

theorem preserves_confined {area : WorkArea} {qualifiedName : String} {start : Location}
    {before : Disk} (starts : before.StartsAt (area.testDirectory qualifiedName) start) :
    area.Preserves qualifiedName (area.Keeps start qualifiedName before) := by
  have begins {disk : Disk} {name : String} (isName : IsName name)
      (kept : area.Keeps start qualifiedName before disk) :
      disk.StartsAt ((area.testDirectory qualifiedName).child name) start :=
    (kept.startsAt starts).congr (Path.anchor_child isName)
  have classes : IsName "classes" ∧ "classes" ≠ ".." := by decide
  have user : IsName "user.dir" ∧ "user.dir" ≠ ".." := by decide
  have file : IsName Properties.fileName ∧ Properties.fileName ≠ ".." := by decide
  have below (name : String) : area.testPlace start qualifiedName <+:
      area.testPlace start qualifiedName ++ [name] := List.prefix_append _ _
  constructor
  · intro disk kept
    exact kept.trans (Disk.makeDirectories_confined (begins classes.1 kept)
      (fun front => Disk.onWay_child classes.1 classes.2 start) true)
  · intro disk written content kept h
    have begins : disk.StartsAt (area.propertiesFile qualifiedName) start :=
      (begins classes.1 kept).congr (Path.anchor_child file.1)
    refine kept.trans (Disk.write_confined begins ?_ h)
    rw [propertiesFile, Disk.follow_child file.1 file.2, classesDirectory,
      Disk.follow_child classes.1 classes.2]
    exact (below _).trans (List.prefix_append _ _)
  · intro disk kept
    refine kept.trans (Disk.remove_confined (begins user.1 kept) ?_)
    rw [userDirectory, Disk.follow_child user.1 user.2]
    exact below _
  · intro disk kept
    exact kept.trans (Disk.makeDirectories_confined (begins user.1 kept)
      (fun front => Disk.onWay_child user.1 user.2 start) false)
  · intro disk kept
    exact kept.trans (Disk.remove_confined (kept.startsAt starts) List.prefix_rfl)

/-- What no change for a test can break is kept while the test is built and run. -/
theorem preserves_of_keeps {area : WorkArea} {qualifiedName : String} (start : Location)
    {P : Disk → Prop}
    (starts : ∀ {disk : Disk}, P disk → disk.StartsAt (area.testDirectory qualifiedName) start)
    (step : ∀ {disk changed : Disk}, P disk → area.Keeps start qualifiedName disk changed →
      P changed) : area.Preserves qualifiedName P := by
  have steps {disk : Disk} (kept : P disk) :
      area.Preserves qualifiedName (area.Keeps start qualifiedName disk) :=
    preserves_confined (starts kept)
  constructor
  · intro disk kept
    exact step kept ((steps kept).makeClasses (.refl _ _ disk))
  · intro disk written content kept h
    exact step kept ((steps kept).writeProperties (.refl _ _ disk) h)
  · intro disk kept
    exact step kept ((steps kept).removeUser (.refl _ _ disk))
  · intro disk kept
    exact step kept ((steps kept).makeUser (.refl _ _ disk))
  · intro disk kept
    exact step kept ((steps kept).remove (.refl _ _ disk))

end WorkArea
end TestBench
