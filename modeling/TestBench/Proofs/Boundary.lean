import TestBench.Proofs.Discovery
import TestBench.Proofs.Footprint
import TestBench.Proofs.Suite

/-!
How far a suite reaches. Every change that it makes to a disk lies at the base directory of its work
area or below it, apart from missing directories on the way there. The one exception is a test that
is named by two dots, whose directory is the one above.

- `testDirectory_single`: the directory of a test whose name is one component,
- `preserves_bound`: a bound for the directories of tests bounds all that is done for them,
- `runAll_boundary`: tests that were found, run as a suite.
-/
namespace TestBench
set_option autoImplicit false

/-! ## Directories of tests -/

namespace WorkArea

theorem testDirectory_single (area : WorkArea) {name : String} (single : '/' ∉ name.toList) :
    (area.testDirectory name).anchor = area.base.anchor ∧
      (IsName name ∧ (area.testDirectory name).names = area.base.names ++ [name] ∨
        ¬IsName name ∧ (area.testDirectory name).names = area.base.names) := by
  by_cases isName : IsName name
  · exact ⟨Path.anchor_child isName, .inl ⟨isName, Path.names_child isName⟩⟩
  · have parsed : (Path.parse name).anchor = .relative ∧ (Path.parse name).names = [] := by
      refine ⟨Path.anchorOf_of_not_mem single, ?_⟩
      rw [Path.parse, Text.splitOn_of_not_mem single, List.map_singleton, String.ofList_toList]
      simp [Path.ofNames, isName]
    refine ⟨?_, .inr ⟨isName, ?_⟩⟩ <;>
      simp [testDirectory, Path.child, Path.join, Path.isAbsolute, parsed]

/-- The place of the base directory. -/
def basePlace (area : WorkArea) (start : Location) : Location :=
  Disk.follow start area.base.names

/-- A test has its directory at the base directory or below it, unless its name is two dots. -/
theorem testPlace_within_base {area : WorkArea} {name : String} (single : '/' ∉ name.toList)
    (down : name ≠ "..") (start : Location) :
    area.basePlace start <+: area.testPlace start name := by
  rcases (area.testDirectory_single single).2 with ⟨-, names⟩ | ⟨-, names⟩
  · rw [testPlace, names, Disk.follow_append, Disk.follow_down down]
    exact List.prefix_append _ _
  · rw [testPlace, names]
    exact List.prefix_rfl

theorem testPlace_within_above {area : WorkArea} {name : String} (single : '/' ∉ name.toList)
    (start : Location) : (area.basePlace start).dropLast <+: area.testPlace start name := by
  by_cases up : name = ".."
  · subst up
    have isName : IsName ".." := by decide
    rw [testPlace, testDirectory, Path.names_child isName, Disk.follow_append, Disk.follow_up]
    exact List.prefix_rfl
  · exact (List.dropLast_prefix _).trans (testPlace_within_base single up start)

section Bound
variable {area : WorkArea} {start bound : Location} {name : String}

/-- The way to the base directory. -/
def Approach (area : WorkArea) (start : Location) : Location → Prop :=
  Disk.OnWay start area.base.names

theorem Keeps.within {before after : Disk} (h : area.Keeps start name before after)
    (single : '/' ∉ name.toList) (above : bound <+: area.testPlace start name) :
    Disk.Confined bound (area.Approach start) before after := by
  refine h.mono above ?_
  rintro location ⟨front, short, rfl⟩
  rcases (area.testDirectory_single single).2 with ⟨-, names⟩ | ⟨-, names⟩
  · rw [names, List.prefix_concat_iff] at short
    rcases short with whole | short
    · left
      rw [whole, ← names]
      exact above
    · exact .inr ⟨front, short, rfl⟩
  · rw [names] at short
    exact .inr ⟨front, short, rfl⟩

/-- What bounds the directory of a test bounds all that is done for the test. -/
theorem preserves_bound {before : Disk} (starts : before.StartsAt area.base start)
    (single : '/' ∉ name.toList) (above : bound <+: area.testPlace start name) :
    area.Preserves name (Disk.Confined bound (area.Approach start) before) := by
  refine preserves_of_keeps start ?_ ?_
  · intro disk kept
    exact (kept.startsAt starts).congr (area.testDirectory_single single).1
  · intro disk changed kept h
    exact kept.trans (h.within single above)

/-- The directory of the test runner lies below the base directory. -/
theorem runnerClasses_bound {before disk : Disk} (starts : before.StartsAt area.base start)
    (above : bound <+: area.basePlace start)
    (kept : Disk.Confined bound (area.Approach start) before disk) :
    Disk.Confined bound (area.Approach start) before
      (disk.makeDirectories true area.runnerClasses).2 := by
  have isName : IsName "testrunner" ∧ "testrunner" ≠ ".." := by decide
  have begins : disk.StartsAt area.runnerClasses start :=
    (kept.startsAt starts).congr (Path.anchor_child isName.1)
  refine kept.trans (Disk.makeDirectories_confined begins (fun front short => ?_) true)
  rcases Disk.onWay_child isName.1 isName.2 start short with inside | way
  · exact .inl (above.trans inside)
  · exact .inr way

end Bound
end WorkArea

/-! ## Suites -/

namespace Suite

/-- A place that bounds the base directory and the directories of all tests bounds a suite. -/
theorem runAll_bound {harness closed : Harness} {places : List Nat} {sources classpath : List Path}
    {tests ended : List TestRun} {host after : Host} {result : Except Fault Unit}
    {start bound : Location} (starts : host.disk.StartsAt harness.area.base start)
    (base : bound <+: harness.area.basePlace start)
    (single : ∀ test ∈ tests, '/' ∉ test.qualifiedName.toList)
    (above : ∀ test ∈ tests, bound <+: harness.area.testPlace start test.qualifiedName)
    (ran : runAll harness places sources classpath tests host = (result, ended, closed, after)) :
    Disk.Confined bound (harness.area.Approach start) host.disk after.disk := by
  refine runAll_preserves (P := Disk.Confined bound (harness.area.Approach start) host.disk)
    (fun kept => WorkArea.runnerClasses_bound starts base kept) ?_ ?_ (.refl _ _ _) ran
  · intro place _ test found
    have member := List.mem_of_getElem? found
    exact WorkArea.preserves_bound starts (single test member) (above test member)
  · intro disk kept
    exact kept.trans (Disk.remove_confined (kept.startsAt starts) base)

/-- Tests that were found and are run as a suite leave everything outside of the base directory as
it was, up to missing directories on the way to it, unless one of them is named by two dots. Such a
test stands in a file whose stem is two dots. In any case all that changes lies in the directory
above the base directory. -/
theorem runAll_boundary {harness closed : Harness} {paths : List Path} {places : List Nat}
    {sources classpath : List Path} {tests ended : List TestRun} {first host after : Host}
    {result : Except Fault Unit} (found : Discovery.findTests paths first = (.ok tests, host))
    (ran : runAll harness places sources classpath tests host = (result, ended, closed, after)) :
    let start := (first.disk.origin? harness.area.base).getD []
    let base := harness.area.basePlace start
    let way := harness.area.Approach start
    (∀ test ∈ tests, test.qualifiedName = ".." →
      ∃ source : Path, source.stem = ".." ∧ test.source = Discovery.absolute first source) ∧
    ((∀ test ∈ tests, test.qualifiedName ≠ "..") →
      Disk.Confined base way first.disk after.disk) ∧
    Disk.Confined base.dropLast way first.disk after.disk := by
  intro start base way
  obtain ⟨kept, founds⟩ := Discovery.findTests_found found
  have starts : host.disk.StartsAt harness.area.base start := by
    rw [kept]
    exact first.disk.startsAt_getD harness.area.base
  have single : ∀ test ∈ tests, '/' ∉ test.qualifiedName.toList := by
    intro test member
    obtain ⟨source, found⟩ := founds test member
    exact found.single
  rw [← kept]
  refine ⟨?_, ?_, ?_⟩
  · intro test member dots
    obtain ⟨source, found⟩ := founds test member
    refine ⟨source, ?_, found.source⟩
    rcases found.name with stem | apart
    · rw [← stem, dots]
    · exact absurd dots apart.2.1
  · intro down
    exact runAll_bound starts List.prefix_rfl single
      (fun test member =>
        WorkArea.testPlace_within_base (single test member) (down test member) start)
      ran
  · exact runAll_bound starts (List.dropLast_prefix _) single
      (fun test member => WorkArea.testPlace_within_above (single test member) start) ran

/-! ## Samples -/

/-- A work area beside a file. -/
def sampleShelf : Host :=
  { sampleHost with
    disk := ⟨[(["area"], .directory), (["area", "notes"], .file [])], some []⟩ }

def sampleShelfHarness : Harness :=
  { sampleHarness with area := ⟨.parse "/area/work", false, none⟩ }

theorem runAll_boundary_sample :
    Disk.Confined ["area", "work"] (sampleShelfHarness.area.Approach []) sampleShelf.disk
      (runAll sampleShelfHarness [0] [] [] (Discovery.sampleFound ["/area/Foo.java"] sampleShelf).1
        (Discovery.sampleFound ["/area/Foo.java"] sampleShelf).2).2.2.2.disk := by
  have found : Discovery.findTests [.parse "/area/Foo.java"] sampleShelf =
      (.ok (Discovery.sampleFound ["/area/Foo.java"] sampleShelf).1,
        (Discovery.sampleFound ["/area/Foo.java"] sampleShelf).2) :=
    Prod.ext (by decide +kernel) rfl
  have start : (sampleShelf.disk.origin? sampleShelfHarness.area.base).getD [] = [] := by
    decide +kernel
  have base : sampleShelfHarness.area.basePlace [] = ["area", "work"] := by decide +kernel
  rcases ran : runAll sampleShelfHarness [0] [] []
    (Discovery.sampleFound ["/area/Foo.java"] sampleShelf).1
    (Discovery.sampleFound ["/area/Foo.java"] sampleShelf).2 with ⟨result, ended, closed, after⟩
  have bounded := (runAll_boundary found ran).2.1 (by decide +kernel)
  rw [start, base] at bounded
  exact bounded

/-- A path that ends in two dots and leads nowhere stands for a test, and when that test is cleaned
up, the file beside the work area is lost. -/
theorem runAll_above_lost :
    let (tests, host) := Discovery.sampleFound ["/area/missing/.."] sampleShelf
    let (result, _, _, after) := runAll sampleShelfHarness [0] [] [] tests host
    (Discovery.findTests [.parse "/area/missing/.."] sampleShelf).1 = .ok tests ∧
      ¬["area", "work"] <+: ["area", "notes"] ∧
      sampleShelf.disk.entry? ["area", "notes"] = some (.file []) ∧
      result = .ok () ∧ after.disk.entry? ["area", "notes"] = none := by
  refine ⟨?_, ?_, ?_, ?_, ?_⟩
  · decide +kernel
  · decide
  · decide
  · decide +kernel
  · decide +kernel

end Suite
end TestBench
