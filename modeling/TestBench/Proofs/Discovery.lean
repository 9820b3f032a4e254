import Mathlib.Data.List.TakeWhile
import TestBench.Discovery
import TestBench.Proofs.Path

/-!
The names of tests that were found. A test is named after the file that it stands in, and after the
package that the file declares, so its name is one component of a path. It may still be a component
that means another directory than one of its own: only a file without a package whose stem is a
single dot, two dots or the name of another directory gives such a name.

- `declared?_some`: what a declared package is made of,
- `qualify_apart`: a name with a package stands apart,
- `findTests_found`: every test that is found is named after a source.
-/
namespace TestBench
set_option autoImplicit false

/-! ## Sources -/

namespace Path

theorem name_single (path : Path) : '/' ∉ path.name.toList := by
  unfold name
  cases last : path.names.getLast? with
  | none => simp
  | some name => exact (path.isName name (List.mem_of_getLast? last)).2.2

theorem mem_stem {path : Path} {c : Char} (h : c ∈ path.stem.toList) : c ∈ path.name.toList := by
  unfold stem at h
  split at h
  · exact h
  · rw [String.toList_ofList] at h
    exact List.mem_of_mem_take h

/-- A file with an extension has a stem. -/
theorem stem_ne_empty {path : Path} (h : path.extension ≠ "") : path.stem ≠ "" := by
  unfold extension at h
  unfold stem
  cases found : extensionAt? path.name.toList with
  | none =>
    rw [found] at h
    exact absurd rfl h
  | some position =>
    have inside : 0 < position ∧ position < path.name.toList.length := by
      simp only [extensionAt?] at found
      split at found
      · cases found
        omega
      · cases found
    dsimp only
    intro empty
    have length := congrArg (fun text => text.toList.length) empty
    simp only [String.toList_ofList, List.length_take, String.toList_empty, List.length_nil] at length
    omega

end Path

/-! ## Packages -/

namespace Package

theorem declaredHere?_some {text : List Char} {name : String}
    (h : declaredHere? text = some name) :
    name ≠ "" ∧ ∀ c ∈ name.toList, isNameChar c = true := by
  simp only [declaredHere?, Option.bind_eq_bind, Option.bind_eq_some_iff] at h
  obtain ⟨rest, -, h⟩ := h
  split at h
  · cases h
  · next named =>
    rw [not_or] at named
    split at h
    · cases h
      refine ⟨?_, fun c member => ?_⟩
      · intro empty
        rw [String.ofList_eq_empty_iff] at empty
        simp [empty] at named
      · rw [String.toList_ofList] at member
        exact List.mem_takeWhile_imp member
    · cases h

theorem declaredFrom?_some {fresh : Bool} {text : List Char} {name : String}
    (h : declaredFrom? fresh text = some name) :
    name ≠ "" ∧ ∀ c ∈ name.toList, isNameChar c = true := by
  have here {fresh : Bool} {text : List Char} {name : String}
      (h : (if fresh then declaredHere? text else none) = some name) :
      name ≠ "" ∧ ∀ c ∈ name.toList, isNameChar c = true := by
    split at h
    · exact declaredHere?_some h
    · cases h
  induction text generalizing fresh with
  | nil => exact here h
  | cons c rest ih =>
    unfold declaredFrom? at h
    split at h
    · next found =>
      cases h
      exact here found
    · exact ih h

/-- A package has a name, and no separator of paths in it. -/
theorem declared?_some {text : List Char} {name : String} (h : declared? text = some name) :
    name ≠ "" ∧ '/' ∉ name.toList := by
  obtain ⟨filled, all⟩ := declaredFrom?_some h
  refine ⟨filled, fun member => ?_⟩
  have separator : isNameChar '/' = false := by decide +kernel
  rw [all '/' member] at separator
  cases separator

end Package

/-! ## Names -/

/-- A name that leads from the base directory of a work area to a directory of its own, which is not
that of the test runner. -/
def StandsApart (name : String) : Prop :=
  IsName name ∧ name ≠ ".." ∧ name ≠ "testrunner"

instance (name : String) : Decidable (StandsApart name) :=
  inferInstanceAs (Decidable (_ ∧ _ ∧ _))

namespace Discovery

theorem qualify_apart {package stem : String} (package_filled : package ≠ "") (filled : stem ≠ "")
    (package_single : '/' ∉ package.toList) (single : '/' ∉ stem.toList) :
    StandsApart (qualify (some package) stem) := by
  have text : (qualify (some package) stem).toList = package.toList ++ '.' :: stem.toList := by
    simp [qualify]
  have long : 3 ≤ (qualify (some package) stem).toList.length := by
    have front := List.length_pos_iff.mpr (mt String.toList_eq_nil_iff.mp package_filled)
    have back := List.length_pos_iff.mpr (mt String.toList_eq_nil_iff.mp filled)
    rw [text, List.length_append, List.length_cons]
    omega
  have dotted : '.' ∈ (qualify (some package) stem).toList := by simp [text]
  refine ⟨⟨?_, ?_, ?_⟩, ?_, ?_⟩
  · intro same
    simp [same] at long
  · intro same
    simp [same] at long
  · rw [text, List.mem_append, List.mem_cons, not_or, not_or]
    exact ⟨package_single, by decide, single⟩
  · intro same
    simp [same] at long
  · intro same
    rw [same] at dotted
    revert dotted
    decide

theorem readPackage_some {source : Path} {host after : Host} {package : String}
    (h : readPackage source host = (.ok (some package), after)) :
    source.extension = extension ∧ package ≠ "" ∧ '/' ∉ package.toList := by
  unfold readPackage at h
  split at h
  · cases h
  · next same =>
    split at h
    · exact ⟨Decidable.not_not.mp same, Package.declared?_some (Except.ok.inj (Prod.mk.inj h).1)⟩
    · cases h
    · cases h

theorem readPackage_disk (source : Path) (host : Host) :
    (readPackage source host).2.disk = host.disk := by
  unfold readPackage
  split
  · rfl
  · split <;> rfl

/-- A test as it is found in a source: its name is one component, and it is the stem of the source
unless it stands apart. -/
structure FoundIn (disk : Disk) (origin : Path) (test : TestRun) : Prop where
  source : test.source = (Path.ofNames .root (disk.cwd.getD [])).join origin
  unset : test.result = none
  single : '/' ∉ test.qualifiedName.toList
  name : test.qualifiedName = origin.stem ∨ StandsApart test.qualifiedName

theorem describe_found {source : Path} {host after : Host} {test : TestRun}
    (h : describe source host = (.ok test, after)) :
    after.disk = host.disk ∧ FoundIn host.disk source test := by
  have single : '/' ∉ source.stem.toList := fun member => source.name_single (Path.mem_stem member)
  have kept := readPackage_disk source host
  unfold describe at h
  split at h
  · cases h
  · next package ready read =>
    rw [read] at kept
    have kept : ready.disk = host.disk := kept
    split at h
    · cases h
    · cases h
      refine ⟨kept, ?_, rfl, ?_, ?_⟩
      · rw [← kept]
        rfl
      · cases package with
        | none => exact single
        | some name =>
          obtain ⟨ending, filled, whole⟩ := readPackage_some read
          have stem : source.stem ≠ "" := Path.stem_ne_empty (by rw [ending]; decide)
          exact (qualify_apart filled stem whole single).1.2.2
      · cases package with
        | none => exact .inl rfl
        | some name =>
          obtain ⟨ending, filled, whole⟩ := readPackage_some read
          have stem : source.stem ≠ "" := Path.stem_ne_empty (by rw [ending]; decide)
          exact .inr (qualify_apart filled stem whole single)

theorem describeAll_found {sources : List Path} {host after : Host} {tests : List TestRun}
    (h : describeAll sources host = (.ok tests, after)) :
    after.disk = host.disk ∧ ∀ test ∈ tests, ∃ source, FoundIn host.disk source test := by
  induction sources generalizing host after tests with
  | nil =>
    cases h
    exact ⟨rfl, by simp⟩
  | cons source rest ih =>
    unfold describeAll at h
    split at h
    · cases h
    · next first =>
      obtain ⟨kept, found⟩ := describe_found first
      split at h
      · cases h
      · next others =>
        cases h
        obtain ⟨kept', founds⟩ := ih others
        rw [kept] at founds
        exact ⟨kept'.trans kept, List.forall_mem_cons.mpr ⟨⟨source, found⟩, founds⟩⟩

/-- Finding tests leaves the disk alone, and each test is named after a source. -/
theorem findTests_found {paths : List Path} {host after : Host} {tests : List TestRun}
    (h : findTests paths host = (.ok tests, after)) :
    after.disk = host.disk ∧ ∀ test ∈ tests, ∃ source, FoundIn host.disk source test := by
  induction paths generalizing host after tests with
  | nil =>
    cases h
    exact ⟨rfl, by simp⟩
  | cons path rest ih =>
    unfold findTests at h
    split at h
    · cases h
    · split at h
      · cases h
      · next first =>
        obtain ⟨kept, founds⟩ := describeAll_found first
        split at h
        · cases h
        · next others =>
          cases h
          obtain ⟨kept', more⟩ := ih others
          rw [kept] at more
          exact ⟨kept'.trans kept, List.forall_mem_append.mpr ⟨founds, more⟩⟩

/-! ## Samples -/

/-- What is found at paths that lead nowhere: a test for each, named by the stem of the path. -/
def sampleFound (paths : List String) (host : Host) : List TestRun × Host :=
  (paths.map fun path =>
      .fresh (Path.parse path).stem (Path.parse path).stem (Path.parse path) none,
    (findTests (paths.map Path.parse) host).2)

end Discovery
end TestBench
