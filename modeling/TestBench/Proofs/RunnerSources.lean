import TestBench.Proofs.Building
import TestBench.Proofs.Classpath
import TestBench.Proofs.Launch
import TestBench.Proofs.PathOrder

/-!
Test runners do not depend on how they are listed: neither on the order, the number and the spelling
of their sources, nor on what their classpath names again.

- `Path.Ascends.unique`: there is one ascending list of the same paths,
- `Runner.of_congr`: so there is one test runner,
- `prepare_launches`: the first program that a preparation starts is the compiler,
- `prepare_canonical`: two preparations do the same, and the compiler gets the sources in order.
-/
namespace TestBench
set_option autoImplicit false

/-! ## One test runner -/

theorem Path.Ascends.unique {paths others : List Path} (ascends : Path.Ascends paths)
    (ascends' : Path.Ascends others) (same : ∀ path, path ∈ paths ↔ path ∈ others) :
    paths = others := by
  have perm : paths.Perm others := by
    rw [List.perm_ext_iff_of_nodup (ascends.imp And.right) (ascends'.imp And.right)]
    exact same
  refine perm.eq_of_pairwise ?_ ascends ascends'
  intro a b _ _ before after
  exact Path.le_antisymm before.1 after.1

namespace Runner
variable {sources others classpath other kept : List Path}

theorem ascends_sources (sources classpath : List Path) (classes : Path) :
    Path.Ascends (of sources classpath classes).sources :=
  Path.sort_ascends (nodup_distinct sources)

theorem mem_sources {source : Path} {classes : Path} :
    source ∈ (of sources classpath classes).sources ↔ source ∈ sources := by
  rw [of, Path.mem_sort, mem_distinct]

theorem of_congr (same : ∀ source, source ∈ sources ↔ source ∈ others)
    (firsts : FirstsOf classpath kept) (firsts' : FirstsOf other kept) (classes : Path) :
    of sources classpath classes = of others other classes := by
  have sorted : (of sources classpath classes).sources = (of others other classes).sources := by
    apply (ascends_sources sources classpath classes).unique (ascends_sources others other classes)
    intro source
    rw [mem_sources, mem_sources, same]
  have searched : Classpath.of classpath = Classpath.of other :=
    (Classpath.of_firsts firsts).trans (Classpath.of_firsts firsts').symm
  simp only [of, mk.injEq, and_true]
  exact ⟨sorted, searched⟩

end Runner

/-! ## Preparation -/

namespace Harness
variable {harness : Harness} {host after : Host} {executable encoding : String} {debug : Bool}

/-- Directories are made first, and then the compiler is started. -/
theorem buildRunner_launches {runner : Runner} {result : Except Fault Unit}
    (tool : harness.compiler = .javac executable encoding debug)
    (h : harness.buildRunner runner host = (result, after)) :
    (after.events = host.events ∧ result ≠ .ok ()) ∨
      ∃ rest, after.events = host.events ++ (Command.ofArguments
        (Compiler.arguments executable encoding debug (harness.runnerJob runner)) none).launch ::
          rest := by
  unfold buildRunner at h
  split at h
  · next prepared =>
    cases h
    exact .inl ⟨events_of_leaves (Host.makeDirectories_leaves prepared), by simp⟩
  · next prepared =>
    have first := events_of_leaves (Host.makeDirectories_leaves prepared)
    split at h
    · next made =>
      cases h
      exact .inl ⟨(events_of_leaves (Host.makeDirectories_leaves made)).trans first, by simp⟩
    · next made =>
      have second := (events_of_leaves (Host.makeDirectories_leaves made)).trans first
      right
      rw [tool] at h
      split at h
      · next compiled =>
        cases h
        obtain ⟨rest, launches⟩ := Compiler.complete_launches compiled
        exact ⟨rest, by rw [launches, second]⟩
      · next compiled =>
        obtain ⟨rest, launches⟩ := Compiler.complete_launches compiled
        obtain ⟨more, grows⟩ := (Mode.setUpRunner_ran h).recorded
        exact ⟨rest ++ more, by rw [grows, launches, second]; simp⟩

theorem prepare_launches {sources classpath : List Path} {result : Except Fault Runner}
    (tool : harness.compiler = .javac executable encoding debug)
    (h : harness.prepare sources classpath host = (result, after)) :
    (after.events = host.events ∧ ∃ fault, result = .error fault) ∨
      ∃ rest, after.events = host.events ++ (Command.ofArguments (Compiler.arguments executable
        encoding debug (harness.runnerJob (harness.runnerOf sources classpath))) none).launch ::
          rest := by
  simp only [prepare] at h
  split at h
  · cases h
    exact .inl ⟨rfl, _, rfl⟩
  · split at h
    · next built =>
      cases h
      exact .inr ((buildRunner_launches tool built).resolve_left fun failed => failed.2 rfl)
    · next fault _ built =>
      cases h
      exact (buildRunner_launches tool built).imp_left fun failed => ⟨failed.1, _, rfl⟩

/-- Preparations with the same sources, in whatever order and spelling they are given, and with
classpaths that name the same locations first, come to the same result and leave the same host. The
compiler is the first program to be started, with all sources in path order and each once. -/
theorem prepare_canonical {sources others classpath other : List String} {kept : List Path}
    (same : ∀ source, source ∈ sources.map Path.parse ↔ source ∈ others.map Path.parse)
    (firsts : FirstsOf (classpath.map .parse) kept) (firsts' : FirstsOf (other.map .parse) kept)
    (harness : Harness) (host : Host) :
    harness.prepare (sources.map .parse) (classpath.map .parse) host =
        harness.prepare (others.map .parse) (other.map .parse) host ∧
      ∃ sorted result after, Path.Ascends sorted ∧
        (∀ source, source ∈ sorted ↔ source ∈ sources.map Path.parse) ∧
        harness.prepare (sources.map .parse) (classpath.map .parse) host = (result, after) ∧
        (∀ runner, result = .ok runner →
          runner = ⟨sorted, .of kept, harness.area.runnerClasses⟩) ∧
        ∀ executable encoding debug, harness.compiler = .javac executable encoding debug →
          (after.events = host.events ∧ ∃ fault, result = .error fault) ∨
            ∃ options rest, after.events = host.events ++ .spawn
              (executable :: options ++ ["-d", harness.area.runnerClasses.toString] ++
                sorted.map Path.toString) none none :: rest := by
  have one := Runner.of_congr same firsts firsts' harness.area.runnerClasses
  rcases prepared : harness.prepare (sources.map .parse) (classpath.map .parse) host with
    ⟨result, after⟩
  refine ⟨?_, (harness.runnerOf (sources.map .parse) (classpath.map .parse)).sources, result, after,
    Runner.ascends_sources _ _ _, fun source => Runner.mem_sources, rfl, ?_, ?_⟩
  · rw [← prepared]
    simp only [prepare, one]
  · rintro runner rfl
    rw [(prepare_steps prepared).1, ← Classpath.of_firsts firsts]
    rfl
  · intro executable encoding debug tool
    obtain ⟨options, arguments⟩ := Compiler.arguments_eq executable encoding debug
      (harness.runnerJob (harness.runnerOf (sources.map .parse) (classpath.map .parse)))
    refine (prepare_launches tool prepared).imp_right ?_
    rintro ⟨rest, launches⟩
    rw [arguments] at launches
    exact ⟨options, rest, launches⟩

/-! ## A sample

Two lists of the same two sources and of the same two archives. -/

def sampleListed : List String :=
  ["/runner/b/B.java", "/runner//a/./A.java", "/runner/b/B.java"]

def sampleRelisted : List String :=
  ["/runner/a/A.java", "/runner/b//B.java"]

def sampleArchives : List Path :=
  [.parse "/lib/x.jar", .parse "y"]

theorem prepare_canonical_sample :
    (∀ source, source ∈ sampleListed.map Path.parse ↔ source ∈ sampleRelisted.map Path.parse) ∧
      FirstsOf (["/lib/x.jar", "y", "/lib//x.jar"].map .parse) sampleArchives ∧
      FirstsOf (["/lib/x.jar/", "y"].map .parse) sampleArchives ∧
      Suite.sampleHarness.prepare (sampleListed.map .parse)
          (["/lib/x.jar", "y", "/lib//x.jar"].map .parse) Suite.sampleHost =
        Suite.sampleHarness.prepare (sampleRelisted.map .parse)
          (["/lib/x.jar/", "y"].map .parse) Suite.sampleHost := by
  have there : ∀ source ∈ sampleListed.map Path.parse, source ∈ sampleRelisted.map Path.parse := by
    decide +kernel
  have back : ∀ source ∈ sampleRelisted.map Path.parse, source ∈ sampleListed.map Path.parse := by
    decide +kernel
  have same := fun source => Iff.intro (there source) (back source)
  have firsts : FirstsOf (["/lib/x.jar", "y", "/lib//x.jar"].map .parse) sampleArchives := by
    have kept : distinct (["/lib/x.jar", "y", "/lib//x.jar"].map Path.parse) = sampleArchives := by
      decide +kernel
    exact kept ▸ firstsOf_distinct _
  have firsts' : FirstsOf (["/lib/x.jar/", "y"].map .parse) sampleArchives := by
    have kept : distinct (["/lib/x.jar/", "y"].map Path.parse) = sampleArchives := by
      decide +kernel
    exact kept ▸ firstsOf_distinct _
  exact ⟨same, firsts, firsts',
    (prepare_canonical same firsts firsts' Suite.sampleHarness Suite.sampleHost).1⟩

end Harness
end TestBench
