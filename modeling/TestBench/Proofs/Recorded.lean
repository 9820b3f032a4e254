import TestBench.Proofs.Bench
import TestBench.Proofs.Footprint

/-!
What stays of the tests of a bench, whatever is called. A test remains the test that it is, what it
has recorded about its end stays, and a call changes no test but those that it is about.

- `TestRun.Keeps`: what an operation leaves of one test, with a lemma for each operation,
- `Retains`: what an operation leaves of a table of tests, and where it may have changed it,
- `performAll_keeps_results`: any sequence of calls.
-/
namespace TestBench
set_option autoImplicit false

/-! ## One test -/

namespace TestRun
variable {test done : TestRun}

/-- What makes a test the test that it is. -/
def identity (test : TestRun) : String × String × Path × Path :=
  (test.qualifiedName, test.testClass, test.source, test.directory)

/-- The same test, with all that it had recorded about its end. -/
structure Keeps (test done : TestRun) : Prop where
  bare : done.bare = test.bare
  recorded : test.result.isSome → done.result = test.result ∧ done.output = test.output

theorem Keeps.refl (test : TestRun) : test.Keeps test :=
  ⟨rfl, fun _ => ⟨rfl, rfl⟩⟩

theorem Keeps.trans {middle : TestRun} (h : test.Keeps middle) (h' : middle.Keeps done) :
    test.Keeps done where
  bare := h'.bare.trans h.bare
  recorded := by
    intro settled
    obtain ⟨result, output⟩ := h.recorded settled
    obtain ⟨result', output'⟩ := h'.recorded (by rw [result]; exact settled)
    exact ⟨result'.trans result, output'.trans output⟩

/-- Only a test without a result gets one. -/
theorem setResult_keeps {result : TestResult} {output : List String}
    (h : test.setResult result output = .ok done) : test.Keeps done := by
  refine ⟨setResult_bare h, fun settled => ?_⟩
  obtain ⟨earlier, had⟩ := Option.isSome_iff_exists.mp settled
  simp only [setResult, had] at h
  cases h

end TestRun

namespace Harness
variable {harness : Harness} {runner : Runner} {test done : TestRun} {host after : Host}

theorem recordInstall_keeps {installed : Except Fault Classpath}
    (h : recordInstall test installed = .ok done) : test.Keeps done := by
  cases installed with
  | ok classpath =>
    cases h
    exact ⟨rfl, fun _ => ⟨rfl, rfl⟩⟩
  | error fault =>
    cases fault with
    | endless => cases h
    | _ => exact TestRun.setResult_keeps h

theorem build_keeps (h : harness.build test runner host = (.ok done, after)) :
    test.Keeps done := by
  simp only [build] at h
  split at h
  · cases h
  · split at h
    · exact TestRun.setResult_keeps (Prod.mk.inj h).1
    · exact recordInstall_keeps (Prod.mk.inj h).1

theorem run_keeps (h : harness.run test runner host = (.ok done, after)) : test.Keeps done := by
  simp only [run] at h
  split at h
  · cases h
  · split at h
    · cases h
    · exact TestRun.setResult_keeps (Prod.mk.inj h).1

end Harness

namespace Suite
variable {harness : Harness} {runner : Runner} {test ended : TestRun} {host after : Host}
  {result : Except Fault Unit}

theorem buildAndRun_keeps (h : buildAndRun harness runner test host = (result, ended, after)) :
    test.Keeps ended := by
  unfold buildAndRun at h
  split at h
  · cases h
    exact .refl test
  · next built =>
    have kept := Harness.build_keeps built
    split at h
    · split at h
      · cases h
        exact kept
      · next ran =>
        cases h
        exact kept.trans (Harness.run_keeps ran)
    · cases h
      exact kept

theorem runOne_keeps (h : runOne harness runner test host = (result, ended, after)) :
    test.Keeps ended := by
  unfold runOne at h
  split at h <;>
  · next ran =>
    cases h
    exact buildAndRun_keeps ran

/-! ## A table of tests -/

/-- A table after something was done to the tests at some of its places: the same tests, and each
with all that it had recorded. -/
structure Retains (places : List Nat) (tests done : List TestRun) : Prop extends
    SameTable places tests done where
  recorded : ∀ (place : Nat) (test : TestRun), tests[place]? = some test →
    test.result.isSome → ∃ later : TestRun, done[place]? = some later ∧
      later.result = test.result ∧ later.output = test.output

namespace Retains
variable {places more : List Nat} {tests middle done : List TestRun}

theorem refl (places : List Nat) (tests : List TestRun) : Retains places tests tests where
  bare := rfl
  others := fun _ _ => rfl
  recorded := fun _ test found _ => ⟨test, found, rfl, rfl⟩

theorem trans (h : Retains places tests middle) (h' : Retains more middle done) :
    Retains (places ++ more) tests done where
  toSameTable := h.toSameTable.trans h'.toSameTable
  recorded := by
    intro place test found settled
    obtain ⟨next, at_place, result, output⟩ := h.recorded place test found settled
    obtain ⟨last, in_the_end, result', output'⟩ :=
      h'.recorded place next at_place (by rw [result]; exact settled)
    exact ⟨last, in_the_end, result'.trans result, output'.trans output⟩

theorem widen (h : Retains places tests done) (wider : ∀ place ∈ places, place ∈ more) :
    Retains more tests done where
  bare := h.bare
  others := fun place absent => h.others place fun member => absent (wider place member)
  recorded := h.recorded

theorem set {place : Nat} {test finished : TestRun} (found : tests[place]? = some test)
    (kept : test.Keeps finished) : Retains [place] tests (tests.set place finished) where
  toSameTable := .set found kept.bare
  recorded := by
    intro other given at_other settled
    by_cases same : place = other
    · subst same
      rw [found] at at_other
      obtain rfl := Option.some.inj at_other
      obtain ⟨inside, -⟩ := List.getElem?_eq_some_iff.mp found
      exact ⟨finished, List.getElem?_set_self inside, kept.recorded settled⟩
    · exact ⟨given, (List.getElem?_set_ne same).trans at_other, rfl, rfl⟩

end Retains

theorem runEach_retains {places : List Nat} {tests done : List TestRun}
    (h : runEach harness runner places tests host = (result, done, after)) :
    Retains places tests done := by
  induction places generalizing tests host with
  | nil =>
    cases h
    exact .refl _ _
  | cons place rest ih =>
    unfold runEach at h
    split at h
    · exact (ih h).widen fun other member => List.mem_cons_of_mem _ member
    · next test found =>
      split at h
      · next ran =>
        cases h
        exact (Retains.set found (runOne_keeps ran)).widen (by simp)
      · next ran => exact (Retains.set found (runOne_keeps ran)).trans (ih h)

theorem prepareAndRun_retains {places : List Nat} {sources classpath : List Path}
    {tests done : List TestRun}
    (h : prepareAndRun harness places sources classpath tests host = (result, done, after)) :
    Retains places tests done := by
  unfold prepareAndRun at h
  split at h
  · cases h
    exact .refl _ _
  · exact runEach_retains h

theorem runAll_retains {places : List Nat} {sources classpath : List Path}
    {tests done : List TestRun} {closed : Harness}
    (h : runAll harness places sources classpath tests host = (result, done, closed, after)) :
    Retains places tests done := by
  simp only [runAll] at h
  split at h
  · cases h
    exact .refl _ _
  · split at h
    · next ran =>
      cases h
      exact prepareAndRun_retains ran
    · next ran =>
      split at h <;>
      · cases h
        exact prepareAndRun_retains ran

end Suite

/-! ## Calls -/

/-- The places of the tests that a call may change. -/
def Call.places : Call → List Nat
  | .build place _ => [place]
  | .run place _ => [place]
  | .suite places _ _ => places
  | .prepare _ _ => []
  | .cleanUp _ => []
  | .shutDown => []

namespace Bench
open Suite (Retains)
variable {bench after : Bench} {result : Except Fault Unit}

theorem settle_retains {place : Nat} {test : TestRun} {outcome : Except Fault TestRun × Host}
    (found : bench.tests[place]? = some test)
    (keeps : ∀ done, outcome.1 = .ok done → test.Keeps done)
    (h : bench.settle place outcome = (result, after)) :
    Retains [place] bench.tests after.tests := by
  obtain ⟨fault | done, ended⟩ := outcome
  · cases h
    exact .refl _ _
  · cases h
    exact .set found (keeps done rfl)

theorem perform_retains {call : Call} (h : bench.perform call = (result, after)) :
    Retains call.places bench.tests after.tests := by
  cases call with
  | prepare sources classpath =>
    cases h
    exact .refl _ _
  | build place runner =>
    simp only [perform] at h
    split at h
    · cases h
      exact .refl _ _
    · next found => exact settle_retains found (fun _ ok => Harness.build_keeps (Prod.ext ok rfl)) h
  | run place runner =>
    simp only [perform] at h
    split at h
    · cases h
      exact .refl _ _
    · next found => exact settle_retains found (fun _ ok => Harness.run_keeps (Prod.ext ok rfl)) h
  | cleanUp place =>
    simp only [perform] at h
    split at h <;>
    · cases h
      exact .refl _ _
  | shutDown =>
    cases h
    exact .refl _ _
  | suite places sources classpath =>
    cases h
    exact Suite.runAll_retains rfl

theorem performAll_retains (bench : Bench) (calls : List Call) :
    Retains (calls.flatMap Call.places) bench.tests (bench.performAll calls).2.tests := by
  induction calls generalizing bench with
  | nil => exact .refl _ _
  | cons call rest ih =>
    rw [List.flatMap_cons]
    unfold performAll
    split
    · next performed =>
      exact (perform_retains performed).widen fun place member => List.mem_append_left _ member
    · next performed => exact (perform_retains performed).trans (ih _)

/-- More calls are made unless one of those before them never returns. -/
theorem performAll_append (bench : Bench) (earlier later : List Call) :
    bench.performAll (earlier ++ later) = match bench.performAll earlier with
      | (.error .endless, stuck) => (.error .endless, stuck)
      | (_, after) => after.performAll later := by
  induction earlier generalizing bench with
  | nil => rfl
  | cons call rest ih =>
    rw [List.cons_append, performAll, performAll]
    split
    · rfl
    · exact ih _

theorem performAll_append_retains (bench : Bench) (earlier later : List Call) :
    Retains (later.flatMap Call.places) (bench.performAll earlier).2.tests
      (bench.performAll (earlier ++ later)).2.tests := by
  rw [performAll_append]
  split
  · next stuck =>
    rw [stuck]
    exact .refl _ _
  · next returned =>
    rw [returned]
    exact performAll_retains _ _

/-- Whatever is called and however the calls end, the tests of a table remain what they are. Once
one of them has a result, its result and its output stay for good, and a test that no call is about
does not change at all. -/
theorem performAll_keeps_results (bench : Bench) (earlier later : List Call) :
    let middle := (bench.performAll earlier).2.tests
    let last := (bench.performAll (earlier ++ later)).2.tests
    last.map TestRun.identity = bench.tests.map TestRun.identity ∧
      (∀ (place : Nat) (test : TestRun), middle[place]? = some test → test.result.isSome →
        ∃ done : TestRun, last[place]? = some done ∧
          done.result = test.result ∧ done.output = test.output) ∧
      ∀ place, (∀ call ∈ later, place ∉ call.places) → last[place]? = middle[place]? := by
  have whole := performAll_retains bench (earlier ++ later)
  have since := performAll_append_retains bench earlier later
  refine ⟨?_, since.recorded, fun place apart => since.others place fun member => ?_⟩
  · have same := congrArg (List.map TestRun.identity) whole.bare
    rw [List.map_map, List.map_map] at same
    exact same
  · obtain ⟨call, called, about⟩ := List.mem_flatMap.mp member
    exact apart call called about

end Bench
end TestBench
