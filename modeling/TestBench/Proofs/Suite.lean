import TestBench.Proofs.Returns
import TestBench.Samples

/-!
What a suite comes to. Nothing that happens to one test keeps the others from being run:

- `Settles`: an operation on a test gives the same test back, and what it has once recorded stays;
  only a second result is refused,
- `runOne_settles` and `runEach_settles`: the tests of a table get their results one after the
  other,
- `runAll_settles`: a suite fails as a whole only if its harness cannot be prepared, or if it lists
  a test twice.
-/
namespace TestBench
set_option autoImplicit false

/-! ## One test -/

namespace TestRun

/-- What is known about a test before it is built. -/
def bare (test : TestRun) : TestRun :=
  { test with classpath := none, result := none, output := [] }

/-- The fault of giving a test a second result. -/
def alreadySet (test : TestRun) (earlier : TestResult) : Fault :=
  .misuse ("Result for " ++ test.qualifiedName ++ " already set to " ++ earlier.text)

/-- What an operation may make of a test: the same test, with the result that it had, or the refusal
of a second result. -/
def Settles (test : TestRun) : Except Fault TestRun → Prop
  | .ok done => done.bare = test.bare ∧ ∀ earlier, test.result = some earlier →
      done.result = some earlier
  | .error fault => ∃ earlier, test.result = some earlier ∧ fault = test.alreadySet earlier

theorem setResult_settles (test : TestRun) (result : TestResult) (output : List String) :
    test.Settles (test.setResult result output) := by
  unfold setResult
  split
  · next earlier had => exact ⟨earlier, had, rfl⟩
  · next had => exact ⟨rfl, fun earlier h => by rw [had] at h; cases h⟩

end TestRun

namespace Harness
variable {harness : Harness} {runner : Runner} {test : TestRun} {host after : Host}

theorem recordInstall_settles (test : TestRun) {installed : Except Fault Classpath}
    (returns : ∀ fault, installed = .error fault → fault ≠ .endless) :
    test.Settles (recordInstall test installed) := by
  cases installed with
  | ok classpath => exact ⟨rfl, fun earlier h => h⟩
  | error fault =>
    cases fault with
    | endless => exact absurd rfl (returns _ rfl)
    | _ => exact test.setResult_settles _ _

theorem recordInstall_progress {installed : Except Fault Classpath} {built : TestRun}
    (h : recordInstall test installed = .ok built) :
    built.classpath.isSome ∨ built.result.isSome := by
  cases installed with
  | ok classpath =>
    cases h
    exact .inl rfl
  | error fault =>
    right
    cases fault with
    | endless => cases h
    | _ => rw [TestRun.setResult_recorded h]; rfl

theorem build_settles (real : harness.IsReal) (opened : harness.closed = false)
    (ends : harness.ToolsEnd host.programs) {result : Except Fault TestRun}
    (h : harness.build test runner host = (result, after)) :
    test.Settles result ∧
      ∀ built, result = .ok built → built.classpath.isSome ∨ built.result.isSome := by
  simp only [build, opened] at h
  split at h
  · exact absurd ‹false = true› Bool.false_ne_true
  · split at h
    · cases h
      refine ⟨test.setResult_settles _ _, fun built ok => .inr ?_⟩
      rw [TestRun.setResult_recorded ok]
      rfl
    · rcases installed : harness.installTest test runner host with ⟨outcome, ready⟩
      rw [installed] at h
      cases h
      refine ⟨recordInstall_settles test fun fault failed => ?_, fun built =>
        recordInstall_progress⟩
      have failed : outcome = .error fault := failed
      rw [failed] at installed
      exact installTest_returns real ends installed

theorem run_settles (opened : harness.closed = false) (runnable : test.isRunnable = true)
    {result : Except Fault TestRun} (h : harness.run test runner host = (result, after)) :
    ∃ done, result = .ok done ∧ done.bare = test.bare ∧ done.result.isSome := by
  simp only [run, opened, runnable] at h
  cases h
  have unset : test.result = none := (TestRun.isRunnable_iff.mp runnable).2
  exact ⟨_, TestRun.setResult_of_none unset _ _, rfl, rfl⟩

end Harness

namespace Suite
variable {harness : Harness} {runner : Runner} {host after : Host} {result : Except Fault Unit}

theorem buildAndRun_settles {test ended : TestRun} (real : harness.IsReal)
    (opened : harness.closed = false) (ends : harness.ToolsEnd host.programs)
    (h : buildAndRun harness runner test host = (result, ended, after)) :
    (result = .ok () ∧ ended.bare = test.bare ∧ ended.result.isSome) ∨
      ∃ earlier, test.result = some earlier ∧ result = .error (test.alreadySet earlier) ∧
        ended = test := by
  unfold buildAndRun at h
  split at h
  · next built =>
    cases h
    obtain ⟨earlier, had, rfl⟩ := (Harness.build_settles real opened ends built).1
    exact .inr ⟨earlier, had, rfl, rfl⟩
  · next ready middle built =>
    obtain ⟨⟨same, kept⟩, progress⟩ := Harness.build_settles real opened ends built
    left
    split at h
    · next runnable =>
      split at h
      · next ran =>
        obtain ⟨done, failed, -⟩ := Harness.run_settles opened runnable ran
        cases failed
      · next ran =>
        obtain ⟨done, ok, alike, settled⟩ := Harness.run_settles opened runnable ran
        cases ok
        cases h
        exact ⟨rfl, alike.trans same, settled⟩
    · next unfit =>
      cases h
      refine ⟨rfl, same, ?_⟩
      -- A test with a classpath that cannot be run has its result already.
      rcases progress _ rfl with installed | settled
      · cases unset : ended.result with
        | none => exact absurd (TestRun.isRunnable_iff.mpr ⟨installed, unset⟩) unfit
        | some earlier => rfl
      · exact settled

theorem runOne_settles {test ended : TestRun} (real : harness.IsReal)
    (opened : harness.closed = false) (ends : harness.ToolsEnd host.programs)
    (h : runOne harness runner test host = (result, ended, after)) :
    (result = .ok () ∧ ended.bare = test.bare ∧ ended.result.isSome) ∨
      ∃ earlier, test.result = some earlier ∧ result = .error (test.alreadySet earlier) ∧
        ended = test := by
  unfold runOne at h
  split at h <;>
  · next ran =>
    cases h
    exact buildAndRun_settles real opened ends ran

/-! ## The tests of a table -/

/-- The test at a place has a result. -/
def HasResult (tests : List TestRun) (place : Nat) : Prop :=
  ∃ test, tests[place]? = some test ∧ test.result.isSome

/-- A table after tests at some of its places were run: the same tests in the same order, and those
at other places as they were. -/
structure SameTable (places : List Nat) (tests ended : List TestRun) : Prop where
  bare : ended.map TestRun.bare = tests.map TestRun.bare
  others : ∀ place, place ∉ places → ended[place]? = tests[place]?

/-- A test is listed again after it has got its result, and the suite ends there. -/
def StopsAtRepeat (places : List Nat) (ended : List TestRun) (result : Except Fault Unit) : Prop :=
  ∃ earlier place later test found, places = earlier ++ place :: later ∧ place ∈ earlier ∧
    ended[place]? = some test ∧ test.result = some found ∧
    result = .error (test.alreadySet found) ∧ ∀ other ∈ earlier, HasResult ended other

theorem set_same {tests : List TestRun} {place : Nat} {test : TestRun}
    (found : tests[place]? = some test) : tests.set place test = tests := by
  obtain ⟨inside, rfl⟩ := List.getElem?_eq_some_iff.mp found
  exact List.set_getElem_self inside

theorem hasResult_set {tests : List TestRun} {place : Nat} {test done : TestRun}
    (found : tests[place]? = some test) (settled : done.result.isSome) :
    HasResult (tests.set place done) place := by
  obtain ⟨inside, -⟩ := List.getElem?_eq_some_iff.mp found
  exact ⟨done, List.getElem?_set_self inside, settled⟩

theorem HasResult.set {tests : List TestRun} {place other : Nat} {test done : TestRun}
    (found : tests[place]? = some test) (settled : done.result.isSome)
    (h : HasResult tests other) : HasResult (tests.set place done) other := by
  by_cases same : place = other
  · rw [← same]
    exact hasResult_set found settled
  · obtain ⟨kept, at_other, had⟩ := h
    exact ⟨kept, (List.getElem?_set_ne same).trans at_other, had⟩

namespace SameTable

theorem refl (tests : List TestRun) : SameTable [] tests tests :=
  ⟨rfl, fun _ _ => rfl⟩

theorem trans {first second : List Nat} {tests middle ended : List TestRun}
    (h : SameTable first tests middle) (h' : SameTable second middle ended) :
    SameTable (first ++ second) tests ended where
  bare := h'.bare.trans h.bare
  others := by
    intro place absent
    rw [List.mem_append, not_or] at absent
    exact (h'.others place absent.2).trans (h.others place absent.1)

theorem set {tests : List TestRun} {place : Nat} {test done : TestRun}
    (found : tests[place]? = some test) (alike : done.bare = test.bare) :
    SameTable [place] tests (tests.set place done) where
  bare := by
    have unchanged : (tests.map TestRun.bare).set place test.bare = tests.map TestRun.bare := by
      rw [← List.map_set, set_same found]
    rw [List.map_set, alike, unchanged]
  others := by
    intro other absent
    exact List.getElem?_set_ne fun same => absent (List.mem_singleton.mpr same.symm)

end SameTable

theorem StopsAtRepeat.not_nodup {places : List Nat} {ended : List TestRun}
    (h : StopsAtRepeat places ended result) : ¬places.Nodup := by
  obtain ⟨earlier, place, later, test, found, rfl, before, -⟩ := h
  intro nodup
  exact (List.nodup_append.mp nodup).2.2 place before place List.mem_cons_self rfl

/-- The tests at `past` have been run, and those at `places` are still to be. -/
theorem runEach_settles {past places : List Nat} {tests ended : List TestRun}
    (real : harness.IsReal) (opened : harness.closed = false)
    (ends : harness.ToolsEnd host.programs) (settled : ∀ place ∈ past, HasResult tests place)
    (listed : ∀ place ∈ places, place ∈ past ∨
      ∃ test, tests[place]? = some test ∧ test.result = none)
    (h : runEach harness runner places tests host = (result, ended, after)) :
    SameTable places tests ended ∧
      ((result = .ok () ∧ ∀ place ∈ past ++ places, HasResult ended place) ∨
        StopsAtRepeat (past ++ places) ended result) := by
  induction places generalizing past tests host with
  | nil =>
    cases h
    refine ⟨.refl _, .inl ⟨rfl, ?_⟩⟩
    rw [List.append_nil]
    exact settled
  | cons place rest ih =>
    have present : ∃ test, tests[place]? = some test := by
      rcases listed place List.mem_cons_self with before | ⟨test, found, -⟩
      · obtain ⟨test, found, -⟩ := settled place before
        exact ⟨test, found⟩
      · exact ⟨test, found⟩
    obtain ⟨test, found⟩ := present
    unfold runEach at h
    rw [found] at h
    rcases ran : runOne harness runner test host with ⟨outcome, done, middle⟩
    simp only [ran] at h
    rcases runOne_settles real opened ends ran with ⟨rfl, alike, now⟩ | ⟨earlier, had, rfl, rfl⟩
    · obtain ⟨blocks, leaves⟩ := (runOne_ran ran).returned
      have settled : ∀ other ∈ past ++ [place], HasResult (tests.set place done) other := by
        intro other member
        rcases List.mem_append.mp member with before | own
        · exact (settled other before).set found now
        · rw [List.mem_singleton.mp own]
          exact hasResult_set found now
      have listed : ∀ other ∈ rest, other ∈ past ++ [place] ∨
          ∃ next, (tests.set place done)[other]? = some next ∧ next.result = none := by
        intro other member
        by_cases own : place = other
        · exact .inl (List.mem_append_right _ (List.mem_singleton.mpr own.symm))
        · rcases listed other (List.mem_cons_of_mem _ member) with before | ⟨next, at_next, unset⟩
          · exact .inl (List.mem_append_left _ before)
          · exact .inr ⟨next, (List.getElem?_set_ne own).trans at_next, unset⟩
      obtain ⟨same, ending⟩ := ih (ends.remain leaves.programs) settled listed h
      rw [List.append_assoc] at ending
      exact ⟨(SameTable.set found alike).trans same, ending⟩
    · -- The test had a result, so it has been run before, and nothing has changed since.
      have before : place ∈ past := by
        rcases listed place List.mem_cons_self with before | ⟨next, at_next, unset⟩
        · exact before
        · rw [found] at at_next
          cases at_next
          rw [had] at unset
          cases unset
      dsimp only at h
      rw [set_same found] at h
      cases h
      exact ⟨⟨rfl, fun _ _ => rfl⟩,
        .inr ⟨past, place, rest, done, earlier, rfl, before, found, had, rfl, settled⟩⟩

/-! ## The whole suite -/

/-- A suite either fails because its harness cannot be prepared, and then no test is touched; or
every test at its places has a result in the end. The one exception is a test that is listed
twice, which may be refused a second result. The harness is closed in any case. -/
theorem runAll_settles (harness : Harness) (places : List Nat) (sources classpath : List Path)
    (tests : List TestRun) (host : Host) (something : places ≠ [])
    (listed : ∀ place ∈ places, ∃ test, tests[place]? = some test ∧ test.result = none)
    (opened : harness.closed = false) (real : harness.IsReal)
    (ends : harness.ToolsEnd host.programs) :
    ∃ result ended after,
      runAll harness places sources classpath tests host =
        (result, ended, { harness with closed := true }, after) ∧
      ((∃ fault prepared, harness.prepare sources classpath host = (.error fault, prepared) ∧
          result = .error fault ∧ ended = tests ∧ after = harness.area.shutDown prepared) ∨
        ((harness.prepare sources classpath host).1.isOk ∧ SameTable places tests ended ∧
          ((result = .ok () ∧ ∀ place ∈ places, HasResult ended place) ∨
            StopsAtRepeat places ended result))) := by
  have closing : ∀ finished, harness.shutDown finished =
      ({ harness with closed := true }, harness.area.shutDown finished) := by
    intro finished
    simp [Harness.shutDown, opened]
  rcases prepared : harness.prepare sources classpath host with ⟨fault | runner, ready⟩
  · have returns := Harness.prepare_returns real ends prepared
    refine ⟨.error fault, tests, harness.area.shutDown ready, ?_,
      .inl ⟨fault, ready, rfl, rfl, rfl, rfl⟩⟩
    simp only [runAll, if_neg something, prepareAndRun, prepared, closing]
    cases fault with
    | endless => exact absurd rfl returns
    | _ => rfl
  · obtain ⟨blocks, leaves⟩ := (Harness.prepare_ran prepared).returned
    rcases each : runEach harness runner places tests
      (ready.note .info ("Running " ++ toString places.length ++ " test(s)...")) with
      ⟨result, ended, after⟩
    have ends : ∀ level text, harness.ToolsEnd (ready.note level text).programs :=
      fun _ _ => ends.remain leaves.programs
    have settled : ∀ place ∈ [], HasResult tests place := by simp
    obtain ⟨same, ending⟩ := runEach_settles real opened (ends _ _) settled
      (fun place member => .inr (listed place member)) each
    simp only [List.nil_append] at ending
    rcases ending with ⟨rfl, complete⟩ | stopped
    · refine ⟨.ok (), ended, (harness.area.shutDown after).note .info "Test execution completed",
        ?_, .inr ⟨rfl, same, .inl ⟨rfl, complete⟩⟩⟩
      simp only [runAll, if_neg something, prepareAndRun, prepared, each, closing]
    · refine ⟨result, ended, harness.area.shutDown after, ?_, .inr ⟨rfl, same, .inr stopped⟩⟩
      obtain ⟨earlier, place, later, test, found, -, -, -, -, rfl, -⟩ := stopped
      simp only [runAll, if_neg something, prepareAndRun, prepared, each, closing]
      rfl

/-! ## A sample

A machine that never exits, and a test that cannot be compiled. -/

/-- A harness for the host's own virtual machine. -/
def sampleHarness : Harness :=
  .start (.jvm ⟨"java", "vmtest.TestRunner", []⟩) ⟨.parse "/work", false, none⟩
    ⟨.parse "/sdk/core.jar", .parse "/runner", [], 60, false, Nat.succ_pos 59⟩ (.usual "javac")

/-- A process that says nothing and exits after a while, if it does. -/
def sampleProcess (exitsAfter : Option Nat) : Behaviour :=
  ⟨[], exitsAfter, 0, exitsAfter, none, none, .natural, false⟩

/-- A host with a compiler that ends and a machine that does not. -/
def sampleHost : Host :=
  .fresh ⟨[], some []⟩ 0 [("javac", [sampleProcess (some 10)]), ("java", [sampleProcess none])]

/-- A test whose source is not a program. -/
def sampleNotes : TestRun :=
  .fresh "example.Notes" "Notes" (.parse "/src/example/Notes.txt") none

theorem sampleHarness_real : sampleHarness.IsReal :=
  ⟨⟨_, _, _, rfl⟩, .inl ⟨_, rfl⟩, rfl⟩

theorem sampleHost_toolsEnd : sampleHarness.ToolsEnd sampleHost.programs := by
  intro program member behaviour ⟨behaviours, inside, supplied⟩
  have javac : program = "javac" := List.mem_singleton.mp member
  simp [sampleHost, Host.fresh, javac] at inside
  rw [inside, List.mem_singleton] at supplied
  rw [supplied]
  exact ⟨by simp [sampleProcess], by simp [sampleProcess], fun _ _ => ⟨rfl, rfl⟩⟩

theorem runAll_settles_sample :
    ∃ ended after, runAll sampleHarness [1, 0] [] [] [sampleNotes, Samples.test] sampleHost =
        (.ok (), ended, { sampleHarness with closed := true }, after) ∧
      ∀ place ∈ [1, 0], HasResult ended place := by
  obtain ⟨result, ended, after, ran, failed | ⟨-, -, complete | stopped⟩⟩ :=
    runAll_settles sampleHarness [1, 0] [] [] [sampleNotes, Samples.test] sampleHost (by decide)
      (by simp [sampleNotes, Samples.test, TestRun.fresh]) rfl sampleHarness_real
      sampleHost_toolsEnd
  · obtain ⟨fault, prepared, refused, -⟩ := failed
    have ready : (sampleHarness.prepare [] [] sampleHost).1.isOk = true := by decide +kernel
    rw [refused] at ready
    cases ready
  · obtain ⟨rfl, complete⟩ := complete
    exact ⟨ended, after, ran, complete⟩
  · exact absurd stopped.not_nodup (by decide)

instance decideExcept {α β : Type} [DecidableEq α] [DecidableEq β] : DecidableEq (Except α β)
  | .error first, .error second => decidable_of_iff (first = second) (by simp)
  | .ok first, .ok second => decidable_of_iff (first = second) (by simp)
  | .error _, .ok _ => .isFalse (by simp)
  | .ok _, .error _ => .isFalse (by simp)

/-- A test that is listed twice ends a suite although the harness has been prepared. -/
theorem runAll_repeated_sample :
    (∀ place ∈ [0, 0], ∃ test, [sampleNotes][place]? = some test ∧ test.result = none) ∧
      sampleHarness.closed = false ∧ sampleHarness.IsReal ∧
      sampleHarness.ToolsEnd sampleHost.programs ∧
      (sampleHarness.prepare [] [] sampleHost).1.isOk ∧
      (runAll sampleHarness [0, 0] [] [] [sampleNotes] sampleHost).1 =
        .error (sampleNotes.alreadySet .unsupported) := by
  refine ⟨by simp [sampleNotes, TestRun.fresh], rfl, sampleHarness_real, sampleHost_toolsEnd,
    ?_, ?_⟩
  · decide +kernel
  · decide +kernel

end Suite
end TestBench
