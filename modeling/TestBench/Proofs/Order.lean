import TestBench.Proofs.Boundary
import TestBench.Proofs.Moments
import TestBench.Proofs.Twins

/-!
The order of a suite. Tests whose directories lie side by side do not meet: what one of them leaves
behind cannot be seen by another, so each ends as if it had been run right after the preparation.

- `WorkArea.Stands`: a base directory that is there, as `prepare` leaves it,
- `Stands.keeps_agree`: what is done for one test cannot be seen near the directory of another,
- `Separate`: suites whose tests have directories of their own,
- `runEach_alone`: each test ends as it would have ended first,
- `runAll_order`: a suite in any order.
-/
namespace TestBench
set_option autoImplicit false
open Disk (Near Leads)

/-- A name that goes down by one step. -/
def IsStep (name : String) : Prop :=
  IsName name ∧ name ≠ ".."

instance (name : String) : Decidable (IsStep name) :=
  inferInstanceAs (Decidable (_ ∧ _))

/-! ## The base directory -/

namespace WorkArea
variable {area : WorkArea} {start : Location} {name other : String} {disk changed : Disk}

theorem testPlace_plain (plain : ".." ∉ area.base.names) (step : IsStep name) (start : Location) :
    area.testPlace start name = start ++ area.base.names ++ [name] := by
  rw [testPlace, testDirectory, Disk.follow_child step.1 step.2, Disk.follow_plain plain]

/-- A test named by one component owns its directory. -/
theorem owns_testPlace (plain : ".." ∉ area.base.names) (step : IsStep name) (start : Location) :
    area.Owns start (area.testPlace start name) name := by
  have names : start ++ (area.testDirectory name).names = area.testPlace start name := by
    rw [testPlace_plain plain step, testDirectory, Path.names_child step.1, List.append_assoc]
  refine ⟨⟨Path.anchor_child step.1, ?_, ?_⟩, ?_⟩
  · rw [testDirectory, Path.names_child step.1, List.mem_append, List.mem_singleton, not_or]
    exact ⟨plain, Ne.symm step.2⟩
  · exact .inl (names ▸ List.prefix_rfl)
  · exact names ▸ List.prefix_rfl

/-- The base directory starts at a place, and all directories on the way to it are there. -/
structure Stands (area : WorkArea) (start : Location) (disk : Disk) : Prop where
  begins : disk.origin? area.base = some start
  directories : ∀ front, front <+: area.base.names → disk.isDirectoryAt (start ++ front) = true

theorem Stands.agree {top : Location} (stands : area.Stands start disk)
    (below : start ++ area.base.names <+: top)
    (agree : Disk.Agree area.base start top disk changed) : area.Stands start changed where
  begins := agree.begins'
  directories := by
    intro front short
    have near : Near top (start ++ front) :=
      .inl (((List.prefix_append_right_inj _).mpr short).trans below)
    rw [← (agree.same _ near).2]
    exact stands.directories front short

/-- What is done for one test cannot be seen near the directory of another. -/
theorem Stands.keeps_agree (stands : area.Stands start disk) (plain : ".." ∉ area.base.names)
    (step : IsStep name) (step' : IsStep other) (apart : other ≠ name)
    (kept : area.Keeps start other disk changed) :
    Disk.Agree area.base start (area.testPlace start name) disk changed := by
  have own := testPlace_plain plain step start
  have side := testPlace_plain plain step' start
  have beside : ∀ location, Near (area.testPlace start name) location →
      ¬area.testPlace start other <+: location := by
    intro location near below
    have meet : area.testPlace start other <+: area.testPlace start name ∨
        area.testPlace start name <+: area.testPlace start other := by
      rcases near with above | inside
      · exact .inl (below.trans above)
      · exact List.prefix_or_prefix_of_prefix below inside
    rw [own, side, List.prefix_append_right_inj, List.prefix_append_right_inj] at meet
    rcases meet with same | same
    · exact apart (List.cons_prefix_cons.mp same).1
    · exact apart (List.cons_prefix_cons.mp same).1.symm
  refine kept.agree stands.begins (.inl ?_) beside ?_
  · rw [own, List.append_assoc]
    exact List.prefix_append _ _
  · rintro location near ⟨front, short, rfl⟩
    rw [testDirectory, Path.names_child step'.1, List.prefix_concat_iff] at short
    rcases short with rfl | short
    · -- The directory of the other test itself.
      have own : area.testPlace start other = Disk.follow start (area.base.names ++ [other]) := by
        rw [testPlace, testDirectory, Path.names_child step'.1]
      exact absurd (own ▸ List.prefix_rfl) (beside _ near)
    · have standing := stands.directories front short
      rw [Disk.follow_plain fun member => plain (short.subset member)]
      simp only [Disk.isDirectoryAt, decide_eq_true_eq] at standing
      rw [standing]
      rfl

/-- What is done for one test preserves the view from the directory of another. -/
theorem preserves_agree {before : Disk} (stands : area.Stands start before)
    (plain : ".." ∉ area.base.names) (step : IsStep name) (step' : IsStep other)
    (apart : other ≠ name) :
    area.Preserves other (Disk.Agree area.base start (area.testPlace start name) before) := by
  have below : start ++ area.base.names <+: area.testPlace start name := by
    rw [testPlace_plain plain step]
    exact List.prefix_append _ _
  refine preserves_of_keeps start ?_ ?_
  · intro disk agree
    exact (Disk.startsAt_of_origin? agree.begins').congr (Path.anchor_child step'.1)
  · intro disk changed agree kept
    exact agree.trans ((stands.agree below agree).keeps_agree plain step step' apart kept)

end WorkArea

/-! ## The preparation -/

namespace Harness
variable {harness : Harness} {sources classpath : List Path} {runner : Runner} {host ready : Host}

theorem prepare_opened
    (prepared : harness.prepare sources classpath host = (.ok runner, ready)) :
    harness.closed = false := by
  cases closed : harness.closed with
  | false => rfl
  | true => simp [prepare, closed] at prepared

theorem prepare_stands (plain : ".." ∉ harness.area.base.names)
    (prepared : harness.prepare sources classpath host = (.ok runner, ready)) :
    ∃ start, harness.area.Stands start ready.disk := by
  obtain ⟨-, begun, made, compiled, -, makes, compiles, sets⟩ := prepare_steps prepared
  have isName : IsName "testrunner" := by decide
  have same : ready.disk = made.disk :=
    (Mode.setUpRunner_disk sets).trans (Compiler.compile_disk compiles)
  obtain ⟨place, found, -⟩ := Host.makeDirectories_stands (Path.names_child_ne_nil isName) makes
  obtain ⟨start, -, begins, -⟩ := Disk.locate_ok.mp found
  have starts := Disk.startsAt_of_origin? begins
  rw [same]
  refine ⟨start, ?_, ?_⟩
  · rw [← begins]
    exact (Disk.origin?_congr (Path.anchor_child isName)).symm
  · rintro front ⟨rest, whole⟩
    have names : harness.area.runnerClasses.names = front ++ (rest ++ ["testrunner"]) := by
      rw [WorkArea.runnerClasses, Path.names_child isName, ← whole, List.append_assoc]
    have leads : ".." ∉ front := fun member => plain (whole ▸ List.mem_append_left _ member)
    cases rest with
    | nil => exact Disk.follow_plain leads start ▸ (Disk.locate_front starts names found).2.2
    | cons next others =>
      exact Disk.follow_plain leads start ▸ (Disk.locate_front starts names found).2.2

/-- Once a harness has been prepared, its tools have shown that they end. -/
theorem prepare_toolsEnd (real : harness.IsReal) (steady : Steady host.programs)
    (prepared : harness.prepare sources classpath host = (.ok runner, ready)) :
    harness.ToolsEnd host.programs := by
  obtain ⟨-, begun, made, compiled, begins, makes, compiles, sets⟩ := prepare_steps prepared
  have remain : Remain host.programs made.programs :=
    (Host.makeDirectories_leaves begins).programs.trans
      (Host.makeDirectories_leaves makes).programs
  obtain ⟨blocks, leaves⟩ := (Compiler.compile_ran compiles).returned
  obtain ⟨executable, encoding, debug, tool⟩ := real.compiler
  have compiler : Ends host.programs executable := by
    rw [tool] at compiles
    have ends := steady.ends_complete remain compiles
    exact ends
  rcases real.mode with ⟨config, mode⟩ | ⟨config, mode⟩
  · intro program member
    have own : program = executable := by simpa [tools, tool, mode] using member
    rwa [own]
  · rw [mode] at sets
    have archiver : Ends host.programs config.dx :=
      steady.ends_complete (remain.trans leaves.programs) sets
    intro program member
    have own : program = executable ∨ program = config.dx := by
      simpa [tools, tool, mode] using member
    rcases own with rfl | rfl
    · exact compiler
    · exact archiver

end Harness

/-! ## Tests side by side -/

namespace Suite

/-- Tests without results, each named by one component that no other one has. -/
structure Separate (tests : List TestRun) (places : List Nat) : Prop where
  fresh : ∀ place ∈ places, ∃ test, tests[place]? = some test ∧ test.result = none ∧
    IsStep test.qualifiedName
  apart : places.Pairwise fun place other => ∀ test test', tests[place]? = some test →
    tests[other]? = some test' → test.qualifiedName ≠ test'.qualifiedName

namespace Separate
variable {tests : List TestRun} {places others : List Nat} {place : Nat} {test done : TestRun}

theorem perm (h : Separate tests places) (permuted : others.Perm places) :
    Separate tests others where
  fresh := fun place member => h.fresh place (permuted.subset member)
  apart := h.apart.perm permuted.symm fun differ test test' found found' =>
    (differ test' test found' found).symm

theorem nodup (h : Separate tests places) : places.Nodup := by
  refine h.apart.imp_of_mem fun {place other} member _ differ => ?_
  rintro rfl
  obtain ⟨test, found, -⟩ := h.fresh place member
  exact differ test test found found rfl

theorem head_not_mem (h : Separate tests (place :: places)) : place ∉ places :=
  (List.nodup_cons.mp h.nodup).1

theorem later (h : Separate tests (place :: places)) (done : TestRun) {other : Nat}
    (member : other ∈ places) : (tests.set place done)[other]? = tests[other]? := by
  refine List.getElem?_set_ne ?_
  rintro rfl
  exact h.head_not_mem member

theorem tail (h : Separate tests (place :: places)) (done : TestRun) :
    Separate (tests.set place done) places where
  fresh := by
    intro other member
    rw [h.later done member]
    exact h.fresh other (List.mem_cons_of_mem _ member)
  apart := by
    refine (List.pairwise_cons.mp h.apart).2.imp_of_mem
      fun {other next} member member' differ test test' found found' => ?_
    rw [h.later done member] at found
    rw [h.later done member'] at found'
    exact differ test test' found found'

end Separate

section Run
variable {harness : Harness} {runner : Runner} {tests ended : List TestRun} {places : List Nat}
  {host after ready : Host} {start : Location} {programs : List (String × List Behaviour)}

theorem runEach_elsewhere {place : Nat} {result : Except Fault Unit} (absent : place ∉ places)
    (h : runEach harness runner places tests host = (result, ended, after)) :
    ended[place]? = tests[place]? := by
  induction places generalizing tests host with
  | nil =>
    cases h
    rfl
  | cons first rest ih =>
    rw [List.mem_cons, not_or] at absent
    have kept (done : TestRun) : (tests.set first done)[place]? = tests[place]? :=
      List.getElem?_set_ne (Ne.symm absent.1)
    unfold runEach at h
    split at h
    · exact ih absent.2 h
    · split at h
      · cases h
        exact kept _
      · exact (ih absent.2 h).trans (kept _)

/-- A test that has been run cannot be noticed by another one. -/
theorem runOne_unseen {test done : TestRun} {name : String} {middle : Host}
    (plain : ".." ∉ harness.area.base.names) (stands : harness.area.Stands start ready.disk)
    (step : IsStep name) (step' : IsStep test.qualifiedName) (apart : test.qualifiedName ≠ name)
    (agree : Host.Agree programs harness.area.base start (harness.area.testPlace start name) ready
      host)
    (ran : runOne harness runner test host = (.ok (), done, middle)) :
    Host.Agree programs harness.area.base start (harness.area.testPlace start name) ready middle := by
  obtain ⟨blocks, leaves⟩ := (runOne_ran ran).returned
  have all := WorkArea.preserves_agree stands plain step step' apart
  exact ⟨runOne_preserves all agree.disk ran, agree.remain, agree.remain'.trans leaves.programs⟩

/-- Tests whose directories lie side by side end as each of them would have ended first. -/
theorem runEach_alone (real : harness.IsReal) (plain : ".." ∉ harness.area.base.names)
    (steady : Steady programs) (ends : harness.ToolsEnd programs)
    (stands : harness.area.Stands start ready.disk) (separate : Separate tests places)
    (agree : ∀ place ∈ places, ∀ test, tests[place]? = some test →
      Host.Agree programs harness.area.base start
        (harness.area.testPlace start test.qualifiedName) ready host)
    (h : runEach harness runner places tests host = (.ok (), ended, after)) :
    ∀ place ∈ places, ∀ test, tests[place]? = some test →
      ended[place]? = some (runOne harness runner test ready).2.1 := by
  induction places generalizing tests host with
  | nil => simp
  | cons first rest ih =>
    obtain ⟨given, found, -, step⟩ := separate.fresh first List.mem_cons_self
    have own := agree first List.mem_cons_self given found
    unfold runEach at h
    simp only [found] at h
    rcases ran : runOne harness runner given host with ⟨result, done, middle⟩
    simp only [ran] at h
    cases result with
    | error fault => cases h
    | ok value =>
      have alike := runOne_alike runner own steady real ends
        (WorkArea.owns_testPlace plain step start)
      rw [ran] at alike
      -- Nobody else can tell whether the first test has been run.
      have later : ∀ place ∈ rest, ∀ test, (tests.set first done)[place]? = some test →
          Host.Agree programs harness.area.base start
            (harness.area.testPlace start test.qualifiedName) ready middle := by
        intro place member test at_place
        rw [separate.later done member] at at_place
        obtain ⟨same, known, -, step'⟩ := separate.fresh place (List.mem_cons_of_mem _ member)
        rw [at_place] at known
        cases known
        have apart := (List.pairwise_cons.mp separate.apart).1 place member given test found at_place
        exact runOne_unseen plain stands step' step apart
          (agree place (List.mem_cons_of_mem _ member) test at_place) ran
      intro place member test at_place
      rcases List.mem_cons.mp member with rfl | member
      · rw [found] at at_place
        cases at_place
        obtain ⟨inside, -⟩ := List.getElem?_eq_some_iff.mp found
        rw [runEach_elsewhere separate.head_not_mem h, alike]
        exact List.getElem?_set_self inside
      · rw [← separate.later done member] at at_place
        exact ih (separate.tail done) later h place member test at_place

end Run

/-! ## The whole suite -/

section Suite
variable {harness : Harness} {places others : List Nat} {sources classpath : List Path}
  {tests : List TestRun} {runner : Runner} {host ready : Host}

/-- A suite whose harness can be prepared gives each of its tests a result, and that is the one that
the test would have got right after the preparation. -/
theorem runAll_alone (real : harness.IsReal) (plain : ".." ∉ harness.area.base.names)
    (steady : Steady host.programs) (separate : Separate tests places)
    (prepared : harness.prepare sources classpath host = (.ok runner, ready)) :
    ∃ ended closed after,
      runAll harness places sources classpath tests host = (.ok (), ended, closed, after) ∧
      (∀ place ∈ places, HasResult ended place ∧ ∃ test, tests[place]? = some test ∧
        ended[place]? = some (runOne harness runner test ready).2.1) ∧
      ∀ place, place ∉ places → ended[place]? = tests[place]? := by
  by_cases nothing : places = []
  · exact ⟨tests, harness, _, by rw [runAll, if_pos nothing], by simp [nothing], fun _ _ => rfl⟩
  have opened := harness.prepare_opened prepared
  have ends := harness.prepare_toolsEnd real steady prepared
  obtain ⟨start, stands⟩ := Harness.prepare_stands plain prepared
  obtain ⟨blocks, leaves⟩ := (Harness.prepare_ran prepared).returned
  rcases each : runEach harness runner places tests (begins places ready) with
    ⟨result, ended, after⟩
  have fresh : ∀ place ∈ places, place ∈ [] ∨
      ∃ test, tests[place]? = some test ∧ test.result = none := by
    intro place member
    obtain ⟨test, found, unset, -⟩ := separate.fresh place member
    exact .inr ⟨test, found, unset⟩
  have agree : ∀ place ∈ places, ∀ test, tests[place]? = some test →
      Host.Agree host.programs harness.area.base start
        (harness.area.testPlace start test.qualifiedName) ready (begins places ready) :=
    fun _ _ _ _ => ⟨.refl stands.begins, leaves.programs, leaves.programs⟩
  have still : harness.ToolsEnd (begins places ready).programs := ends.remain leaves.programs
  -- The only other end of such a run is a test that is listed twice.
  obtain ⟨same, ⟨rfl, settled⟩ | stopped⟩ :=
    runEach_settles real opened still (by simp) fresh each
  · refine ⟨ended, (harness.shutDown after).1,
      (harness.shutDown after).2.note .info "Test execution completed", ?_, ?_, same.others⟩
    · unfold begins at each
      simp only [runAll, if_neg nothing, prepareAndRun, prepared, each]
    · intro place member
      obtain ⟨test, found, -⟩ := separate.fresh place member
      exact ⟨settled place member, test, found,
        runEach_alone real plain steady ends stands separate agree each place member test found⟩
  · exact absurd separate.nodup stopped.not_nodup

/-- Tests with directories of their own may be run in any order. Each gets the same result and the
same output, namely those that it would have got right after the preparation. -/
theorem runAll_order (real : harness.IsReal) (plain : ".." ∉ harness.area.base.names)
    (steady : Steady host.programs) (separate : Separate tests places)
    (permuted : others.Perm places)
    (prepared : harness.prepare sources classpath host = (.ok runner, ready)) :
    ∃ ended,
      (∃ closed after,
        runAll harness places sources classpath tests host = (.ok (), ended, closed, after)) ∧
      (∃ closed after,
        runAll harness others sources classpath tests host = (.ok (), ended, closed, after)) ∧
      ∀ place ∈ places, HasResult ended place ∧ ∃ test, tests[place]? = some test ∧
        ended[place]? = some (runOne harness runner test ready).2.1 := by
  obtain ⟨ended, closed, after, ran, alone, elsewhere⟩ :=
    runAll_alone real plain steady separate prepared
  obtain ⟨ended', closed', after', ran', alone', elsewhere'⟩ :=
    runAll_alone real plain steady (separate.perm permuted) prepared
  have same : ended' = ended := by
    refine List.ext_getElem? fun place => ?_
    by_cases member : place ∈ places
    · obtain ⟨-, test, found, told⟩ := alone place member
      obtain ⟨-, test', found', told'⟩ := alone' place (permuted.symm.subset member)
      rw [found] at found'
      cases found'
      rw [told, told']
    · rw [elsewhere place member, elsewhere' place fun listed => member (permuted.subset listed)]
  exact ⟨ended, ⟨closed, after, ran⟩, ⟨closed', after', same ▸ ran'⟩, alone⟩

end Suite

theorem runAll_order_sample :
    ∃ ended,
      (∃ closed after, runAll sampleHarness [0, 1] [] [] [sampleNotes, Samples.test] sampleHost =
        (.ok (), ended, closed, after)) ∧
      (∃ closed after, runAll sampleHarness [1, 0] [] [] [sampleNotes, Samples.test] sampleHost =
        (.ok (), ended, closed, after)) ∧
      ∀ place ∈ [0, 1], HasResult ended place := by
  have separate : Separate [sampleNotes, Samples.test] [0, 1] := by
    constructor
    · simp only [List.forall_mem_cons]
      refine ⟨⟨sampleNotes, rfl, by decide⟩, ⟨Samples.test, rfl, by decide⟩, by simp⟩
    · simp [sampleNotes, Samples.test, TestRun.fresh]
  have prepared : sampleHarness.prepare [] [] sampleHost =
      (.ok (.of [] [] sampleHarness.area.runnerClasses), (sampleHarness.prepare [] [] sampleHost).2) :=
    Prod.ext (by decide +kernel) rfl
  obtain ⟨ended, ran, ran', results⟩ := runAll_order sampleHarness_real (by decide) (by decide)
    separate (.swap 0 1 []) prepared
  exact ⟨ended, ran, ran', fun place member => (results place member).1⟩

end Suite
end TestBench
