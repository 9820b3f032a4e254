import Mathlib.Data.List.Forall2
import TestBench.Proofs.Agreement
import TestBench.Proofs.Json.Roundtrip
import TestBench.Proofs.Recorded
import TestBench.Session
import TestBench.Validation.Standard

/-!
What a session tells of its suite. The exit code and the printed counts are two ways to count the
results of the tests, and they agree because every test of a suite that has ended has a result.

- `Disk.isDirectory_remove`: a directory that has been removed is not there any more,
- `Suite.runEach_records`: a suite that returns has given every test a result,
- `Suite.runAll_preparation`: only the preparation of a harness ends in its fault,
- `Report.Prints` and `Report.Describes`: what a report and its entries say,
- `Report.json_legible`: the text of a report can be read,
- `Report.counts_sum` and `Report.hasFailed_iff_counts`: the counts,
- `Session.perform_reports`: the exit code, the printed text and the base directory.
-/
namespace TestBench
set_option autoImplicit false

/-! ## Removed directories -/

namespace Disk
variable {disk : Disk} {path : Path}

theorem exists_last_of_isDeletable (deletable : isDeletable path = true) :
    ∃ front name, path.names = front ++ [name] ∧ name ≠ ".." := by
  unfold isDeletable at deletable
  split at deletable
  · cases deletable
  · next name last =>
    obtain ⟨front, names⟩ := List.getLast?_eq_some_iff.mp last
    exact ⟨front, name, names, of_decide_eq_true deletable⟩

/-- A path that has been removed may lead somewhere afterwards, but not to a directory. -/
theorem isDirectory_remove (deletable : isDeletable path = true) :
    (disk.remove path).isDirectory path ≠ .ok true := by
  intro standing
  obtain ⟨front, name, names, down⟩ := exists_last_of_isDeletable deletable
  have named : path.names ≠ [] := by simp [names]
  obtain ⟨place, leads, here⟩ := isDirectory_ok named standing
  -- Before and after, the path can only mean one place.
  have starts := disk.startsAt_getD path
  have still : Confined _ (fun _ => False) disk (disk.remove path) :=
    remove_confined starts List.prefix_rfl
  have same : place = follow ((disk.origin? path).getD []) path.names :=
    locate_follow (still.startsAt starts) leads
  have inside : place ≠ [] := by
    rw [same, names, follow_append, follow_down down]
    simp
  unfold Disk.remove at leads here
  split at leads
  · next missing =>
    rw [missing] at leads
    cases leads
  · next location found =>
    obtain rfl : location = place := (locate_follow starts found).trans same.symm
    rw [found] at here
    dsimp only at leads here
    split at leads
    · next directory =>
      rw [if_pos directory] at here
      split at leads
      · next reached =>
        rw [deletable, reached] at here
        dsimp only at here
        rw [isDirectoryAt, entry?_keep_lost inside (by simp)] at here
        cases here
      · next unreached =>
        exact unreached _ deletable leads
    · next absent =>
      rw [if_neg absent] at here
      exact absent here

end Disk

/-! ## Results of a suite that returns -/

/-- A fault that is not about the preparation of a harness. -/
def Fault.IsNotPreparation (fault : Fault) : Prop :=
  ∀ message cause, fault ≠ .preparation message cause

namespace Harness
variable {harness : Harness} {runner : Runner} {test built : TestRun} {host after : Host}

theorem build_progress (h : harness.build test runner host = (.ok built, after)) :
    built.classpath.isSome ∨ built.result.isSome := by
  simp only [build] at h
  split at h
  · cases h
  · split at h
    · right
      rw [TestRun.setResult_recorded (Prod.mk.inj h).1]
      rfl
    · exact recordInstall_progress (Prod.mk.inj h).1

theorem run_records (h : harness.run test runner host = (.ok built, after)) :
    built.result.isSome := by
  simp only [run] at h
  split at h
  · cases h
  · split at h
    · cases h
    · rw [TestRun.setResult_recorded (Prod.mk.inj h).1]
      rfl

theorem closedFault_not_preparation : closedFault.IsNotPreparation :=
  fun _ _ h => Fault.noConfusion h

theorem setResult_not_preparation {result : TestResult} {output : List String} {fault : Fault}
    (h : test.setResult result output = .error fault) : fault.IsNotPreparation := by
  unfold TestRun.setResult at h
  split at h
  · cases h
    exact fun _ _ h => Fault.noConfusion h
  · cases h

theorem recordInstall_not_preparation {installed : Except Fault Classpath} {fault : Fault}
    (h : recordInstall test installed = .error fault) : fault.IsNotPreparation := by
  cases installed with
  | ok classpath => cases h
  | error cause =>
    cases cause with
    | endless =>
      cases h
      exact fun _ _ h => Fault.noConfusion h
    | _ => exact setResult_not_preparation h

theorem build_not_preparation {fault : Fault}
    (h : harness.build test runner host = (.error fault, after)) : fault.IsNotPreparation := by
  simp only [build] at h
  split at h
  · cases h
    exact closedFault_not_preparation
  · split at h
    · exact setResult_not_preparation (Prod.mk.inj h).1
    · exact recordInstall_not_preparation (Prod.mk.inj h).1

theorem run_not_preparation {fault : Fault}
    (h : harness.run test runner host = (.error fault, after)) : fault.IsNotPreparation := by
  simp only [run] at h
  split at h
  · cases h
    exact fun _ _ h => Fault.noConfusion h
  · split at h
    · cases h
      exact closedFault_not_preparation
    · exact setResult_not_preparation (Prod.mk.inj h).1

end Harness

namespace Suite
variable {harness : Harness} {runner : Runner} {test ended : TestRun} {host after : Host}

theorem buildAndRun_records
    (h : buildAndRun harness runner test host = (.ok (), ended, after)) :
    ended.result.isSome := by
  unfold buildAndRun at h
  split at h
  · cases h
  · next built =>
    split at h
    · split at h
      · cases h
      · next ran =>
        cases h
        exact Harness.run_records ran
    · next unfit =>
      cases h
      -- A test with a classpath that cannot be run has its result already.
      rcases Harness.build_progress built with installed | settled
      · cases unset : ended.result with
        | none => exact absurd (TestRun.isRunnable_iff.mpr ⟨installed, unset⟩) unfit
        | some earlier => rfl
      · exact settled

theorem buildAndRun_not_preparation {fault : Fault}
    (h : buildAndRun harness runner test host = (.error fault, ended, after)) :
    fault.IsNotPreparation := by
  unfold buildAndRun at h
  split at h
  · next built =>
    cases h
    exact Harness.build_not_preparation built
  · split at h
    · split at h
      · next ran =>
        cases h
        exact Harness.run_not_preparation ran
      · cases h
    · cases h

theorem runOne_records (h : runOne harness runner test host = (.ok (), ended, after)) :
    ended.result.isSome := by
  unfold runOne at h
  split at h
  · cases h
  · cases h
  · next ran =>
    cases h
    exact buildAndRun_records ran

theorem runOne_not_preparation {fault : Fault}
    (h : runOne harness runner test host = (.error fault, ended, after)) :
    fault.IsNotPreparation := by
  unfold runOne at h
  split at h
  · next ran =>
    cases h
    exact buildAndRun_not_preparation ran
  · next ran =>
    cases h
    exact buildAndRun_not_preparation ran
  · cases h

/-- Every test at the places that have been run has a result, and those before them keep theirs. -/
theorem runEach_records {past places : List Nat} {tests done : List TestRun}
    (settled : ∀ place ∈ past, HasResult tests place)
    (present : ∀ place ∈ places, place < tests.length)
    (h : runEach harness runner places tests host = (.ok (), done, after)) :
    ∀ place ∈ past ++ places, HasResult done place := by
  induction places generalizing past tests host with
  | nil =>
    cases h
    rwa [List.append_nil]
  | cons place rest ih =>
    have inside := present place List.mem_cons_self
    have found : tests[place]? = some tests[place] := List.getElem?_eq_getElem inside
    unfold runEach at h
    rw [found] at h
    rcases ran : runOne harness runner tests[place] host with ⟨_ | _, ended, middle⟩
    · simp only [ran] at h
      cases h
    · simp only [ran] at h
      have now := runOne_records ran
      have settled : ∀ other ∈ past ++ [place], HasResult (tests.set place ended) other := by
        intro other member
        rcases List.mem_append.mp member with before | own
        · exact (settled other before).set found now
        · rw [List.mem_singleton.mp own]
          exact hasResult_set found now
      have present : ∀ other ∈ rest, other < (tests.set place ended).length := by
        intro other member
        rw [List.length_set]
        exact present other (List.mem_cons_of_mem _ member)
      have complete := ih settled present h
      rwa [List.append_assoc] at complete

theorem runEach_not_preparation {places : List Nat} {tests done : List TestRun} {fault : Fault}
    (h : runEach harness runner places tests host = (.error fault, done, after)) :
    fault.IsNotPreparation := by
  induction places generalizing tests host with
  | nil => cases h
  | cons place rest ih =>
    unfold runEach at h
    split at h
    · exact ih h
    · split at h
      · next ran =>
        cases h
        exact runOne_not_preparation ran
      · exact ih h

section Suites
variable {places : List Nat} {sources classpath : List Path} {tests done : List TestRun}
  {closed : Harness} {result : Except Fault Unit}

theorem runAll_records (present : ∀ place ∈ places, place < tests.length)
    (h : runAll harness places sources classpath tests host = (.ok (), done, closed, after)) :
    ∀ place ∈ places, HasResult done place := by
  simp only [runAll, prepareAndRun] at h
  split at h
  · next nothing => simp [nothing]
  · split at h
    · cases h
    · next outcome _ _ _ ran =>
      split at h
      · cases h
      · cases h
        split at ran
        · cases ran
        · have none_yet : ∀ place ∈ ([] : List Nat), HasResult tests place := by simp
          exact runEach_records none_yet present ran

/-- A suite of all tests of a table that returns has given each of them a result. -/
theorem runAll_every (h : runAll harness (List.range tests.length) sources classpath tests host =
      (.ok (), done, closed, after)) :
    done.map TestRun.bare = tests.map TestRun.bare ∧ ∀ test ∈ done, test.result.isSome := by
  have same := (runAll_retains h).bare
  have length : done.length = tests.length := by simpa using congrArg List.length same
  refine ⟨same, fun test member => ?_⟩
  obtain ⟨place, inside, rfl⟩ := List.mem_iff_getElem.mp member
  have listed : place ∈ List.range tests.length := List.mem_range.mpr (length ▸ inside)
  obtain ⟨own, found, settled⟩ := runAll_records (by simp) h place listed
  rw [List.getElem?_eq_getElem inside, Option.some.injEq] at found
  rwa [found]

/-- A suite ends in the fault of a preparation only if its harness could not be prepared. -/
theorem runAll_preparation {message : String} {cause : Option String}
    (h : runAll harness places sources classpath tests host =
      (.error (.preparation message cause), done, closed, after)) :
    ∃ failed, harness.prepare sources classpath host =
      (.error (.preparation message cause), failed) := by
  simp only [runAll, prepareAndRun] at h
  split at h
  · cases h
  · split at h
    · cases h
    · next ran =>
      split at h
      · cases h
        split at ran
        · next prepared =>
          cases ran
          exact ⟨_, prepared⟩
        · exact absurd rfl (runEach_not_preparation ran message cause)
      · cases h

/-- A suite that returns has removed its base directory, unless files are kept. -/
theorem runAll_removes (something : places ≠ []) (opened : harness.closed = false)
    (discards : harness.area.keepFiles = false) (returns : result ≠ .error .endless)
    (h : runAll harness places sources classpath tests host = (result, done, closed, after)) :
    ∃ disk : Disk, after.disk = disk.remove harness.area.base := by
  simp only [runAll, if_neg something, Harness.shutDown, opened, WorkArea.shutDown, discards] at h
  split at h
  · cases h
    exact absurd rfl returns
  · next last _ _ =>
    refine ⟨last.disk, ?_⟩
    split at h <;>
    · cases h
      rfl

end Suites
end Suite

/-! ## Reports -/

namespace Report

/-- How many tests have ended in each way. -/
structure Counts where
  passed : Nat
  failed : Nat
  compileFailed : Nat
  errors : Nat
  timeouts : Nat
  unsupported : Nat

namespace Counts

def of (tests : List TestRun) : Counts where
  passed := count .success tests
  failed := count .execFailed tests
  compileFailed := count .compileFailed tests
  errors := count .error tests
  timeouts := count .execTimeout tests
  unsupported := count .unsupported tests

def sum (counts : Counts) : Nat :=
  counts.passed + counts.failed + counts.compileFailed + counts.errors + counts.timeouts
    + counts.unsupported

/-- The tests that count against a suite. -/
def failures (counts : Counts) : Nat :=
  counts.failed + counts.compileFailed + counts.errors + counts.timeouts

end Counts

/-- A report that shows counts, a total and a list of entries, each under its own name. -/
structure Prints (report : Json) (total : Nat) (counts : Counts) (entries : List Json) : Prop where
  total : report.field? "total" = some (.whole total)
  passed : report.field? "passed" = some (.whole counts.passed)
  failed : report.field? "failed" = some (.whole counts.failed)
  compileFailed : report.field? "compile_failed" = some (.whole counts.compileFailed)
  errors : report.field? "errors" = some (.whole counts.errors)
  timeouts : report.field? "timeouts" = some (.whole counts.timeouts)
  unsupported : report.field? "unsupported" = some (.whole counts.unsupported)
  results : report.field? "results" = some (.array entries)

/-- An entry of a report that tells of a test which has ended. -/
structure Describes (entry : Json) (test : TestRun) : Prop where
  name : entry.field? "test" = some (.text test.qualifiedName)
  source : entry.field? "source" = some (.text test.source.toString)
  result : ∃ result, test.result = some result ∧ entry.field? "result" = some (.text result.text)
  output : entry.field? "output" = some (.texts test.output)

theorem json_prints (tests : List TestRun) :
    Prints (json tests) tests.length (.of tests) (tests.map entry) := by
  constructor <;> rfl

theorem entry_describes {test : TestRun} (settled : test.result.isSome) :
    Describes (entry test) test := by
  obtain ⟨result, ended⟩ := Option.isSome_iff_exists.mp settled
  exact ⟨rfl, rfl, ⟨result, ended, by rw [entry, ended]; rfl⟩, rfl⟩

/-! ### Text of a report -/

theorem count_le (result : TestResult) (tests : List TestRun) :
    count result tests ≤ tests.length :=
  List.countP_le_length

/-- A number has not more digits than a greater one. -/
theorem toDigits_length_mono {number bound : Nat} (h : number ≤ bound) :
    (Nat.toDigits 10 number).length ≤ (Nat.toDigits 10 bound).length := by
  have some_digit : 0 < (Nat.toDigits 10 bound).length := Nat.length_toDigits_pos
  have below : bound < 10 ^ (Nat.toDigits 10 bound).length :=
    (Nat.length_toDigits_le_iff (by decide) some_digit).mp (Nat.le_refl _)
  exact (Nat.length_toDigits_le_iff (by decide) some_digit).mpr (Nat.lt_of_le_of_lt h below)

theorem entry_legible (limit depth : Nat) (test : TestRun) :
    Json.Legible limit (depth + 2) (entry test) := by
  refine .object (by simp [Json.names]) ?_
  simp only [List.forall_mem_cons]
  refine ⟨.text _, .text _, ?_, .array ?_, by simp⟩
  · cases test.result with
    | none => exact .null
    | some result => exact .text _
  · intro line member
    obtain ⟨text, -, rfl⟩ := List.mem_map.mp member
    exact .text text

/-- A report is legible to readers that take numbers as long as its total. -/
theorem json_legible {limit : Nat} {tests : List TestRun}
    (short : (Nat.toDigits 10 tests.length).length ≤ limit) (depth : Nat) :
    Json.Legible limit (depth + 4) (json tests) := by
  have counted (result : TestResult) : Json.Legible limit (depth + 3) (.whole (count result tests)) :=
    .number ((toDigits_length_mono (count_le result tests)).trans short)
  refine .object (by simp [Json.names]) ?_
  simp only [List.forall_mem_cons]
  refine ⟨.number short, counted _, counted _, counted _, counted _, counted _, counted _,
    .array ?_, by simp⟩
  intro item member
  obtain ⟨test, -, rfl⟩ := List.mem_map.mp member
  exact entry_legible limit depth test

theorem count_cons (result : TestResult) (test : TestRun) (tests : List TestRun) :
    count result (test :: tests) = count result tests + if test.result = some result then 1 else 0 := by
  simp [count, List.countP_cons]

/-- Every test that has ended is counted once. -/
theorem counts_sum {tests : List TestRun} (settled : ∀ test ∈ tests, test.result.isSome) :
    (Counts.of tests).sum = tests.length := by
  induction tests with
  | nil => rfl
  | cons test rest ih =>
    have others := ih fun other member => settled other (List.mem_cons_of_mem _ member)
    obtain ⟨result, ended⟩ := Option.isSome_iff_exists.mp (settled test List.mem_cons_self)
    simp only [Counts.sum, Counts.of, count_cons, ended, List.length_cons] at others ⊢
    cases result <;> simp <;> omega

/-- The tests that count against a suite are those of four of the counts. -/
theorem hasFailed_iff_counts (tests : List TestRun) :
    tests.any hasFailed = true ↔ 0 < (Counts.of tests).failures := by
  induction tests with
  | nil => simp [Counts.failures, Counts.of, count]
  | cons test rest ih =>
    simp only [Counts.failures, Counts.of, count_cons, List.any_cons, Bool.or_eq_true] at ih ⊢
    rw [ih, hasFailed]
    cases test.result with
    | none => simp
    | some result =>
      cases result <;>
      · simp only [TestResult.isFailure, Option.some.injEq, reduceCtorEq, if_true, if_false,
          Bool.false_eq_true, true_or, true_iff, false_or]
        omega

end Report

/-! ## Sessions -/

namespace Session
open Report (Counts)

@[simp] theorem noteSummary_disk (tests : List TestRun) (host : Host) :
    (noteSummary tests host).disk = host.disk := by
  unfold noteSummary
  induction Report.summary tests generalizing host with
  | nil => rfl
  | cons line rest ih => exact ih _

theorem suiteCode_eq (tests : List TestRun) :
    suiteCode tests = if 0 < (Counts.of tests).failures then 1 else 0 := by
  simp only [suiteCode, Report.hasFailed_iff_counts]

/-- The harness of a session, with the work area that was asked for. -/
def harnessOf (options : CommandLine.Options) (settings : Settings) (mode : Mode)
    (temporary : Path) : Harness :=
  .start mode ⟨options.workDir.getD temporary, options.keepFiles, none⟩ settings
    (.usual options.javac)

theorem chooseArea_ok {options : CommandLine.Options} {temporary : Path} {host ready : Host}
    {area : WorkArea} (h : chooseArea options temporary host = (.ok area, ready)) :
    area = ⟨options.workDir.getD temporary, options.keepFiles, none⟩ := by
  unfold chooseArea at h
  split at h
  · next directory asked =>
    cases h
    rw [asked]
    rfl
  · next unasked =>
    split at h
    · cases h
      rw [unasked]
      rfl
    · cases h

theorem conclude_exit {result : Except Fault Unit} {tests : List TestRun} {host after : Host}
    {code : Nat} {output complaint : String}
    (h : conclude result tests host = (.exit code output complaint, after)) :
    after.disk = host.disk ∧
      ((∃ message cause, result = .error (.preparation message cause) ∧ code = notRunCode ∧
          output = "") ∨
        (result = .ok () ∧ code = suiteCode tests ∧
          output = (Report.json tests).indented ++ "\n")) := by
  unfold conclude at h
  split at h
  · next message cause =>
    cases h
    exact ⟨rfl, .inl ⟨message, cause, rfl, rfl, rfl⟩⟩
  · cases h
  · cases h
    exact ⟨noteSummary_disk _ _, .inr ⟨rfl, rfl, rfl⟩⟩

/-- What a session that has run all of its tests tells of them: what it prints is read as a report
that has an entry for each of them in their order, the total is the number of entries and the sum of
the counts, and the exit code says whether some of them count against the suite. A reader may limit
the digits of numbers, but not below those of the total, and the depth, but not below four. -/
structure Tells (discovered recorded : List TestRun) (code : Nat) (output : String) : Prop where
  same : recorded.map TestRun.identity = discovered.map TestRun.identity
  printed : ∃ report entries, output = report.indented ++ "\n" ∧
    (∀ limit depth, (Nat.toDigits 10 entries.length).length ≤ limit →
      Json.read? limit (depth + 4) output = some report) ∧
    Report.Prints report entries.length (.of recorded) entries ∧
    List.Forall₂ Report.Describes entries recorded ∧ entries.length = (Counts.of recorded).sum
  code : code = if 0 < (Counts.of recorded).failures then 1 else 0

theorem tells_of_settled {discovered recorded : List TestRun}
    (same : recorded.map TestRun.bare = discovered.map TestRun.bare)
    (settled : ∀ test ∈ recorded, test.result.isSome) :
    Tells discovered recorded (suiteCode recorded) ((Report.json recorded).indented ++ "\n") where
  same := by
    have same := congrArg (List.map TestRun.identity) same
    rw [List.map_map, List.map_map] at same
    exact same
  printed := by
    refine ⟨Report.json recorded, recorded.map Report.entry, rfl, ?_, ?_, ?_, ?_⟩
    · intro limit depth short
      rw [List.length_map] at short
      exact Json.read?_indented (Report.json_legible short depth) (by simp [Json.isGap])
    · rw [List.length_map]
      exact Report.json_prints recorded
    · rw [List.forall₂_map_left_iff, List.forall₂_same]
      exact fun test member => Report.entry_describes (settled test member)
    · rw [List.length_map, Report.counts_sum settled]
  code := suiteCode_eq recorded

section Perform
variable {options : CommandLine.Options} {settings : Settings} {mode : Mode} {temporary : Path}
  {discovered : List TestRun} {host after : Host} {code : Nat} {output complaint : String}

/-- Why a session has the exit code and the output that it has: its harness could not be prepared,
or all of its tests have been run. -/
inductive Explains (harness : Harness) (classpath : List Path) (discovered : List TestRun)
    (host : Host) (sources : List Path) (code : Nat) (output : String) : Prop where
  | unprepared (message : String) (cause : Option String) (failed : Host)
      (refused : harness.prepare sources classpath host =
        (.error (.preparation message cause), failed))
      (code : code = 2) (silent : output = "")
  | told (recorded : List TestRun) (closed : Harness) (last : Host)
      (ran : Suite.runAll harness (List.range discovered.length) sources classpath discovered host =
        (.ok (), recorded, closed, last))
      (tells : Tells discovered recorded code output)

theorem runSuite_reports (something : discovered ≠ [])
    (h : runSuite options settings mode temporary discovered host =
      (.exit code output complaint, after)) :
    (∃ ready sources, chooseArea options temporary host =
        (.ok (harnessOf options settings mode temporary).area, ready) ∧
      Discovery.runnerSources ready.disk settings.runnerSourceRoot = .ok sources ∧
      Explains (harnessOf options settings mode temporary) options.runnerClasspath discovered
        ready sources code output) ∧
    (options.keepFiles = false → Disk.isDeletable (options.workDir.getD temporary) = true →
      after.disk.isDirectory (options.workDir.getD temporary) ≠ .ok true) := by
  unfold runSuite at h
  split at h
  · cases h
  next area ready chosen =>
    obtain rfl := chooseArea_ok chosen
    split at h
    · cases h
    next sources found =>
      have places : List.range discovered.length ≠ [] := by
        simpa using something
      rcases ran : Suite.runAll (harnessOf options settings mode temporary)
        (List.range discovered.length) sources options.runnerClasspath discovered ready with
        ⟨result, recorded, closed, last⟩
      have ended : conclude result recorded last = (.exit code output complaint, after) := by
        unfold harnessOf at ran
        simpa only [ran] using h
      obtain ⟨disk, outcome⟩ := conclude_exit ended
      refine ⟨⟨ready, sources, chosen, found, ?_⟩, fun discards deletable => ?_⟩
      · rcases outcome with ⟨message, cause, rfl, rfl, rfl⟩ | ⟨rfl, rfl, rfl⟩
        · obtain ⟨failed, refused⟩ := Suite.runAll_preparation ran
          exact .unprepared message cause failed refused rfl rfl
        · obtain ⟨same, settled⟩ := Suite.runAll_every ran
          exact .told recorded closed last ran (tells_of_settled same settled)
      · have returned : result ≠ .error .endless := by
          rintro rfl
          simp at outcome
        obtain ⟨before, removed⟩ := Suite.runAll_removes places rfl discards returned ran
        rw [disk, removed]
        exact Disk.isDirectory_remove deletable

end Perform

/-! ## A sample -/

/-- Options for a test that is not a program and one that a machine runs. -/
def sampleOptions : CommandLine.Options :=
  ⟨"jvm", some "\x7b\x7d", some (.parse "/sdk/core.jar"), "javac", some (.parse "/runner"), [], [],
    some 60, false, some (.parse "/work"), false, [.parse "/Notes.txt", .parse "/src/FooTest.java"]⟩

/-- A host whose machine says that a test has failed. -/
def sampleHost : Host :=
  .fresh ⟨[], some []⟩ 0 [("javac", [Suite.sampleProcess (some 10)]),
    ("java", [{ Suite.sampleProcess (some 20) with output := Text.Utf8.encode "boom\n".toList }])]

def sampleFound : List TestRun :=
  [.fresh "Notes" "Notes" (.parse "/Notes.txt") none,
    .fresh "FooTest" "FooTest" (.parse "/src/FooTest.java") none]

def exitCode? : Ending → Option Nat
  | .exit code _ _ => some code
  | .broken _ => none

def jvmConfig? : Except Mode.LoadError Mode → Option Mode.JvmConfig
  | .ok (.jvm config) => some config
  | _ => none

theorem load_sampleOptions : Mode.load .standard sampleOptions.mode sampleOptions.modeConfig =
    .ok Suite.sampleHarness.mode := by
  have config : jvmConfig? (Mode.load .standard sampleOptions.mode sampleOptions.modeConfig) =
      jvmConfig? (.ok Suite.sampleHarness.mode) := by
    decide +kernel
  unfold jvmConfig? at config
  split at config
  · next loaded =>
    rw [loaded, Option.some.inj config]
    rfl
  · cases config

end Session
end TestBench
