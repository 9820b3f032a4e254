import TestBench.Proofs.Operations
import TestBench.Samples

/-!
The outcome of a test that is run. It is the verdict on the readings of its commands, whatever else
happens on the host:

- `settled_congr`: only the faults that occur matter to a verdict,
- `verdict_alike`: without fail-fast, what earlier commands write and how they exit do not matter,
- `run_verdict`: the result of a test, and the commands that are started for it.
-/
namespace TestBench
set_option autoImplicit false
open Harness (Outcome outcomeOfFault timeLimit runCommands)

/-! ## Starts in the record -/

/-- Whether an event is the start of a program. -/
def Event.isStart : Event → Bool
  | spawn _ _ _ => true
  | killGroup _ _ => false
  | killProcess _ => false

theorem Block.events_starts (block : Block) :
    block.events.filter Event.isStart = [block.command.launch] := by
  cases block with
  | refused command => rfl
  | ended command behaviour startedAt killedAt =>
    have kills : ((command.newProcess behaviour startedAt).killEvents killedAt).filter
        Event.isStart = [] := by
      unfold Process.killEvents
      split <;> rfl
    rw [Block.events, List.filter_cons_of_pos rfl, kills]
    rfl

theorem Leaves.starts {host after : Host} {blocks : List Block} (h : Leaves host blocks after) :
    after.events.filter Event.isStart = host.events.filter Event.isStart ++
      (blocks.map Block.command).map Command.launch := by
  rw [h.events, List.filter_append, List.filter_flatMap, List.map_map, List.map_eq_flatMap]
  simp only [Block.events_starts, Function.comp_def]

/-! ## What a verdict depends on -/

theorem settled_congr {first second : Fault → Outcome} {settings : Settings}
    {readings : List Reading}
    (agree : ∀ reading ∈ readings, ∀ fault, reading.fault? = some fault →
      first fault = second fault) :
    settled first settings readings = settled second settings readings := by
  induction readings with
  | nil => rfl
  | cons reading rest ih =>
    have same : reading.settles first settings rest.isEmpty =
        reading.settles second settings rest.isEmpty := by
      cases reading with
      | refused fault => exact congrArg some (agree _ List.mem_cons_self fault rfl)
      | unreadable fault => exact congrArg some (agree _ List.mem_cons_self fault rfl)
      | late => rfl
      | complete output status => rfl
    rw [settled_cons, settled_cons, same,
      ih fun other member => agree other (List.mem_cons_of_mem _ member)]

/-- Readings that differ at most in what commands before the last one have written and in how these
have exited. -/
def Alike (first second : List Reading) : Prop :=
  first.dropLast.map Reading.blur = second.dropLast.map Reading.blur ∧
    first.getLast? = second.getLast?

theorem settles_blur (onFault : Fault → Outcome) {settings : Settings}
    (patient : settings.failFast = false) (isLast : Bool) (reading : Reading) :
    reading.blur.settles onFault settings isLast = reading.settles onFault settings isLast := by
  cases reading with
  | refused fault => rfl
  | unreadable fault => rfl
  | late => rfl
  | complete output status => simp [Reading.blur, Reading.settles, patient]

theorem verdict_alike (onFault : Fault → Outcome) {settings : Settings}
    (patient : settings.failFast = false) {first second : List Reading}
    (alike : Alike first second) :
    verdict onFault settings first = verdict onFault settings second := by
  induction first generalizing second with
  | nil =>
    have empty : second = [] := List.getLast?_eq_none_iff.mp alike.2.symm
    rw [empty]
  | cons reading rest ih =>
    cases second with
    | nil => exact absurd (List.getLast?_eq_none_iff.mp alike.2) (List.cons_ne_nil _ _)
    | cons other others =>
      obtain ⟨earlier, last⟩ := alike
      cases rest with
      | nil =>
        cases others with
        | nil =>
          -- The last readings are the same, so there is nothing to compare.
          have same : reading = other := Option.some.inj last
          rw [same]
        | cons next more => cases earlier
      | cons next more =>
        cases others with
        | nil => cases earlier
        | cons next' more' =>
          rw [List.dropLast_cons_cons, List.dropLast_cons_cons, List.map_cons,
            List.map_cons] at earlier
          obtain ⟨same, earlier⟩ := List.cons.inj earlier
          rw [List.getLast?_cons_cons, List.getLast?_cons_cons] at last
          -- What is left of an earlier reading is all that its effect on the test depends on.
          have settles : reading.settles onFault settings false =
              other.settles onFault settings false := by
            rw [← settles_blur onFault patient, same, settles_blur onFault patient]
          rw [verdict_cons onFault settings reading, verdict_cons onFault settings other,
            if_neg (List.cons_ne_nil _ _), if_neg (List.cons_ne_nil _ _), ih ⟨earlier, last⟩]
          simp only [List.isEmpty_cons, settles]

/-! ## Running a test -/

namespace Harness

/-- The readings of the commands of a test, with the seconds of the settings in milliseconds. -/
def readings (harness : Harness) (test : TestRun) (runner : Runner) (host : Host) :
    List Reading :=
  TestBench.readings (harness.settings.timeoutSeconds * 1000)
    (harness.mode.commands harness.area runner test) host

/-- A runnable test records what its commands come to. -/
theorem run_runs {harness : Harness} {test : TestRun} (runner : Runner) (host : Host)
    (opened : harness.closed = false) (runnable : test.isRunnable = true) :
    harness.run test runner host =
      let ran := runCommands harness.settings (harness.mode.commands harness.area runner test) []
        (harness.mode.countBuild host)
      (.ok { test with result := some ran.1.1, output := ran.1.2 }, ran.2) := by
  have unset : test.result = none := (TestRun.isRunnable_iff.mp runnable).2
  simp only [run, runnable, opened]
  exact congrArg (·, _) (TestRun.setResult_of_none unset _ _)

theorem readings_countBuild (harness : Harness) (test : TestRun) (runner : Runner) (host : Host) :
    TestBench.readings (timeLimit harness.settings)
      (harness.mode.commands harness.area runner test) (harness.mode.countBuild host) =
        harness.readings test runner host := by
  refine readings_congr ?_ ?_ <;> cases harness.mode <;> rfl

theorem run_eq {harness : Harness} {test : TestRun} (runner : Runner) (host : Host)
    (opened : harness.closed = false) (runnable : test.isRunnable = true) :
    ∃ blocks after,
      harness.run test runner host = (.ok { test with
        result := some (verdict (outcomeOfFault harness.settings) harness.settings
          (harness.readings test runner host)).1
        output := (verdict (outcomeOfFault harness.settings) harness.settings
          (harness.readings test runner host)).2 }, after) ∧
      Leaves host blocks after ∧
      blocks.map Block.command = (harness.mode.commands harness.area runner test).take
        (reached (outcomeOfFault harness.settings) harness.settings
          (harness.readings test runner host)) := by
  have counted := harness.mode.countBuild_leaves host
  obtain ⟨outcome, blocks, leaves, reach⟩ := runCommands_verdict harness.settings
    (harness.mode.commands harness.area runner test) [] (harness.mode.countBuild host)
    (harness.mode.commands_fresh harness.area runner test) fun _ => rfl
  rw [readings_countBuild] at outcome reach
  refine ⟨blocks, _, ?_, counted.trans leaves, reach⟩
  rw [run_runs runner host opened runnable, ← outcome]

/-- The outcome of a fault that is no deadline: an error, with the label and the message of the fault
on one line, and behind it the lines of the same with the qualified label. -/
def faultOutcome (fault : Fault) : Outcome :=
  let full := if fault.message = "" then fault.qualifiedLabel
    else fault.qualifiedLabel ++ ": " ++ fault.message
  (.error, (fault.label ++ ": " ++ fault.message) ::
    (Text.textLines (Fault.dropLineFeeds full.toList)).map String.ofList)

/-- A runnable test gets the outcome that its readings tell: the first command that cannot be
started or read is an error, the first that is late exceeds the timeout, with fail-fast the first
that fails before the last one is a failure, and otherwise the last output is judged. The commands
up to that one are started and no others. Without fail-fast, a host on which earlier commands write
something else or exit otherwise gives the same result. -/
theorem run_verdict (harness : Harness) (test : TestRun) (runner : Runner) (host : Host)
    (opened : harness.closed = false) (runnable : test.isRunnable = true)
    (plain : ∀ reading ∈ harness.readings test runner host, ∀ fault,
      reading.fault? = some fault → fault.isTimeout = false) :
    let found := harness.readings test runner host
    let outcome := verdict faultOutcome harness.settings found
    let started := (harness.mode.commands harness.area runner test).take
      (reached faultOutcome harness.settings found)
    ∃ after,
      harness.run test runner host =
        (.ok { test with result := some outcome.1, output := outcome.2 }, after) ∧
      after.events.filter Event.isStart =
        host.events.filter Event.isStart ++ started.map Command.launch ∧
      (harness.settings.failFast = false → ∀ other,
        Alike found (harness.readings test runner other) →
          (harness.run test runner other).1 = (harness.run test runner host).1) := by
  obtain ⟨blocks, after, ran, leaves, reach⟩ := run_eq runner host opened runnable
  have same : settled (outcomeOfFault harness.settings) harness.settings
      (harness.readings test runner host) =
        settled faultOutcome harness.settings (harness.readings test runner host) :=
    settled_congr fun reading member fault found => by
      simp [outcomeOfFault, faultOutcome, Fault.report, plain reading member fault found]
  refine ⟨after, ?_, ?_, ?_⟩
  · simp only [ran, verdict, same]
  · rw [leaves.starts, reach]
    simp only [reached, same]
  · intro patient other alike
    obtain ⟨-, _, ran', -, -⟩ := run_eq runner other opened runnable
    rw [ran, ran', verdict_alike _ patient alike]

/-! A sample: two commands, of which the first fails and the second passes. -/

/-- A harness whose tests run two commands. -/
def sampleScripted : Harness :=
  .start (.scripted ⟨fun _ _ _ => [(["first"], none), (["second"], none)], fun _ => [],
      fun _ => none, fun _ _ => none⟩)
    ⟨.parse "/work", false, none⟩
    ⟨.parse "/sdk/core.jar", .parse "/runner", [], 10, false, Nat.succ_pos 9⟩ (.recording none none)

/-- A host with both programs. -/
def sampleStage : Host :=
  .fresh ⟨[], some []⟩ 0
    [("first",
        [⟨Text.Utf8.encode "no\n".toList, some 10, 1, some 10, none, none, .natural, false⟩]),
      ("second",
        [⟨Text.Utf8.encode "ok\nAll tests passed!\n".toList, some 20, 0, some 30, none, none,
          .denied, true⟩])]

/-- A test that has been installed. -/
def sampleInstalled : TestRun :=
  Samples.test.withClasspath .empty

theorem run_verdict_sample :
    ∃ after, sampleScripted.run sampleInstalled (.of [] [] .here) sampleStage =
      (.ok { sampleInstalled with result := some .success, output := ["ok"] }, after) := by
  have found : sampleScripted.readings sampleInstalled (.of [] [] .here) sampleStage =
      [.complete (Text.Utf8.encode "no\n".toList) 1,
        .complete (Text.Utf8.encode "ok\nAll tests passed!\n".toList) 0] := by
    decide +kernel
  obtain ⟨after, ran, -⟩ := run_verdict sampleScripted sampleInstalled (.of [] [] .here) sampleStage
    rfl rfl (by simp [found, Reading.fault?])
  have outcome : verdict faultOutcome sampleScripted.settings
      (sampleScripted.readings sampleInstalled (.of [] [] .here) sampleStage) =
        (.success, ["ok"]) := by
    decide +kernel
  rw [outcome] at ran
  exact ⟨after, ran⟩

end Harness

end TestBench
