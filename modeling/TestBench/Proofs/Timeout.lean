import TestBench.Proofs.Outcome

/-!
Which tests exceed their timeout. A test does if one of its commands is late, and also if the system
itself reports a timeout when a command is started or read: the two are recorded alike.

- `reading_late_iff`: which processes are late,
- `verdict_timeout_iff` and `verdict_fault`: what the readings of a test make of late commands and
  of faults,
- `runCommands_processes`: the processes of a test are those of the readings that it comes to,
- `run_timeout`: the result of a test.
-/
namespace TestBench
set_option autoImplicit false
open Harness (Outcome outcomeOfFault timeLimit runCommands)

/-! ## Late processes -/

/-- The output of a process can be read under a deadline, but the process has not exited and closed
it in time. -/
def Behaviour.IsLate (behaviour : Behaviour) (timeout : Nat) : Prop :=
  timeout < Command.timeoutBound ∧ behaviour.readFault = none ∧
    ∀ time, behaviour.span? = some time → timeout < time

theorem reading_late_iff {behaviour : Behaviour} {timeout : Nat} :
    behaviour.reading timeout = .late ↔ behaviour.IsLate timeout := by
  unfold Behaviour.reading Behaviour.IsLate Behaviour.span?
  by_cases measurable : timeout < Command.timeoutBound
  · rw [if_neg (Nat.not_le.mpr measurable)]
    cases behaviour.readFault with
    | some fault => simp
    | none =>
      cases behaviour.exitsAfter with
      | none => simp [measurable]
      | some exit =>
        cases behaviour.closesAfter with
        | none => simp [measurable]
        | some close =>
          have overdue : ¬(exit ≤ timeout ∧ close ≤ timeout) ↔ timeout < max exit close := by
            omega
          simp [measurable, ← overdue]
  · rw [if_pos (Nat.not_lt.mp measurable)]
    simp [measurable]

/-! ## Readings -/

namespace Reading

/-- Whether there was a process to be read. -/
def isStarted : Reading → Bool
  | refused _ => false
  | _ => true

/-- A timeout, or a fault that is taken for one. -/
def IsTimeout (reading : Reading) : Prop :=
  reading = late ∨ ∃ fault, reading.fault? = some fault ∧ fault.isTimeout = true

end Reading

theorem reading_isStarted (behaviour : Behaviour) (timeout : Nat) :
    (behaviour.reading timeout).isStarted = true := by
  unfold Behaviour.reading
  split
  · rfl
  · split
    · rfl
    · split <;> rfl
    · rfl

section Verdicts
variable {settings : Settings} {readings : List Reading} {reading : Reading}

theorem outcomeOfFault_timeout {fault : Fault} :
    (outcomeOfFault settings fault).1 = .execTimeout ↔ fault.isTimeout = true := by
  unfold outcomeOfFault
  split <;> simp_all

theorem told_ne_timeout (lines : List String) : (told lines).1 ≠ .execTimeout := by
  unfold told
  split
  · simp
  · split <;> simp

theorem settles_timeout {isLast : Bool} {outcome : Outcome}
    (h : reading.settles (outcomeOfFault settings) settings isLast = some outcome) :
    outcome.1 = .execTimeout ↔ reading.IsTimeout := by
  cases reading with
  | refused fault =>
    cases h
    rw [outcomeOfFault_timeout]
    simp [Reading.IsTimeout, Reading.fault?]
  | unreadable fault =>
    cases h
    rw [outcomeOfFault_timeout]
    simp [Reading.IsTimeout, Reading.fault?]
  | late =>
    cases h
    simp [Reading.IsTimeout]
  | complete output status =>
    simp only [Reading.settles] at h
    split at h
    · cases h
      simp [Reading.IsTimeout, Reading.fault?]
    · cases h

/-- A test exceeds its timeout exactly if one of the readings that it comes to is a timeout. -/
theorem verdict_timeout_iff (settings : Settings) (readings : List Reading) :
    (verdict (outcomeOfFault settings) settings readings).1 = .execTimeout ↔
      ∃ reading ∈ readings.take (reached (outcomeOfFault settings) settings readings),
        reading.IsTimeout := by
  induction readings with
  | nil => simp [verdict, settled, told_ne_timeout]
  | cons reading rest ih =>
    rw [verdict_cons, reached_cons]
    cases h : reading.settles (outcomeOfFault settings) settings rest.isEmpty with
    | some outcome =>
      have own := settles_timeout h
      simp [own]
    | none =>
      obtain ⟨output, status, rfl⟩ := settles_none _ _ h
      have plain : ¬(Reading.complete output status).IsTimeout := by
        simp [Reading.IsTimeout, Reading.fault?]
      cases rest with
      | nil => simp [told_ne_timeout, plain]
      | cons next others =>
        rw [if_neg (List.cons_ne_nil next others), ih]
        simp [plain]

/-- The first fault that a test meets decides it. -/
theorem verdict_fault {onFault : Fault → Outcome} {fault : Fault}
    (member : reading ∈ readings.take (reached onFault settings readings))
    (found : reading.fault? = some fault) : verdict onFault settings readings = onFault fault := by
  induction readings with
  | nil => simp at member
  | cons first rest ih =>
    rw [reached_cons] at member
    rw [verdict_cons]
    cases h : first.settles onFault settings rest.isEmpty with
    | some outcome =>
      rw [h] at member
      have own : reading = first := by simpa using member
      subst own
      cases reading with
      | refused other => cases found; cases h; rfl
      | unreadable other => cases found; cases h; rfl
      | late => cases found
      | complete output status => cases found
    | none =>
      obtain ⟨output, status, rfl⟩ := settles_none _ _ h
      simp only [h, List.take_succ_cons, List.mem_cons] at member
      rcases member with rfl | later
      · cases found
      · have more : rest ≠ [] := by
          intro empty
          simp [empty] at later
        simp only [if_neg more]
        exact ih later

end Verdicts

/-! ## Processes -/

theorem Command.stage_processes {command : Command} {timeout : Nat} (fresh : command.IsFresh)
    (positive : 0 < timeout) (host : Host) :
    ∃ started, (command.stage timeout host).2.processes = host.processes ++ started ∧
      started.map (fun process => process.behaviour.reading timeout) =
        [(command.stage timeout host).1].filter Reading.isStarted := by
  rcases h : host.answer command.arguments command.directory with ⟨fault | behaviour, left⟩
  · rw [stage_refused h]
    exact ⟨[], (List.append_nil _).symm, rfl⟩
  · obtain ⟨moment, -, -, after, -⟩ := stage_begun_eq fresh positive h
    refine ⟨[(command.newProcess behaviour host.now).afterGroupKill moment], ?_, ?_⟩
    · rw [after]
    · rw [stage_begun h]
      simp [reading_isStarted, newProcess]

/-- The processes that the commands of a test leave are those of the readings that the test comes
to, in order. -/
theorem runCommands_processes (settings : Settings) (commands : List Command)
    (output : List String) (host : Host) (fresh : ∀ command ∈ commands, command.IsFresh) :
    ∃ started, (runCommands settings commands output host).2.processes =
        host.processes ++ started ∧
      started.map (fun process => process.behaviour.reading (timeLimit settings)) =
        ((readings (timeLimit settings) commands host).take
          (reached (outcomeOfFault settings) settings
            (readings (timeLimit settings) commands host))).filter Reading.isStarted := by
  induction commands generalizing output host with
  | nil => exact ⟨[], (List.append_nil _).symm, rfl⟩
  | cons command rest ih =>
    have new : command.IsFresh := fresh command List.mem_cons_self
    have positive := timeLimit_pos settings
    obtain ⟨own, processes, told⟩ := Command.stage_processes new positive host
    rw [runCommands_cons settings rest output host new, readings_cons new positive]
    dsimp only
    rw [reached_cons, readings_isEmpty]
    generalize command.stage (timeLimit settings) host = stage at processes told
    obtain ⟨reading, middle⟩ := stage
    cases reading.settles (outcomeOfFault settings) settings rest.isEmpty with
    | some outcome => exact ⟨own, processes, by simpa using told⟩
    | none =>
      obtain ⟨others, more, told'⟩ := ih reading.lines middle fun other member =>
        fresh other (List.mem_cons_of_mem _ member)
      refine ⟨own ++ others, ?_, ?_⟩
      · dsimp only at processes ⊢
        rw [more, processes, List.append_assoc]
      · rw [List.map_append, told, told', List.take_succ_cons, ← List.filter_append]
        rfl

/-! ## The result -/

namespace Harness

/-- The readings that a test comes to: those up to the one that ends it. -/
def readingsMet (harness : Harness) (test : TestRun) (runner : Runner) (host : Host) :
    List Reading :=
  (harness.readings test runner host).take
    (reached (outcomeOfFault harness.settings) harness.settings (harness.readings test runner host))

/-- A runnable test exceeds its timeout if a process that was started for it is late, or if a start
or a read met a timeout of the system. Any other fault of a start or a read is its result. -/
theorem run_timeout (harness : Harness) (test : TestRun) (runner : Runner) (host : Host)
    (opened : harness.closed = false) (runnable : test.isRunnable = true) :
    let met := harness.readingsMet test runner host
    ∃ done after,
      harness.run test runner host = (.ok done, after) ∧
      (done.result = some .execTimeout ↔
        (∃ process ∈ after.processes.drop host.processes.length,
          process.behaviour.IsLate (timeLimit harness.settings)) ∨
        ∃ reading ∈ met, ∃ fault, reading.fault? = some fault ∧ fault.isTimeout = true) ∧
      ∀ reading ∈ met, ∀ fault, reading.fault? = some fault → fault.isTimeout = false →
        done.result = some .error ∧ done.output = fault.report := by
  have fresh := harness.mode.commands_fresh harness.area runner test
  have counted : (harness.mode.countBuild host).processes = host.processes := by
    cases harness.mode <;> rfl
  obtain ⟨outcome, -⟩ := runCommands_verdict harness.settings
    (harness.mode.commands harness.area runner test) [] (harness.mode.countBuild host) fresh
    fun _ => rfl
  obtain ⟨started, processes, told⟩ := runCommands_processes harness.settings
    (harness.mode.commands harness.area runner test) [] (harness.mode.countBuild host) fresh
  rw [readings_countBuild] at outcome told
  refine ⟨_, _, run_runs runner host opened runnable, ?_, ?_⟩
  · -- A process is late exactly if the reading of its command is.
    have late : (∃ process ∈ started, process.behaviour.IsLate (timeLimit harness.settings)) ↔
        Reading.late ∈ harness.readingsMet test runner host := by
      have listed : Reading.late ∈ (harness.readingsMet test runner host).filter
          Reading.isStarted ↔ Reading.late ∈ harness.readingsMet test runner host := by
        simp [Reading.isStarted]
      rw [← listed, readingsMet, ← told, List.mem_map]
      simp only [reading_late_iff]
    have result := verdict_timeout_iff harness.settings (harness.readings test runner host)
    rw [counted] at processes
    rw [processes, List.drop_left, late]
    dsimp only
    rw [outcome, Option.some_inj, result]
    simp only [Reading.IsTimeout, readingsMet]
    constructor
    · rintro ⟨reading, member, rfl | ⟨fault, found, timeout⟩⟩
      · exact .inl member
      · exact .inr ⟨reading, member, fault, found, timeout⟩
    · rintro (member | ⟨reading, member, fault, found, timeout⟩)
      · exact ⟨_, member, .inl rfl⟩
      · exact ⟨reading, member, .inr ⟨fault, found, timeout⟩⟩
  · intro reading member fault found plain
    have same := verdict_fault member found
    dsimp only
    rw [outcome, same, outcomeOfFault, plain]
    exact ⟨rfl, rfl⟩

/-- A host on which the second program of a test breaks its output off. -/
def sampleBroken : Host :=
  .fresh ⟨[], some []⟩ 0
    [("first", [⟨[], some 10, 1, some 10, none, none, .natural, false⟩]),
      ("second",
        [⟨[], none, 0, none, none, some (.system .brokenPipe .silent), .natural, false⟩])]

theorem run_timeout_sample :
    ∃ done after, sampleScripted.run sampleInstalled (.of [] [] .here) sampleBroken =
        (.ok done, after) ∧
      done.result = some .error ∧ done.output = (Fault.system .brokenPipe .silent).report := by
  have met : Reading.unreadable (.system .brokenPipe .silent) ∈
      sampleScripted.readingsMet sampleInstalled (.of [] [] .here) sampleBroken := by
    decide +kernel
  obtain ⟨done, after, ran, -, faults⟩ :=
    run_timeout sampleScripted sampleInstalled (.of [] [] .here) sampleBroken rfl rfl
  obtain ⟨result, output⟩ := faults _ met _ rfl rfl
  exact ⟨done, after, ran, result, output⟩

/-- A host that cannot reach the first program of a test. -/
def sampleUnreachable : Host :=
  .fresh ⟨[], some []⟩ 0
    [("first", [⟨[], some 10, 0, some 10,
      some (.system .timedOut (.numbered 110 "Connection timed out" none)), none, .natural,
      false⟩])]

/-- A program that could not be started is recorded as one that ran too long. -/
theorem run_unstarted_timeout :
    ∃ done after, sampleScripted.run sampleInstalled (.of [] [] .here) sampleUnreachable =
        (.ok done, after) ∧
      done.result = some .execTimeout ∧ done.output = ["Exceeded timeout! (10s)"] ∧
      after.processes = [] ∧ after.now = 0 := by
  exact ⟨_, _, rfl, by decide +kernel⟩

end Harness

end TestBench
