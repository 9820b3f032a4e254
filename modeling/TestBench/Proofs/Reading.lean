import TestBench.Harness
import TestBench.Proofs.Command

/-!
Readings: what there is to be read of a command under a deadline, said without a clock.

- `Behaviour.reading`: from the behaviour of its process alone,
- `Behaviour.span?`: how long the process takes,
- `readings`: for commands one after the other, each with the behaviour that it would be given,
- `read_reading` and `status?_reading`: what `Command.read` gives, and the status after the kill.
-/
namespace TestBench
set_option autoImplicit false

/-- What there is to be read of a command: it could not be started, its output could not be read, it
was not complete in time, or it is all there together with the exit status. -/
inductive Reading where
  | refused (fault : Fault)
  | unreadable (fault : Fault)
  | late
  | complete (output : List UInt8) (status : Int)
deriving DecidableEq

namespace Reading

/-- The fault of a start or of a read. -/
def fault? : Reading → Option Fault
  | refused fault => some fault
  | unreadable fault => some fault
  | late => none
  | complete _ _ => none

/-- The lines that were read. -/
def lines : Reading → List String
  | complete output _ => Text.outputLines output
  | _ => []

/-- A reading without what a complete one says. -/
def blur : Reading → Reading
  | complete _ _ => complete [] 0
  | other => other

/-- What reading the output comes to. -/
def result : Reading → Except Fault (List String)
  | refused fault => .error fault
  | unreadable fault => .error fault
  | late => .error .deadline
  | complete output _ => .ok (Text.outputLines output)

end Reading

/-- The reading of a process under a deadline. A deadline that cannot be measured is a fault of the
read. -/
def Behaviour.reading (behaviour : Behaviour) (timeout : Nat) : Reading :=
  if Command.timeoutBound ≤ timeout then .unreadable Command.unmeasurable
  else match behaviour.readFault, behaviour.exitsAfter, behaviour.closesAfter with
    | some fault, _, _ => .unreadable fault
    | none, some exit, some close =>
      if exit ≤ timeout ∧ close ≤ timeout then .complete behaviour.output behaviour.status
      else .late
    | none, _, _ => .late

theorem reading_complete {behaviour : Behaviour} {timeout : Nat} {output : List UInt8}
    {status : Int} (h : behaviour.reading timeout = .complete output status) :
    timeout < Command.timeoutBound ∧ behaviour.readFault = none ∧ status = behaviour.status ∧
      ∃ exit close, behaviour.exitsAfter = some exit ∧ behaviour.closesAfter = some close ∧
        exit ≤ timeout ∧ close ≤ timeout := by
  unfold Behaviour.reading at h
  split at h
  · cases h
  · next measurable =>
    split at h
    · cases h
    · next exit close hindered exits closes =>
      split at h
      · next inside =>
        cases h
        exact ⟨Nat.lt_of_not_le measurable, hindered, rfl, exit, close, exits, closes, inside⟩
      · cases h
    · cases h

/-- How long a process takes to exit and to close its output when nobody interferes. -/
def Behaviour.span? (behaviour : Behaviour) : Option Nat :=
  match behaviour.exitsAfter, behaviour.closesAfter with
  | some exit, some close => some (max exit close)
  | _, _ => none

theorem Process.exit?_of_span {process : Process} {time : Nat}
    (untouched : process.killedAt = none) (h : process.behaviour.span? = some time) :
    ∃ exit, process.exit? = some exit ∧ exit.2 = process.behaviour.status ∧
      exit.1 ≤ process.startedAt + time := by
  unfold Behaviour.span? at h
  split at h
  · next exit close exits closes =>
    cases h
    refine ⟨(process.startedAt + exit, process.behaviour.status), ?_, rfl, ?_⟩
    · rw [exit?_of_untouched untouched, ownExit?, exits]
      rfl
    · dsimp only
      omega
  · cases h

/-- The reading of what a start comes to. -/
def readingOf (timeout : Nat) : Except Fault Behaviour → Reading
  | .error fault => .refused fault
  | .ok behaviour => behaviour.reading timeout

/-- The readings of commands that are started one after the other. -/
def readings (timeout : Nat) : List Command → Host → List Reading
  | [], _ => []
  | command :: rest, host =>
    let (answer, left) := host.answer command.arguments command.directory
    readingOf timeout answer :: readings timeout rest { host with programs := left }

/-- Readings depend on the disk and on the behaviours that are left. -/
theorem readings_congr {timeout : Nat} {commands : List Command} {first second : Host}
    (disk : first.disk = second.disk) (programs : first.programs = second.programs) :
    readings timeout commands first = readings timeout commands second := by
  induction commands generalizing first second with
  | nil => rfl
  | cons command rest ih =>
    have same := Host.answer_congr disk programs
    simp only [readings, same]
    exact congrArg _ (ih disk rfl)

namespace Command
variable {command : Command} {host : Host} {earlier : List Process} {process : Process}
  {timeout : Nat}

theorem complete?_untouched (untouched : process.killedAt = none) :
    process.complete? process.startedAt =
      match process.behaviour.exitsAfter, process.behaviour.closesAfter with
      | some exit, some close => some (process.startedAt + max exit close)
      | _, _ => none := by
  unfold Process.complete? Process.close? Process.exit? Process.ownExit?
  rw [untouched]
  cases process.behaviour.exitsAfter with
  | none => cases process.behaviour.closesAfter <;> rfl
  | some exit =>
    cases process.behaviour.closesAfter with
    | none => rfl
    | some close =>
      have moment :
          max process.startedAt (max (process.startedAt + close) (process.startedAt + exit)) =
            process.startedAt + max exit close := by
        omega
      exact congrArg some moment

theorem read_reading (last : host.processes = earlier ++ [process])
    (number : command.process = some earlier.length) (untouched : process.killedAt = none)
    (now : process.startedAt = host.now) (positive : 0 < timeout) :
    (command.read timeout host).1 = (process.behaviour.reading timeout).result := by
  unfold read Behaviour.reading
  rw [if_neg (Nat.pos_iff_ne_zero.mp positive), outcome_eq last number, ← now,
    complete?_untouched untouched]
  split
  · rfl
  · cases process.behaviour.readFault with
    | some fault => simp [Reading.result]
    | none =>
      cases process.behaviour.exitsAfter with
      | none => rfl
      | some exit =>
        cases process.behaviour.closesAfter with
        | none => rfl
        | some close =>
          by_cases inside : exit ≤ timeout ∧ close ≤ timeout
          · have intime : process.startedAt + max exit close ≤ process.startedAt + timeout := by
              omega
            simp [inside, intime, Reading.result]
          · have overdue : ¬process.startedAt + max exit close ≤ process.startedAt + timeout := by
              omega
            simp [inside, overdue, Reading.result]

/-- Reading a complete process takes just as long as the process does. -/
theorem read_complete (last : host.processes = earlier ++ [process])
    (number : command.process = some earlier.length) (untouched : process.killedAt = none)
    (now : process.startedAt = host.now) (positive : 0 < timeout) {output : List UInt8}
    {status : Int} (h : process.behaviour.reading timeout = .complete output status) :
    ∃ time, process.behaviour.span? = some time ∧
      (command.read timeout host).2 = host.waitUntil (process.startedAt + time) := by
  obtain ⟨measurable, unhindered, -, exit, close, exits, closes, inside⟩ := reading_complete h
  have intime : process.startedAt + max exit close ≤ process.startedAt + timeout := by omega
  refine ⟨max exit close, by simp [Behaviour.span?, exits, closes], ?_⟩
  unfold read
  rw [if_neg (Nat.pos_iff_ne_zero.mp positive), if_neg (Nat.not_le.mpr measurable),
    outcome_eq last number, ← now, complete?_untouched untouched, unhindered, exits, closes]
  simp [intime]

/-- A command that was read completely has exited with the status of its process, whatever the kill
does afterwards. -/
theorem status?_reading (last : host.processes = earlier ++ [process])
    (number : command.process = some earlier.length) (live : command.terminated = false)
    (untouched : process.killedAt = none) (now : process.startedAt = host.now)
    (positive : 0 < timeout) {output : List UInt8} {status : Int}
    (h : process.behaviour.reading timeout = .complete output status) :
    (command.terminate (command.read timeout host).2).1.status?
      (command.terminate (command.read timeout host).2).2 = some status := by
  obtain ⟨-, -, rfl, -⟩ := reading_complete h
  obtain ⟨time, span, waited⟩ := read_complete last number untouched now positive h
  obtain ⟨exit, own, same, hle⟩ := Process.exit?_of_span untouched span
  rw [waited, ← same]
  have still : (host.waitUntil (process.startedAt + time)).processes = earlier ++ [process] := last
  have exited : exit.1 ≤ (host.waitUntil (process.startedAt + time)).now := by
    simp only [Host.waitUntil]
    omega
  exact status?_terminate still number live untouched own exited

/-! ## A command that has begun -/

theorem begun_result {behaviour : Behaviour} (host : Host) (left : List (String × List Behaviour))
    (positive : 0 < timeout) :
    ((command.withProcess host.processes.length).read timeout
      (command.begunHost host behaviour left)).1 = (behaviour.reading timeout).result := by
  have last : (command.begunHost host behaviour left).processes =
      host.processes ++ [command.newProcess behaviour host.now] := rfl
  have number : (command.withProcess host.processes.length).process =
      some host.processes.length := rfl
  have untouched : (command.newProcess behaviour host.now).killedAt = none := rfl
  have now : (command.newProcess behaviour host.now).startedAt =
      (command.begunHost host behaviour left).now := rfl
  have told := read_reading last number untouched now positive
  dsimp only [newProcess] at told
  exact told

theorem begun_status {behaviour : Behaviour} (fresh : command.IsFresh) (host : Host)
    (left : List (String × List Behaviour)) (positive : 0 < timeout) {output : List UInt8}
    {status : Int} (h : behaviour.reading timeout = .complete output status) :
    ((command.withProcess host.processes.length).terminate
        ((command.withProcess host.processes.length).read timeout
          (command.begunHost host behaviour left)).2).1.status?
      ((command.withProcess host.processes.length).terminate
        ((command.withProcess host.processes.length).read timeout
          (command.begunHost host behaviour left)).2).2 = some status := by
  have last : (command.begunHost host behaviour left).processes =
      host.processes ++ [command.newProcess behaviour host.now] := rfl
  have number : (command.withProcess host.processes.length).process =
      some host.processes.length := rfl
  have live : (command.withProcess host.processes.length).terminated = false := fresh.2
  have untouched : (command.newProcess behaviour host.now).killedAt = none := rfl
  have now : (command.newProcess behaviour host.now).startedAt =
      (command.begunHost host behaviour left).now := rfl
  exact status?_reading last number live untouched now positive h

end Command
end TestBench
