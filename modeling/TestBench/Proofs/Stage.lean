import TestBench.Proofs.Reading
import TestBench.Proofs.Trace

/-!
The stage of one command in the run of a test: it is started, read under the deadline and
terminated.

- `Command.stage`: its reading, and the host afterwards,
- `stage_leaves` and `stage_keeps`: what a stage records, and what it leaves alone,
- `stage_begun_eq`: the process of a stage, and the moment at which the stage is over,
- `readings_cons`: the readings of commands are those of their stages.
-/
namespace TestBench
set_option autoImplicit false

namespace Command

/-- The reading of a command under a deadline, and the host after the command was terminated. -/
def stage (command : Command) (timeout : Nat) (host : Host) : Reading × Host :=
  match host.answer command.arguments command.directory with
  | (.error fault, left) => (.refused fault, command.refusedHost host left)
  | (.ok behaviour, left) =>
    let started := command.withProcess host.processes.length
    (behaviour.reading timeout,
      (started.terminate (started.read timeout (command.begunHost host behaviour left)).2).2)

section Stage
variable {command : Command} {timeout : Nat} {host : Host} {fault : Fault} {behaviour : Behaviour}
  {left : List (String × List Behaviour)}

theorem stage_refused
    (h : host.answer command.arguments command.directory = (.error fault, left)) :
    command.stage timeout host = (.refused fault, command.refusedHost host left) := by
  simp only [stage, h]

theorem stage_begun
    (h : host.answer command.arguments command.directory = (.ok behaviour, left)) :
    command.stage timeout host = (behaviour.reading timeout,
      ((command.withProcess host.processes.length).terminate
        ((command.withProcess host.processes.length).read timeout
          (command.begunHost host behaviour left)).2).2) := by
  simp only [stage, h]

theorem stage_reading (command : Command) (timeout : Nat) (host : Host) :
    (command.stage timeout host).1 =
      readingOf timeout (host.answer command.arguments command.directory).1 := by
  rcases h : host.answer command.arguments command.directory with ⟨fault | behaviour, left⟩
  · simp only [stage_refused h, readingOf]
  · simp only [stage_begun h, readingOf]

/-- The process of a stage that began: it is killed after at most the time that it has, and the
stage is over when the wait for it is. A complete process is killed as soon as it is over. -/
theorem stage_begun_eq (fresh : command.IsFresh) (positive : 0 < timeout)
    (h : host.answer command.arguments command.directory = (.ok behaviour, left)) :
    ∃ moment, host.now ≤ moment ∧ moment ≤ host.now + timeout ∧
      (command.stage timeout host).2 = { host with
        programs := left
        events := host.events ++
          (Block.ended command behaviour host.now moment).events
        processes := host.processes ++
          [(command.newProcess behaviour host.now).afterGroupKill moment]
        now := (command.newProcess behaviour host.now).releasedAt moment } ∧
      ∀ output status, behaviour.reading timeout = .complete output status →
        ∃ time, behaviour.span? = some time ∧ moment = host.now + time := by
  have last : (command.begunHost host behaviour left).processes =
      host.processes ++ [command.newProcess behaviour host.now] := rfl
  have live : (command.withProcess host.processes.length).terminated = false := fresh.2
  have intime := (command.withProcess host.processes.length).read_now_le timeout
    (command.begunHost host behaviour left)
  obtain ⟨moment, waited⟩ := (command.withProcess host.processes.length).read_waits timeout
    (command.begunHost host behaviour left)
  rw [stage_begun h, waited]
  rw [waited] at intime
  refine ⟨max host.now moment, Nat.le_max_left _ _, intime, ?_, ?_⟩
  · have still : ((command.begunHost host behaviour left).waitUntil moment).processes =
        host.processes ++ [command.newProcess behaviour host.now] := last
    rw [terminate_eq still rfl live]
    simp [Host.waitUntil, begunHost, Host.record, Block.events]
  · intro output status complete
    have number : (command.withProcess host.processes.length).process =
        some host.processes.length := rfl
    have untouched : (command.newProcess behaviour host.now).killedAt = none := rfl
    have now : (command.newProcess behaviour host.now).startedAt =
        (command.begunHost host behaviour left).now := rfl
    obtain ⟨time, span, till⟩ := read_complete last number untouched now positive complete
    rw [waited] at till
    have same : max host.now moment = max host.now (host.now + time) := congrArg Host.now till
    refine ⟨time, span, ?_⟩
    omega

/-- A stage leaves the block of its command. -/
theorem stage_leaves (fresh : command.IsFresh) (positive : 0 < timeout) (host : Host) :
    ∃ block, block.command = command ∧ Leaves host [block] (command.stage timeout host).2 := by
  rcases h : host.answer command.arguments command.directory with ⟨fault | behaviour, left⟩
  · have refused := start_refused_leaves fresh h
    rw [start_refused fresh h] at refused
    rw [stage_refused h]
    exact ⟨_, rfl, refused⟩
  · obtain ⟨moment, began, -, after, -⟩ := stage_begun_eq fresh positive h
    have remain := host.answer_remain command.arguments command.directory
    rw [h] at remain
    rw [after]
    refine ⟨.ended command behaviour host.now moment, rfl, ?_⟩
    constructor
    · simp
    · simp [Block.processes]
    · exact ⟨Nat.le_refl _, began, Process.le_releasedAt _ _⟩
    · exact remain

theorem stage_keeps (fresh : command.IsFresh) (positive : 0 < timeout) (host : Host) :
    (command.stage timeout host).2.disk = host.disk ∧
      (command.stage timeout host).2.programs =
        (host.answer command.arguments command.directory).2 := by
  rcases h : host.answer command.arguments command.directory with ⟨fault | behaviour, left⟩
  · rw [stage_refused h]
    exact ⟨rfl, rfl⟩
  · obtain ⟨moment, -, -, after, -⟩ := stage_begun_eq fresh positive h
    rw [after]
    exact ⟨rfl, rfl⟩

end Stage
end Command

/-! ## Readings, stage by stage -/

theorem readings_isEmpty (timeout : Nat) (commands : List Command) (host : Host) :
    (readings timeout commands host).isEmpty = commands.isEmpty := by
  cases commands <;> rfl

/-- What comes after a stage is read on the host that the stage leaves. -/
theorem readings_cons {command : Command} {timeout : Nat} (fresh : command.IsFresh)
    (positive : 0 < timeout) (rest : List Command) (host : Host) :
    readings timeout (command :: rest) host =
      (command.stage timeout host).1 :: readings timeout rest (command.stage timeout host).2 := by
  obtain ⟨disk, programs⟩ := Command.stage_keeps fresh positive host
  have same : readings timeout rest (command.stage timeout host).2 = readings timeout rest
      { host with programs := (host.answer command.arguments command.directory).2 } :=
    readings_congr disk programs
  rw [same, Command.stage_reading]
  rfl

end TestBench
