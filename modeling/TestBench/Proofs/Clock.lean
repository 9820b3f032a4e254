import Mathlib.Data.List.Chain
import TestBench.Proofs.Outcome

/-!
How long a test may take. Each command may take its limit. The wait for a process that was killed
comes on top of that only once, because nothing is started after it.

- `Process.releasedAt_ceases`: a process that dies when it is killed is not waited for,
- `Paced`: processes that are started one after the other, each in its time,
- `runCommands_paced`: so it is with the commands of a test,
- `run_clock`: the clock of a test.
-/
namespace TestBench
set_option autoImplicit false
open Harness (Outcome outcomeOfFault timeLimit runCommands)

/-! ## One process -/

/-- A process dies when it is killed, or it exits in time by itself. -/
def Behaviour.Ceases (behaviour : Behaviour) (limit : Nat) : Prop :=
  (behaviour.stuck = false ∧ behaviour.groupKill ≠ .gone) ∨
    ∃ exit, behaviour.exitsAfter = some exit ∧ exit ≤ limit

namespace Process
variable {process : Process} {moment limit : Nat}

theorem yields_of_killable (mortal : process.behaviour.stuck = false)
    (honest : process.behaviour.groupKill ≠ .gone) : process.Yields moment := by
  refine ⟨mortal, fun gone => ?_⟩
  unfold groupKillAt at gone
  split at gone
  · split at gone
    · next ended =>
      simp only [Bool.and_eq_true] at ended
      exact ended.1
    · cases gone
  · exact absurd gone honest

/-- A kill may only bring an exit forward. -/
theorem exit?_afterGroupKill_le {exit : Nat × Int} (untouched : process.killedAt = none)
    (h : process.exit? = some exit) (moment : Nat) :
    ∃ other, (process.afterGroupKill moment).exit? = some other ∧
      other.1 ≤ max moment exit.1 := by
  have killed : ∃ other, (process.kill moment).exit? = some other ∧
      other.1 ≤ max moment exit.1 := by
    rw [exit?_of_untouched untouched] at h
    rw [exit?_kill_eq untouched, h]
    dsimp only
    split
    · exact ⟨_, rfl, Nat.le_max_right _ _⟩
    · exact ⟨_, rfl, Nat.le_max_left _ _⟩
  have kept : ∃ other, process.exit? = some other ∧ other.1 ≤ max moment exit.1 :=
    ⟨exit, h, Nat.le_max_right _ _⟩
  unfold afterGroupKill
  split
  · exact killed
  · exact kept
  · split
    · exact kept
    · exact killed

theorem releasedAt_ceases (untouched : process.killedAt = none)
    (intime : moment ≤ process.startedAt + limit) (ceases : process.behaviour.Ceases limit) :
    process.releasedAt moment ≤ process.startedAt + limit := by
  rcases ceases with ⟨mortal, honest⟩ | ⟨exit, exits, hle⟩
  · have yields : process.Yields moment := yields_of_killable mortal honest
    rw [releasedAt_of_exited (hasExitedBy_afterGroupKill untouched yields)]
    exact intime
  · have own : process.exit? = some (process.startedAt + exit, process.behaviour.status) := by
      rw [exit?_of_untouched untouched, ownExit?, exits]
      rfl
    obtain ⟨other, h, bound⟩ := exit?_afterGroupKill_le untouched own moment
    have released := releasedAt_le_exit h
    dsimp only at bound
    omega

end Process

/-! ## Processes one after the other -/

/-- Of the processes that are started between two moments, the next one starts when the one before
it is over by itself, within its limit. At most `count` limits pass, and one grace time. -/
structure Paced (limit count start : Nat) (started : List Process) (stop : Nat) : Prop where
  first : ∀ process ∈ started.head?, process.startedAt = start
  next : started.IsChain fun earlier later =>
    ∃ time, earlier.behaviour.span? = some time ∧ time ≤ limit ∧
      later.startedAt = earlier.startedAt + time
  stop_le : stop ≤ start + count * limit + Command.graceTime
  stop_le_of_ceases : (∀ process ∈ started, process.behaviour.Ceases limit) →
    stop ≤ start + count * limit

namespace Paced
variable {limit count start time stop : Nat} {process : Process} {more : List Process}

theorem none (limit count start : Nat) : Paced limit count start [] start where
  first := by simp
  next := .nil
  stop_le := by omega
  stop_le_of_ceases := fun _ => by omega

/-- Nothing is started after a process that is waited for. -/
theorem last (began : process.startedAt = start)
    (waits : stop ≤ start + limit + Command.graceTime)
    (ceases : process.behaviour.Ceases limit → stop ≤ start + limit) :
    Paced limit (count + 1) start [process] stop where
  first := by simpa using began
  next := .singleton process
  stop_le := by
    rw [Nat.add_one_mul]
    omega
  stop_le_of_ceases := fun all => by
    have own := ceases (all process List.mem_cons_self)
    rw [Nat.add_one_mul]
    omega

theorem cons (began : process.startedAt = start) (span : process.behaviour.span? = some time)
    (intime : time ≤ limit) (h : Paced limit count (start + time) more stop) :
    Paced limit (count + 1) start (process :: more) stop where
  first := by simpa using began
  next := by
    cases more with
    | nil => exact .singleton process
    | cons other others =>
      have follows : other.startedAt = start + time := h.first other rfl
      refine .cons_cons ⟨time, span, intime, ?_⟩ h.next
      rw [follows, began]
  stop_le := by
    have rest := h.stop_le
    rw [Nat.add_one_mul]
    omega
  stop_le_of_ceases := fun all => by
    have rest := h.stop_le_of_ceases fun other member => all other (List.mem_cons_of_mem _ member)
    rw [Nat.add_one_mul]
    omega

end Paced

/-! ## One stage -/

namespace Command
variable {command : Command} {timeout : Nat}

theorem stage_paced (fresh : command.IsFresh) (positive : 0 < timeout) (host : Host)
    (count : Nat) :
    ∃ started, (command.stage timeout host).2.processes = host.processes ++ started ∧
      Paced timeout (count + 1) host.now started (command.stage timeout host).2.now := by
  rcases h : host.answer command.arguments command.directory with ⟨fault | behaviour, left⟩
  · rw [stage_refused h]
    exact ⟨[], (List.append_nil _).symm, .none _ _ _⟩
  · obtain ⟨moment, began, intime, after, -⟩ := stage_begun_eq fresh positive h
    rw [after]
    refine ⟨[_], rfl, .last ?_ ?_ ?_⟩
    · rw [Process.afterGroupKill_startedAt]
      rfl
    · have waits := (command.newProcess behaviour host.now).releasedAt_le moment
      dsimp only
      omega
    · intro ceases
      rw [Process.afterGroupKill_behaviour] at ceases
      have untouched : (command.newProcess behaviour host.now).killedAt = none := rfl
      exact Process.releasedAt_ceases untouched intime ceases

/-- The stage of a command that is complete in time takes as long as its process: after the kill
there is nothing to wait for. -/
theorem stage_complete (fresh : command.IsFresh) (positive : 0 < timeout) (host : Host)
    (output : List UInt8) (status : Int)
    (complete : (command.stage timeout host).1 = .complete output status) :
    ∃ process time, (command.stage timeout host).2.processes = host.processes ++ [process] ∧
      process.startedAt = host.now ∧ process.behaviour.span? = some time ∧ time ≤ timeout ∧
      (command.stage timeout host).2.now = host.now + time := by
  rcases h : host.answer command.arguments command.directory with ⟨fault | behaviour, left⟩
  · rw [stage_refused h] at complete
    cases complete
  · obtain ⟨moment, began, intime, after, exits⟩ := stage_begun_eq fresh positive h
    rw [stage_begun h] at complete
    dsimp only at complete
    obtain ⟨time, span, rfl⟩ := exits output status complete
    have untouched : (command.newProcess behaviour host.now).killedAt = none := rfl
    obtain ⟨exit, own, -, hle⟩ := Process.exit?_of_span untouched span
    have kept := Process.exit?_afterGroupKill untouched own hle
    have released := Process.releasedAt_of_exited (Process.hasExitedBy_iff.mpr ⟨exit, kept, hle⟩)
    rw [after]
    refine ⟨_, time, rfl, ?_, ?_, by omega, released⟩
    · rw [Process.afterGroupKill_startedAt]
      rfl
    · rw [Process.afterGroupKill_behaviour]
      exact span

end Command

/-! ## The commands of a test -/

theorem runCommands_paced (settings : Settings) (commands : List Command) (output : List String)
    (host : Host) (fresh : ∀ command ∈ commands, command.IsFresh) :
    ∃ started,
      (runCommands settings commands output host).2.processes = host.processes ++ started ∧
      Paced (timeLimit settings) commands.length host.now started
        (runCommands settings commands output host).2.now := by
  induction commands generalizing output host with
  | nil => exact ⟨[], (List.append_nil _).symm, .none _ _ _⟩
  | cons command rest ih =>
    have new : command.IsFresh := fresh command List.mem_cons_self
    have positive := timeLimit_pos settings
    have only := Command.stage_paced new positive host rest.length
    have complete := Command.stage_complete new positive host
    rw [runCommands_cons settings rest output host new, List.length_cons]
    generalize command.stage (timeLimit settings) host = stage at only complete
    obtain ⟨reading, middle⟩ := stage
    dsimp only
    cases settles : reading.settles (outcomeOfFault settings) settings rest.isEmpty with
    | some outcome => exact only
    | none =>
      obtain ⟨bytes, code, found⟩ := settles_none _ _ settles
      obtain ⟨process, time, own, began, span, intime, now⟩ := complete bytes code found
      obtain ⟨started, more, paced⟩ := ih reading.lines middle fun other member =>
        fresh other (List.mem_cons_of_mem _ member)
      dsimp only at own now
      rw [now] at paced
      refine ⟨process :: started, ?_, .cons began span intime paced⟩
      dsimp only
      rw [more, own, List.append_assoc, List.singleton_append]

/-! ## The clock of a test -/

/-- Running a test takes at most the limit for each of its commands and the grace time once, and not
even this if every process that is started ceases. A command is started at the very moment at which
the one before it is over by itself, so only the last one that is started can use the grace time. -/
theorem Harness.run_clock (harness : Harness) (test : TestRun) (runner : Runner) (host : Host) :
    let limit := timeLimit harness.settings
    let count := (harness.mode.commands harness.area runner test).length
    let after := (harness.run test runner host).2
    let started := after.processes.drop host.processes.length
    after.now ≤ host.now + count * limit + Command.graceTime ∧
      ((∀ process ∈ started, process.behaviour.Ceases limit) →
        after.now ≤ host.now + count * limit) ∧
      started.IsChain fun earlier later =>
        ∃ time, earlier.behaviour.span? = some time ∧ time ≤ limit ∧
          later.startedAt = earlier.startedAt + time := by
  have idle : ∃ started, host.processes = host.processes ++ started ∧
      Paced (timeLimit harness.settings)
        (harness.mode.commands harness.area runner test).length host.now started host.now :=
    ⟨[], (List.append_nil _).symm, .none _ _ _⟩
  have paced : ∃ started, (harness.run test runner host).2.processes =
        host.processes ++ started ∧
      Paced (timeLimit harness.settings)
        (harness.mode.commands harness.area runner test).length host.now started
        (harness.run test runner host).2.now := by
    simp only [run]
    split
    · exact idle
    · split
      · exact idle
      · have counted : (harness.mode.countBuild host).processes = host.processes ∧
            (harness.mode.countBuild host).now = host.now := by
          cases harness.mode <;> exact ⟨rfl, rfl⟩
        have ran := runCommands_paced harness.settings
          (harness.mode.commands harness.area runner test) [] (harness.mode.countBuild host)
          (harness.mode.commands_fresh harness.area runner test)
        rw [counted.1, counted.2] at ran
        exact ran
  obtain ⟨started, processes, paced⟩ := paced
  dsimp only
  rw [processes, List.drop_left]
  exact ⟨paced.stop_le, paced.stop_le_of_ceases, paced.next⟩

end TestBench
