import Mathlib.Data.List.Basic
import TestBench.Host

/-!
The end of a process whose group is killed once:

- `killEvents` and `afterGroupKill`: what is recorded, and what becomes of the process,
- `exit?_afterGroupKill`: a kill that comes after the exit changes neither its moment nor its
  status,
- `hasExitedBy_afterGroupKill`: a process that yields to the kill has exited at that moment,
- `Signals.events`, `Signals.afterKill` and `Signals.refusal?`: the same on a system that may refuse.
-/
namespace TestBench
set_option autoImplicit false

namespace Process

/-- Whether the process runs at a moment. -/
def isAliveAt (process : Process) (moment : Nat) : Bool :=
  process.startedAt ≤ moment && !process.hasExitedBy moment

/-- Two processes never run at the same time. -/
def Apart (first second : Process) : Prop :=
  ∀ moment, ¬(first.isAliveAt moment = true ∧ second.isAliveAt moment = true)

/-- What is recorded when the group of the process is killed: one kill of the group, and one of the
process alone if the group refuses and the process still runs. -/
def killEvents (process : Process) (now : Nat) : List Event :=
  .killGroup process.program (process.groupKillAt now) ::
    if process.groupKillAt now = .denied ∧ process.hasExitedBy now = false then
      [.killProcess process.program]
    else []

/-- The process after its group was killed. -/
def afterGroupKill (process : Process) (now : Nat) : Process :=
  match process.groupKillAt now with
  | .natural => process.kill now
  | .gone => process
  | .denied => if process.hasExitedBy now then process else process.kill now

/-- The process dies when it is killed, and its group is not reported gone while it runs. -/
def Yields (process : Process) (now : Nat) : Prop :=
  process.behaviour.stuck = false ∧
    (process.groupKillAt now = .gone → process.hasExitedBy now = true)

end Process

namespace Signals

/-- What is recorded when a process is killed with its group: one kill of the group, and one of the
process alone if the group refuses and the process still runs. -/
def events (signals : Signals) (process : Process) (now : Nat) : List Event :=
  .killGroup process.program (signals.group process now) ::
    if signals.group process now = .denied ∧ process.hasExitedBy now = false then
      [.killProcess process.program]
    else []

/-- The fault of a process that cannot be killed: its group refuses, it still runs, and it refuses
to be killed alone. -/
def refusal? (signals : Signals) (process : Process) (now : Nat) : Option Fault :=
  if signals.group process now = .denied ∧ process.hasExitedBy now = false then
    signals.single process now
  else none

/-- The process after it was killed with its group. -/
def afterKill (signals : Signals) (process : Process) (now : Nat) : Process :=
  match signals.group process now with
  | .natural => process.kill now
  | .gone => process
  | .denied =>
    if process.hasExitedBy now then process
    else match signals.single process now with
      | some _ => process
      | none => process.kill now

/-- A system refuses nobody the kill of a process that runs under his own user: a process alone can
be killed until it has exited. -/
def Permits (signals : Signals) : Prop :=
  ∀ process now, process.hasExitedBy now = false → signals.single process now = none

theorem refusal?_eq_some {signals : Signals} {process : Process} {now : Nat} {fault : Fault} :
    signals.refusal? process now = some fault ↔ signals.group process now = .denied ∧
      process.hasExitedBy now = false ∧ signals.single process now = some fault := by
  unfold refusal?
  split
  · next refused => simp [refused]
  · next granted =>
    simp only [reduceCtorEq, false_iff]
    exact fun ⟨denied, running, _⟩ => granted ⟨denied, running⟩

theorem afterKill_cases (signals : Signals) (process : Process) (now : Nat) :
    signals.afterKill process now = process ∨
      signals.afterKill process now = process.kill now := by
  unfold afterKill
  split
  · exact .inr rfl
  · exact .inl rfl
  · split
    · exact .inl rfl
    · split
      · exact .inl rfl
      · exact .inr rfl

theorem usual_permits : usual.Permits :=
  fun _ _ _ => rfl

theorem usual_events (process : Process) (now : Nat) :
    usual.events process now = process.killEvents now := rfl

theorem usual_afterKill (process : Process) (now : Nat) :
    usual.afterKill process now = process.afterGroupKill now := rfl

theorem usual_refusal? (process : Process) (now : Nat) : usual.refusal? process now = none :=
  ite_self none

end Signals

namespace Process

/-! ## Exits -/

theorem statusAt_iff {process : Process} {moment : Nat} {status : Int} :
    process.statusAt moment = some status ↔
      ∃ exit, process.exit? = some exit ∧ exit.1 ≤ moment ∧ exit.2 = status := by
  unfold statusAt
  cases process.exit? with
  | none => simp
  | some exit => by_cases h : exit.1 ≤ moment <;> simp [h]

theorem statusAt_of_exit {process : Process} {exit : Nat × Int} {moment : Nat}
    (h : process.exit? = some exit) (hle : exit.1 ≤ moment) :
    process.statusAt moment = some exit.2 :=
  statusAt_iff.mpr ⟨exit, h, hle, rfl⟩

theorem statusAt_mono {process : Process} {moment later : Nat} {status : Int}
    (h : moment ≤ later) (exited : process.statusAt moment = some status) :
    process.statusAt later = some status := by
  obtain ⟨exit, found, hle, told⟩ := statusAt_iff.mp exited
  exact statusAt_iff.mpr ⟨exit, found, Nat.le_trans hle h, told⟩

theorem hasExitedBy_iff {process : Process} {moment : Nat} :
    process.hasExitedBy moment = true ↔
      ∃ exit, process.exit? = some exit ∧ exit.1 ≤ moment := by
  simp only [hasExitedBy, Option.isSome_iff_exists, statusAt_iff]
  constructor
  · rintro ⟨status, exit, found, hle, -⟩
    exact ⟨exit, found, hle⟩
  · rintro ⟨exit, found, hle⟩
    exact ⟨exit.2, exit, found, hle, rfl⟩

theorem hasExitedBy_mono {process : Process} {moment later : Nat} (h : moment ≤ later)
    (exited : process.hasExitedBy moment = true) : process.hasExitedBy later = true := by
  obtain ⟨exit, he, hle⟩ := hasExitedBy_iff.mp exited
  exact hasExitedBy_iff.mpr ⟨exit, he, Nat.le_trans hle h⟩

theorem isAliveAt_of_exited {process : Process} {moment : Nat}
    (exited : process.hasExitedBy moment = true) : process.isAliveAt moment = false := by
  simp [isAliveAt, exited]

/-- A process that is over when another one starts never runs beside it. -/
theorem apart_of_exited {first second : Process} {moment : Nat}
    (exited : first.hasExitedBy moment = true) (h : moment ≤ second.startedAt) :
    first.Apart second := by
  intro later ⟨alive, beside⟩
  simp only [isAliveAt, Bool.and_eq_true, decide_eq_true_eq, Bool.not_eq_true'] at alive beside
  have gone := hasExitedBy_mono (Nat.le_trans h beside.1) exited
  rw [alive.2] at gone
  exact Bool.noConfusion gone

theorem exit?_of_untouched {process : Process} (h : process.killedAt = none) :
    process.exit? = process.ownExit? := by
  simp [exit?, h]

/-! ## Kills -/

theorem exit?_kill_eq {process : Process} (untouched : process.killedAt = none) (now : Nat) :
    (process.kill now).exit? = match process.ownExit? with
      | some exit =>
        if exit.1 ≤ now ∨ process.behaviour.stuck then some exit else some (now, killedStatus)
      | none => if process.behaviour.stuck then none else some (now, killedStatus) := by
  have own : (process.kill now).ownExit? = process.ownExit? := rfl
  have killed : (process.kill now).killedAt = some now := by simp [kill, untouched]
  rw [exit?, own, killed]
  cases process.ownExit? <;> rfl

theorem exit?_kill {process : Process} {exit : Nat × Int} {now : Nat}
    (untouched : process.killedAt = none) (h : process.exit? = some exit) (hle : exit.1 ≤ now) :
    (process.kill now).exit? = some exit := by
  rw [exit?_of_untouched untouched] at h
  rw [exit?_kill_eq untouched, h]
  exact if_pos (Or.inl hle)

theorem exit?_kill_yielding {process : Process} {now : Nat} (untouched : process.killedAt = none)
    (yields : process.behaviour.stuck = false) (running : process.hasExitedBy now = false) :
    (process.kill now).exit? = some (now, killedStatus) := by
  rw [exit?_kill_eq untouched]
  cases h : process.ownExit? with
  | none => simp [yields]
  | some exit =>
    have late : ¬exit.1 ≤ now := by
      intro hle
      rw [← exit?_of_untouched untouched] at h
      rw [hasExitedBy_iff.mpr ⟨exit, h, hle⟩] at running
      exact Bool.noConfusion running
    simp [yields, late]

/-- The kill does not change an exit that it comes after. -/
theorem exit?_afterKill {signals : Signals} {process : Process} {exit : Nat × Int} {now : Nat}
    (untouched : process.killedAt = none) (h : process.exit? = some exit) (hle : exit.1 ≤ now) :
    (signals.afterKill process now).exit? = some exit := by
  rcases signals.afterKill_cases process now with spared | killed
  · rw [spared]
    exact h
  · rw [killed]
    exact exit?_kill untouched h hle

theorem exit?_afterGroupKill {process : Process} {exit : Nat × Int} {now : Nat}
    (untouched : process.killedAt = none) (h : process.exit? = some exit) (hle : exit.1 ≤ now) :
    (process.afterGroupKill now).exit? = some exit :=
  Signals.usual_afterKill process now ▸ exit?_afterKill untouched h hle

theorem hasExitedBy_afterGroupKill {process : Process} {now : Nat}
    (untouched : process.killedAt = none) (yields : process.Yields now) :
    (process.afterGroupKill now).hasExitedBy now = true := by
  -- Whatever the group answers, a process that has exited keeps its exit.
  cases running : process.hasExitedBy now with
  | true =>
    obtain ⟨exit, h, hle⟩ := hasExitedBy_iff.mp running
    exact hasExitedBy_iff.mpr ⟨exit, exit?_afterGroupKill untouched h hle, hle⟩
  | false =>
    have killed : (process.kill now).hasExitedBy now = true :=
      hasExitedBy_iff.mpr ⟨_, exit?_kill_yielding untouched yields.1 running, Nat.le_refl now⟩
    unfold afterGroupKill
    split
    · exact killed
    · next gone => exact yields.2 gone
    · rw [running]
      exact killed

@[simp] theorem afterGroupKill_startedAt (process : Process) (now : Nat) :
    (process.afterGroupKill now).startedAt = process.startedAt := by
  unfold afterGroupKill
  split
  · rfl
  · rfl
  · split <;> rfl

@[simp] theorem afterGroupKill_behaviour (process : Process) (now : Nat) :
    (process.afterGroupKill now).behaviour = process.behaviour := by
  unfold afterGroupKill
  split
  · rfl
  · rfl
  · split <;> rfl

end Process

namespace Host
variable {host : Host} {number : Nat} {process : Process}

theorem set_process (found : host.process? number = some process) :
    host.processes.set number process = host.processes := by
  obtain ⟨_, rfl⟩ := List.getElem?_eq_some_iff.mp found
  exact List.set_getElem_self _

theorem withKilled_eq (found : host.process? number = some process) :
    host.withKilled number =
      { host with processes := host.processes.set number (process.kill host.now) } := by
  have there : host.processes[number]? = some process := found
  rw [withKilled, List.modify_eq_set_getElem?, there]
  rfl

end Host
end TestBench
