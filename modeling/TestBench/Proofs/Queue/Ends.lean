import TestBench.Proofs.Command
import TestBench.Reader.Queue

/-!
How a read ends, and what others can do about it. Commands run side by side, and a process is left
alone until the read of a command that has it is over.

- `Ends`: what a read comes to that got the slot at a moment, and when,
- `read_ends`: `Command.read` ends like that,
- `Persist` and `read_persist`: a read that has not ended when a process is started or killed does
  not end before that,
- `Host.found?`: a process as it is when nobody has touched it,
- `Untouched`: all processes but some are like that, with `Untouched.start` and
  `Untouched.terminate`.
-/
namespace TestBench
set_option autoImplicit false

/-! ## The end of a read -/

namespace Queue

/-- How a read of a command ends that got the slot at a moment, and when it ends: at once if there is
no process or if its output cannot be read, with all lines as soon as the output has closed and the
process has exited, or at the deadline. -/
inductive Ends (command : Command) (process? : Option Process) (grantedAt timeout : Nat) :
    Except Fault (List String) → Nat → Prop
  | unstarted (absent : process? = none) :
      Ends command process? grantedAt timeout
        (.error (.misuse (command.shown ++ " not started"))) grantedAt
  | unreadable (process : Process) (fault : Fault) (found : process? = some process)
      (fails : process.behaviour.readFault = some fault) :
      Ends command process? grantedAt timeout (.error fault) grantedAt
  | complete (process : Process) (closed exited : Nat) (status : Int)
      (found : process? = some process) (readable : process.behaviour.readFault = none)
      (closes : process.close? = some closed) (exits : process.exit? = some (exited, status))
      (inTime : max grantedAt (max closed exited) ≤ grantedAt + timeout) :
      Ends command process? grantedAt timeout (.ok (Text.outputLines process.behaviour.output))
        (max grantedAt (max closed exited))
  | late (process : Process) (found : process? = some process)
      (readable : process.behaviour.readFault = none)
      (late : ∀ closed exited status, process.close? = some closed →
        process.exit? = some (exited, status) →
        grantedAt + timeout < max grantedAt (max closed exited)) :
      Ends command process? grantedAt timeout (.error .deadline) (grantedAt + timeout)

theorem Ends.granted_le {command : Command} {process? : Option Process} {grantedAt timeout : Nat}
    {result : Except Fault (List String)} {endedAt : Nat}
    (h : Ends command process? grantedAt timeout result endedAt) : grantedAt ≤ endedAt := by
  cases h with
  | unstarted => exact Nat.le_refl _
  | unreadable => exact Nat.le_refl _
  | complete => exact Nat.le_max_left _ _
  | late => exact Nat.le_add_right _ _

theorem read_ends {command : Command} {host : Host} {timeout : Nat} (positive : 0 < timeout)
    (measurable : timeout < Command.timeoutBound) :
    Ends command (command.process? host) host.now timeout (command.read timeout host).1
      (command.read timeout host).2.now := by
  unfold Command.read Command.outcome
  rw [if_neg (Nat.ne_of_gt positive), if_neg (Nat.not_le.mpr measurable)]
  cases found : command.process? host with
  | none =>
    dsimp only
    rw [if_pos (Nat.le_add_right _ _), Host.waitUntil, Nat.max_self]
    exact .unstarted rfl
  | some process =>
    dsimp only
    cases fails : process.behaviour.readFault with
    | some fault =>
      dsimp only
      rw [if_pos (Nat.le_add_right _ _), Host.waitUntil, Nat.max_self]
      exact .unreadable process fault rfl fails
    | none =>
      have waited : max host.now (host.now + timeout) = host.now + timeout := by omega
      dsimp only
      unfold Process.complete?
      split
      · next result moment complete =>
        cases closes : process.close? with
        | none => simp [closes] at complete
        | some closed =>
          cases exits : process.exit? with
          | none => simp [closes, exits] at complete
          | some exit =>
            obtain ⟨exited, status⟩ := exit
            simp only [closes, exits, Prod.mk.injEq, Option.some.injEq] at complete
            obtain ⟨rfl, rfl⟩ := complete
            split
            · next inTime =>
              rw [Host.waitUntil, Nat.max_eq_right (Nat.le_max_left _ _)]
              exact .complete process closed exited status rfl fails closes exits inTime
            · next late =>
              rw [Host.waitUntil, waited]
              refine .late process rfl fails fun closed' exited' status' closes' exits' => ?_
              rw [closes] at closes'
              rw [exits] at exits'
              cases closes'
              cases exits'
              exact Nat.lt_of_not_le late
      · next result complete =>
        rw [Host.waitUntil, waited]
        refine .late process rfl fails fun closed exited status closes exits => ?_
        simp [closes, exits] at complete

theorem le_read_now (command : Command) (timeout : Nat) (host : Host) :
    host.now ≤ (command.read timeout host).2.now := by
  obtain ⟨moment, waited⟩ := command.read_waits timeout host
  rw [waited]
  exact Nat.le_max_left _ _

/-- A read that lasts until a moment has a deadline by then, and a process whose output can be read
but is not complete. -/
theorem le_read_now_iff {command : Command} {timeout moment : Nat} {host : Host}
    (ahead : host.now < moment) :
    moment ≤ (command.read timeout host).2.now ↔
      timeout < Command.timeoutBound ∧ moment ≤ host.now + timeout ∧
        ∃ process, command.process? host = some process ∧ process.behaviour.readFault = none ∧
          ∀ complete, process.complete? host.now = some complete → moment ≤ complete := by
  unfold Command.read Command.outcome
  by_cases instant : timeout = 0
  · rw [if_pos instant]
    simp only [Host.waitUntil]
    omega
  rw [if_neg instant]
  by_cases measurable : timeout < Command.timeoutBound
  · rw [if_neg (Nat.not_le.mpr measurable)]
    cases command.process? host with
    | none =>
      simp only [Nat.le_add_right, if_true, Host.waitUntil, Nat.max_self, reduceCtorEq, false_and,
        exists_false, and_false, iff_false, Nat.not_le]
      exact ahead
    | some process =>
      simp only [measurable, true_and, Option.some.injEq, exists_eq_left']
      cases process.behaviour.readFault with
      | some fault =>
        simp only [Nat.le_add_right, if_true, Host.waitUntil, Nat.max_self, reduceCtorEq, false_and,
          and_false, iff_false, Nat.not_le]
        exact ahead
      | none =>
        cases complete : process.complete? host.now with
        | none => simp [Host.waitUntil]
        | some ends =>
          simp only [Option.some.injEq, forall_eq', true_and]
          split <;> simp only [Host.waitUntil] <;> omega
  · rw [if_pos (Nat.le_of_not_lt measurable)]
    simp only [measurable, false_and, iff_false, Nat.not_le]
    exact ahead

end Queue

/-! ## Processes side by side -/

namespace Process
variable {process : Process} {killedAt : Nat}

/-- Only the first kill counts. -/
theorem kill_first (process : Process) (killedAt : Nat) :
    process.kill killedAt = process ∨ (process.kill killedAt).killedAt = some killedAt ∧
      ∀ earlier, process.killedAt = some earlier → killedAt < earlier := by
  cases before : process.killedAt with
  | none => exact .inr ⟨by rw [kill, before], nofun⟩
  | some earlier =>
    rcases Nat.lt_or_ge killedAt earlier with first | late
    · refine .inr ⟨by simp only [kill, before, Nat.min_eq_right (Nat.le_of_lt first)], ?_⟩
      rintro _ ⟨⟩
      exact first
    · refine .inl ?_
      simp only [kill, before, Nat.min_eq_left late]
      rw [← before]

theorem close?_kill {closed : Nat} (h : (process.kill killedAt).close? = some closed) :
    killedAt ≤ closed ∨ process.close? = some closed := by
  rcases process.kill_first killedAt with same | ⟨killed, first⟩
  · exact .inr (same ▸ h)
  · have own : (process.kill killedAt).behaviour.closesAfter.map
        ((process.kill killedAt).startedAt + ·) =
      process.behaviour.closesAfter.map (process.startedAt + ·) := rfl
    rw [close?, killed, own] at h
    unfold close?
    cases closes : process.behaviour.closesAfter.map (process.startedAt + ·) with
    | none =>
      rw [closes] at h
      exact .inl (Nat.le_of_eq (Option.some.inj h))
    | some moment =>
      rw [closes] at h
      obtain rfl : min killedAt moment = closed := Option.some.inj h
      rcases Nat.le_total killedAt moment with late | early
      · exact .inl (by omega)
      · rw [Nat.min_eq_right early]
        cases before : process.killedAt with
        | none => exact .inr rfl
        | some earlier =>
          have := first earlier before
          exact .inr (congrArg some (by omega))

theorem exit?_kill_or {exit : Nat × Int} (h : (process.kill killedAt).exit? = some exit) :
    killedAt ≤ exit.1 ∨ process.exit? = some exit := by
  rcases process.kill_first killedAt with same | ⟨killed, first⟩
  · exact .inr (same ▸ h)
  · have own : (process.kill killedAt).ownExit? = process.ownExit? := rfl
    have stuck : (process.kill killedAt).behaviour.stuck = process.behaviour.stuck := rfl
    rw [exit?, killed, own, stuck] at h
    unfold exit?
    cases exits : process.ownExit? with
    | none =>
      rw [exits] at h
      dsimp only at h
      by_cases keeps : process.behaviour.stuck = true
      · simp [keeps] at h
      · simp only [keeps, Bool.false_eq_true, if_false, Option.some.injEq] at h
        exact .inl (h ▸ Nat.le_refl _)
    | some ends =>
      rw [exits] at h
      dsimp only at h
      by_cases keeps : ends.1 ≤ killedAt ∨ process.behaviour.stuck = true
      · rw [if_pos keeps] at h
        cases before : process.killedAt with
        | none => exact .inr h
        | some earlier =>
          have later := first earlier before
          have kept : ends.1 ≤ earlier ∨ process.behaviour.stuck = true :=
            keeps.imp_left fun early => Nat.le_trans early (Nat.le_of_lt later)
          dsimp only
          rw [if_pos kept]
          exact .inr h
      · rw [if_neg keeps] at h
        cases h
        exact .inl (Nat.le_refl _)

/-- A kill does not make the output of a process complete before the kill. -/
theorem complete?_kill {now moment : Nat}
    (h : (process.kill killedAt).complete? now = some moment) :
    killedAt ≤ moment ∨ process.complete? now = some moment := by
  unfold complete? at h ⊢
  split at h
  · next closed exited status closes exits =>
    cases h
    rcases close?_kill closes with late | same
    · exact .inl (by omega)
    · rcases exit?_kill_or exits with late | same'
      · exact .inl (by dsimp only at late; omega)
      · rw [same, same']
        exact .inr rfl
  · cases h

end Process

/-- At one moment, processes are started and killed, but none that was there goes away. -/
def Persist (moment : Nat) (host later : Host) : Prop :=
  ∀ number process, host.process? number = some process →
    later.process? number = some process ∨ later.process? number = some (process.kill moment)

theorem Persist.of_eq {moment : Nat} {host later : Host} (same : later.processes = host.processes) :
    Persist moment host later := by
  intro number process found
  rw [Host.process?, same]
  exact .inl found

/-- A read that has not ended by a moment has not ended before what happens at that moment. -/
theorem Queue.read_persist {command : Command} {timeout moment : Nat} {host later : Host}
    (persist : Persist moment host later) (now : later.now = host.now)
    (early : moment ≤ (command.read timeout host).2.now) :
    moment ≤ (command.read timeout later).2.now := by
  rcases Nat.lt_or_ge host.now moment with ahead | past
  · obtain ⟨measurable, before, process, own, readable, incomplete⟩ := (le_read_now_iff ahead).mp early
    obtain ⟨number, has, found⟩ := Option.bind_eq_some_iff.mp own
    rw [← now] at ahead before incomplete
    refine (le_read_now_iff ahead).mpr ⟨measurable, before, ?_⟩
    rcases persist number process found with same | killed
    · exact ⟨process, Option.bind_eq_some_iff.mpr ⟨number, has, same⟩, readable, incomplete⟩
    · refine ⟨_, Option.bind_eq_some_iff.mpr ⟨number, has, killed⟩, readable, fun complete ends => ?_⟩
      exact (Process.complete?_kill ends).elim id (incomplete complete)
  · exact Nat.le_trans (now ▸ past) (le_read_now command timeout later)

/-! ## Processes that nobody has touched -/

/-- The process as it would be if nobody had killed it. -/
def Process.undisturbed (process : Process) : Process :=
  { process with killedAt := none }

namespace Host

/-- The process with a number when nobody has touched it: as it was on the first host if it was
there, or as it was when it was started. -/
def found? (first later : Host) (number : Nat) : Option Process :=
  match first.process? number with
  | some process => some process
  | none => (later.process? number).map Process.undisturbed

theorem found?_congr {first now later : Host} {number : Nat}
    (same : later.process? number = now.process? number) :
    first.found? later number = first.found? now number := by
  rw [found?, found?, same]

theorem withKilled_process? {host : Host} {number other : Nat} (apart : number ≠ other) :
    (host.withKilled number).process? other = host.process? other := by
  simp [withKilled, process?, apart]

end Host

namespace Command
variable {command : Command} {host : Host}

theorem terminate_processes (command : Command) (host : Host) :
    (command.terminate host).2.processes = host.processes ∨
      ∃ number, command.process = some number ∧
        (command.terminate host).2.processes = (host.withKilled number).processes := by
  obtain ⟨events, processes, now, ended, -, changed⟩ :=
    terminateUnder_frame .usual command host
  rw [terminate, ended]
  exact changed

theorem terminate_process? {number : Nat} (apart : command.process ≠ some number) :
    (command.terminate host).2.process? number = host.process? number := by
  rcases terminate_processes command host with same | ⟨own, process, killed⟩
  · rw [Host.process?, same, Host.process?]
  · rw [Host.process?, killed]
    exact Host.withKilled_process? fun same => apart (by rw [process, same])

theorem terminate_length (command : Command) (host : Host) :
    (command.terminate host).2.processes.length = host.processes.length := by
  rcases terminate_processes command host with same | ⟨number, -, killed⟩
  · rw [same]
  · rw [killed, Host.withKilled, List.length_modify]

theorem start_error {fault : Fault} {begun : Host} (h : command.start host = (.error fault, begun)) :
    begun.processes = host.processes ∧ begun.now = host.now := by
  unfold start at h
  split at h
  · cases h
    exact ⟨rfl, rfl⟩
  · unfold Host.spawn at h
    split at h
    · next refused =>
      split at refused
      · cases refused
        cases h
        exact ⟨rfl, rfl⟩
      · cases refused
    · cases h

theorem start_ok {started : Command} {begun : Host} (h : command.start host = (.ok started, begun)) :
    command.process = none ∧ started = command.withProcess host.processes.length ∧
      begun.now = host.now ∧
      ∃ behaviour, begun.processes = host.processes ++ [command.newProcess behaviour host.now] := by
  unfold start at h
  split at h
  · cases h
  · next unstarted =>
    have absent : command.process = none := by simpa [isStarted] using unstarted
    unfold Host.spawn at h
    split at h
    · cases h
    · next ready =>
      split at ready
      · cases ready
      · next behaviour left answer =>
        cases ready
        cases h
        exact ⟨absent, rfl, rfl, behaviour, rfl⟩

end Command

/-- All processes but some are as they were on the first host or when they were started. -/
def Untouched (first now : Host) (killed : List Nat) : Prop :=
  ∀ number, number ∉ killed → now.process? number = first.found? now number

namespace Untouched
variable {first now later : Host} {killed : List Nat} {command : Command}

theorem refl (first : Host) (killed : List Nat) : Untouched first first killed := by
  intro number _
  unfold Host.found?
  cases first.process? number <;> rfl

theorem of_eq (h : Untouched first now killed) (same : later.processes = now.processes) :
    Untouched first later killed := by
  intro number spared
  have kept : later.process? number = now.process? number := by
    rw [Host.process?, same, Host.process?]
  rw [kept, Host.found?_congr kept]
  exact h number spared

/-- A new process is as it was when it was started. -/
theorem start {started : Command} (h : Untouched first now killed)
    (grown : first.processes.length ≤ now.processes.length)
    (begins : command.start now = (.ok started, later)) : Untouched first later killed := by
  obtain ⟨-, -, -, behaviour, processes⟩ := Command.start_ok begins
  intro number spared
  by_cases new : number = now.processes.length
  · subst new
    have absent : first.process? now.processes.length = none := List.getElem?_eq_none grown
    rw [Host.found?, absent, Host.process?, processes, List.getElem?_concat_length]
    rfl
  · have kept : later.process? number = now.process? number := by
      rw [Host.process?, processes, List.getElem?_append, Host.process?]
      split
      · rfl
      · next beyond =>
        rw [List.getElem?_eq_none (by simp; omega), List.getElem?_eq_none (by omega)]
    rw [kept, Host.found?_congr kept]
    exact h number spared

/-- A process that is killed is touched, and no other is. -/
theorem terminate (h : Untouched first now killed) :
    Untouched first (command.terminate now).2 (killed ++ command.process.toList) := by
  intro number spared
  rw [List.mem_append, not_or] at spared
  have kept : (command.terminate now).2.process? number = now.process? number :=
    Command.terminate_process? fun own => spared.2 (Option.mem_toList.mpr own)
  rw [kept, Host.found?_congr kept]
  exact h number spared.1

end Untouched
end TestBench
