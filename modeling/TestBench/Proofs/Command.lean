import TestBench.Reader.Deadline
import TestBench.Proofs.Process

/-!
What the operations on a command do to a host:

- `answer_congr` and `answer_remain`: what a start comes to depends on the disk and the behaviours
  that are left alone, and it uses these up,
- `start_refused` and `start_begun`: the two ends of a start,
- `read_waits` and `gather_waits`: reading waits and does nothing else,
- `kill_eq`, `terminateUnder_eq` and `terminate_eq`: the kill, and the wait for the exit,
- `terminateUnder_fault`: when terminating a command ends in a fault.
-/
namespace TestBench
set_option autoImplicit false

/-! ## Behaviours that are left -/

/-- A behaviour that a program may still show. -/
def Supplied (programs : List (String × List Behaviour)) (program : String)
    (behaviour : Behaviour) : Prop :=
  ∃ behaviours, (program, behaviours) ∈ programs ∧ behaviour ∈ behaviours

/-- Nothing is supplied afterwards that was not supplied before, and no program runs out of
behaviours. -/
structure Remain (programs left : List (String × List Behaviour)) : Prop where
  supplied : ∀ program behaviour, Supplied left program behaviour →
    Supplied programs program behaviour
  lasts : ∀ program, (Host.takeBehaviour left program).1.isSome =
    (Host.takeBehaviour programs program).1.isSome

theorem Remain.refl (programs : List (String × List Behaviour)) : Remain programs programs :=
  ⟨fun _ _ h => h, fun _ => rfl⟩

theorem Remain.trans {first second third : List (String × List Behaviour)}
    (h : Remain first second) (h' : Remain second third) : Remain first third where
  supplied := fun program behaviour found =>
    h.supplied program behaviour (h'.supplied program behaviour found)
  lasts := fun program => (h'.lasts program).trans (h.lasts program)

theorem mem_of_mem_afterStart {behaviours : List Behaviour} {behaviour : Behaviour}
    (h : behaviour ∈ Host.afterStart behaviours) : behaviour ∈ behaviours := by
  match behaviours with
  | [] => exact h
  | [_] => exact h
  | _ :: _ :: _ => exact List.mem_cons_of_mem _ h

theorem takeBehaviour_supplied {programs : List (String × List Behaviour)} {program : String}
    {behaviour : Behaviour} (h : (Host.takeBehaviour programs program).1 = some behaviour) :
    Supplied programs program behaviour := by
  induction programs with
  | nil => cases h
  | cons entry rest ih =>
    obtain ⟨name, behaviours⟩ := entry
    rw [Host.takeBehaviour] at h
    split at h
    · next same =>
      subst same
      exact ⟨behaviours, List.mem_cons_self, List.mem_of_mem_head? h⟩
    · obtain ⟨others, member, found⟩ := ih h
      exact ⟨others, List.mem_cons_of_mem _ member, found⟩

theorem takeBehaviour_left {programs : List (String × List Behaviour)} {program other : String}
    {behaviour : Behaviour}
    (h : Supplied (Host.takeBehaviour programs program).2 other behaviour) :
    Supplied programs other behaviour := by
  induction programs with
  | nil => exact h
  | cons entry rest ih =>
    obtain ⟨name, behaviours⟩ := entry
    rw [Host.takeBehaviour] at h
    split at h
    · obtain ⟨left, member, found⟩ := h
      rcases List.mem_cons.mp member with same | member
      · cases same
        exact ⟨behaviours, List.mem_cons_self, mem_of_mem_afterStart found⟩
      · exact ⟨left, List.mem_cons_of_mem _ member, found⟩
    · obtain ⟨left, member, found⟩ := h
      rcases List.mem_cons.mp member with same | member
      · cases same
        exact ⟨behaviours, List.mem_cons_self, found⟩
      · obtain ⟨more, member, found⟩ := ih ⟨left, member, found⟩
        exact ⟨more, List.mem_cons_of_mem _ member, found⟩

theorem head?_afterStart (behaviours : List Behaviour) :
    (Host.afterStart behaviours).head?.isSome = behaviours.head?.isSome := by
  match behaviours with
  | [] => rfl
  | [_] => rfl
  | _ :: _ :: _ => rfl

/-- The last behaviour of a program stays. -/
theorem takeBehaviour_lasts (programs : List (String × List Behaviour)) (program other : String) :
    (Host.takeBehaviour (Host.takeBehaviour programs program).2 other).1.isSome =
      (Host.takeBehaviour programs other).1.isSome := by
  induction programs with
  | nil => rfl
  | cons entry rest ih =>
    obtain ⟨name, behaviours⟩ := entry
    by_cases own : name = program
    · by_cases asked : name = other
      · simp only [Host.takeBehaviour, if_pos own, if_pos asked, head?_afterStart]
      · simp only [Host.takeBehaviour, if_pos own, if_neg asked]
    · by_cases asked : name = other
      · simp only [Host.takeBehaviour, if_neg own, if_pos asked]
      · simp only [Host.takeBehaviour, if_neg own, if_neg asked, ih]

theorem takeBehaviour_remain (programs : List (String × List Behaviour)) (program : String) :
    Remain programs (Host.takeBehaviour programs program).2 :=
  ⟨fun _ _ => takeBehaviour_left, takeBehaviour_lasts programs program⟩

/-! ## Starting -/

/-- A fault that the system itself comes up with: neither a wait without an end nor a deadline. -/
def Fault.IsOrdinary (fault : Fault) : Prop :=
  fault ≠ .endless ∧ fault.isTimeout = false

theorem Fault.isOrdinary_other (label : String) (detail : Detail) :
    (Fault.other label detail).IsOrdinary :=
  ⟨by simp, rfl⟩

theorem Fault.isOrdinary_system {refusal : Refusal} (h : refusal ≠ .timedOut) (detail : Detail) :
    (Fault.system refusal detail).IsOrdinary := by
  refine ⟨by simp, ?_⟩
  cases refusal with
  | timedOut => exact absurd rfl h
  | _ => rfl

namespace Host

theorem directoryFault?_ordinary {host : Host} {path : Path} {fault : Fault}
    (h : host.directoryFault? path = some fault) : fault.IsOrdinary := by
  unfold directoryFault? at h
  split at h
  · cases h
  · split at h <;> cases h
    · exact Fault.isOrdinary_system (by decide) _
    · exact Fault.isOrdinary_system (by decide) _
    · exact Fault.isOrdinary_other _ _
    · exact Fault.isOrdinary_system (by decide) _

theorem directoryFault?_congr {first second : Host} (disk : first.disk = second.disk) :
    first.directoryFault? = second.directoryFault? := by
  funext path
  simp only [directoryFault?, disk]

theorem answer_congr {first second : Host} (disk : first.disk = second.disk)
    (programs : first.programs = second.programs) : first.answer = second.answer := by
  funext arguments directory
  simp only [answer, directoryFault?_congr disk, programs]

theorem answer_remain (host : Host) (arguments : List String) (directory : Option Path) :
    Remain host.programs (host.answer arguments directory).2 := by
  have taken := takeBehaviour_remain host.programs (program arguments)
  unfold answer
  split
  · exact Remain.refl _
  · split
    · exact Remain.refl _
    · split
      · next h => rw [h] at taken; exact taken
      · next h =>
        rw [h] at taken
        split <;> exact taken

theorem answer_ok {host : Host} {arguments : List String} {directory : Option Path}
    {behaviour : Behaviour} (h : (host.answer arguments directory).1 = .ok behaviour) :
    Supplied host.programs (program arguments) behaviour ∧ behaviour.startFault = none := by
  unfold answer at h
  split at h
  · cases h
  · split at h
    · cases h
    · split at h
      · cases h
      · next taken =>
        split at h
        · cases h
        · next unhindered =>
          cases h
          exact ⟨takeBehaviour_supplied (by rw [taken]), unhindered⟩

theorem answer_error {host : Host} {arguments : List String} {directory : Option Path}
    {fault : Fault} (h : (host.answer arguments directory).1 = .error fault) :
    fault.IsOrdinary ∨ ∃ behaviour,
      Supplied host.programs (program arguments) behaviour ∧
        behaviour.startFault = some fault := by
  unfold answer at h
  split at h
  · cases h
    exact .inl (Fault.isOrdinary_other _ _)
  · split at h
    · next found =>
      cases h
      obtain ⟨path, rfl, found⟩ := Option.bind_eq_some_iff.mp found
      exact .inl (directoryFault?_ordinary found)
    · split at h
      · cases h
        exact .inl (Fault.isOrdinary_system (by decide) _)
      · next taken =>
        split at h
        · next hindered =>
          cases h
          exact .inr ⟨_, takeBehaviour_supplied (by rw [taken]), hindered⟩
        · cases h

end Host

/-! ## Terminating -/

/-- When the wait for a process is over whose group is killed at a moment. -/
def Process.releasedAt (process : Process) (now : Nat) : Nat :=
  max now (match (process.afterGroupKill now).exit? with
    | none => now + Command.graceTime
    | some exit => min exit.1 (now + Command.graceTime))

namespace Process

theorem le_releasedAt (process : Process) (now : Nat) : now ≤ process.releasedAt now :=
  Nat.le_max_left _ _

theorem releasedAt_le (process : Process) (now : Nat) :
    process.releasedAt now ≤ now + Command.graceTime := by
  unfold releasedAt
  split <;> omega

theorem releasedAt_le_exit {process : Process} {now : Nat} {exit : Nat × Int}
    (h : (process.afterGroupKill now).exit? = some exit) :
    process.releasedAt now ≤ max now exit.1 := by
  unfold releasedAt
  simp only [h]
  omega

/-- A process that has exited is not waited for. -/
theorem releasedAt_of_exited {process : Process} {now : Nat}
    (exited : (process.afterGroupKill now).hasExitedBy now = true) :
    process.releasedAt now = now := by
  obtain ⟨exit, h, hle⟩ := hasExitedBy_iff.mp exited
  have lower := process.le_releasedAt now
  have upper := releasedAt_le_exit h
  omega

end Process

namespace Command

/-- A command that nobody has started. -/
def IsFresh (command : Command) : Prop :=
  command.process = none ∧ command.terminated = false

/-- The record of a start. -/
def launch (command : Command) : Event :=
  .spawn command.arguments command.directory command.environment

/-- The process of a command as it begins. -/
def newProcess (command : Command) (behaviour : Behaviour) (now : Nat) : Process :=
  ⟨Host.program command.arguments, behaviour, now, none⟩

/-- A command whose process has a number. -/
def withProcess (command : Command) (number : Nat) : Command :=
  { command with process := some number }

/-- The host after a start that was refused. -/
def refusedHost (command : Command) (host : Host) (left : List (String × List Behaviour)) : Host :=
  { host.record command.launch with programs := left }

/-- The host on which the process of a command has begun. -/
def begunHost (command : Command) (host : Host) (behaviour : Behaviour)
    (left : List (String × List Behaviour)) : Host :=
  { host.record command.launch with
    programs := left
    processes := host.processes ++ [command.newProcess behaviour host.now] }

theorem start_refused {command : Command} {host : Host} {fault : Fault}
    {left : List (String × List Behaviour)} (fresh : command.IsFresh)
    (h : host.answer command.arguments command.directory = (.error fault, left)) :
    command.start host = (.error fault, command.refusedHost host left) := by
  simp [start, isStarted, fresh.1, Host.spawn, h, refusedHost, launch]

theorem start_begun {command : Command} {host : Host} {behaviour : Behaviour}
    {left : List (String × List Behaviour)} (fresh : command.IsFresh)
    (h : host.answer command.arguments command.directory = (.ok behaviour, left)) :
    command.start host = (.ok (command.withProcess host.processes.length),
      command.begunHost host behaviour left) := by
  simp [start, isStarted, fresh.1, Host.spawn, h, withProcess, begunHost, launch, newProcess]

/-! ## Reading -/

theorem read_waits (command : Command) (timeout : Nat) (host : Host) :
    ∃ moment, (command.read timeout host).2 = host.waitUntil moment := by
  unfold read
  split
  · exact ⟨_, rfl⟩
  · split
    · exact ⟨0, by simp [Host.waitUntil]⟩
    · split
      · split <;> exact ⟨_, rfl⟩
      · exact ⟨_, rfl⟩

theorem gather_waits (command : Command) (host : Host) :
    ∃ moment, (command.gather host).2 = host.waitUntil moment := by
  unfold gather
  split
  · exact ⟨_, rfl⟩
  · exact ⟨0, by simp [Host.waitUntil]⟩

/-- A wait that never ends leaves the host as it is. -/
theorem gather_endless {command : Command} {host waiting : Host}
    (h : command.gather host = (.error .endless, waiting)) : waiting = host := by
  unfold gather at h
  split at h
  · next outcome =>
    -- There is a moment only if the read itself meets this fault, and it does so at once.
    cases h
    unfold Command.outcome at outcome
    split at outcome
    · cases outcome
    · split at outcome
      · cases outcome
        simp [Host.waitUntil]
      · cases outcome
  · cases h
    rfl

theorem outcome_eq {command : Command} {host : Host} {earlier : List Process} {process : Process}
    (last : host.processes = earlier ++ [process])
    (number : command.process = some earlier.length) :
    command.outcome host = match process.behaviour.readFault with
      | some fault => (.error fault, some host.now)
      | none =>
        (.ok (Text.outputLines process.behaviour.output), process.complete? host.now) := by
  have found : command.process? host = some process := by
    simp [process?, number, Host.process?, last]
  cases faulty : process.behaviour.readFault <;> simp only [outcome, found, faulty]

/-! ## Kills -/

section Kills
variable {signals : Signals} {command : Command} {host : Host} {earlier : List Process}
  {process : Process} {number : Nat}

theorem kill_absent (absent : host.process? number = none) :
    command.kill signals host number = (.ok (), host) := by
  simp [kill, Host.killGroup, absent]

/-- A kill is recorded and changes no process but its own. The faults that are known from a kill of a
group are caught; what is not caught is that of a process that refuses to be killed alone. -/
theorem kill_eq (own : command.process = some number)
    (found : host.process? number = some process) :
    command.kill signals host number =
      ((match signals.refusal? process host.now with
        | some fault => .error fault
        | none => .ok ()),
        { host with
          events := host.events ++ signals.events process host.now
          processes := host.processes.set number (signals.afterKill process host.now) }) := by
  have same : (host.record (.killGroup process.program .denied)).process? number =
    some process := found
  have known : (command.status? (host.record (.killGroup process.program .denied))).isSome =
      process.hasExitedBy host.now := by
    rw [status?, process?, own, Option.bind_some, same, Option.bind_some]
    rfl
  have slain (events : List Event) : Host.withKilled { host with events := events } number =
      { host with
        events := events, processes := host.processes.set number (process.kill host.now) } :=
    Host.withKilled_eq found
  have spared := Host.set_process found
  unfold kill Host.killGroup Signals.refusal? Signals.events Signals.afterKill
  rw [found]
  dsimp only
  cases outcome : signals.group process host.now with
  | natural => simp [GroupKill.fault?, Host.record, slain]
  | gone => simp [GroupKill.fault?, Host.record, spared]
  | denied =>
    dsimp only [GroupKill.fault?]
    rw [known]
    cases running : process.hasExitedBy host.now with
    | true => simp [Host.record, spared]
    | false =>
      rw [Host.killOne, same]
      dsimp only [Host.record]
      cases signals.single process host.now with
      | some fault => simp [spared]
      | none => simp [slain]

theorem kill_fault (own : command.process = some number) {fault : Fault} :
    (command.kill signals host number).1 = .error fault ↔
      ∃ process, host.process? number = some process ∧
        signals.refusal? process host.now = some fault := by
  cases found : host.process? number with
  | none => simp [kill_absent found]
  | some process =>
    simp only [kill_eq own found, Option.some.injEq, exists_eq_left']
    cases signals.refusal? process host.now <;> simp

theorem kill_frame (signals : Signals) (host : Host) (own : command.process = some number) :
    ∃ events processes, (command.kill signals host number).2 =
        { host with events := events, processes := processes } ∧
      (processes = host.processes ∨ processes = (host.withKilled number).processes) := by
  cases found : host.process? number with
  | none =>
    rw [kill_absent found]
    exact ⟨_, _, rfl, .inl rfl⟩
  | some process =>
    rw [kill_eq own found, Host.withKilled_eq found]
    refine ⟨_, _, rfl, ?_⟩
    rcases signals.afterKill_cases process host.now with spared | killed
    · rw [spared]
      exact .inl (Host.set_process found)
    · rw [killed]
      exact .inr rfl

theorem awaitExit_waits (host : Host) (number : Nat) :
    ∃ moment, awaitExit host number = host.waitUntil moment ∧ moment ≤ host.now + graceTime := by
  unfold awaitExit
  split
  · exact ⟨_, rfl, Nat.le_refl _⟩
  · exact ⟨_, rfl, Nat.min_le_right _ _⟩

/-- Terminating a command is recorded, takes at most the grace time, and changes no process but that
of the command. -/
theorem terminateUnder_frame (signals : Signals) (command : Command) (host : Host) :
    ∃ events processes now, (command.terminateUnder signals host).2.2 =
        { host with events := events, processes := processes, now := now } ∧
      now ≤ host.now + graceTime ∧
      (processes = host.processes ∨ ∃ number, command.process = some number ∧
        processes = (host.withKilled number).processes) := by
  unfold terminateUnder
  split
  · next number own _ =>
    obtain ⟨events, processes, killed, changed⟩ := kill_frame signals host own
    have changed : processes = host.processes ∨ ∃ number, command.process = some number ∧
        processes = (host.withKilled number).processes :=
      changed.imp_right fun same => ⟨number, own, same⟩
    rcases result : command.kill signals host number with ⟨fault | _, after⟩
    · rw [result] at killed
      exact ⟨events, processes, host.now, killed, Nat.le_add_right _ _, changed⟩
    · rw [result] at killed
      obtain rfl : after = _ := killed
      obtain ⟨moment, waited, bounded⟩ := awaitExit_waits
        { host with events := events, processes := processes } number
      have latest : max host.now moment ≤ host.now + graceTime :=
        Nat.max_le.mpr ⟨Nat.le_add_right _ _, bounded⟩
      exact ⟨events, processes, max host.now moment, waited, latest, changed⟩
  · exact ⟨_, _, _, rfl, Nat.le_add_right _ _, .inl rfl⟩

theorem terminateUnder_eq (last : host.processes = earlier ++ [process])
    (number : command.process = some earlier.length) (live : command.terminated = false) :
    command.terminateUnder signals host =
      let told := { host with
        events := host.events ++ signals.events process host.now
        processes := earlier ++ [signals.afterKill process host.now] }
      match signals.refusal? process host.now with
      | some fault => (.error fault, { command with terminated := true }, told)
      | none => (.ok (), { command with terminated := true }, awaitExit told earlier.length) := by
  have found : host.process? earlier.length = some process := by simp [Host.process?, last]
  have changed : host.processes.set earlier.length (signals.afterKill process host.now) =
      earlier ++ [signals.afterKill process host.now] := by
    simp [last]
  rw [terminateUnder, number, live]
  dsimp only
  rw [kill_eq number found, changed]
  cases signals.refusal? process host.now <;> rfl

/-- Terminating a command ends in a fault only if its process refuses to be killed, with its group
and alone. -/
theorem terminateUnder_fault {fault : Fault} :
    (command.terminateUnder signals host).1 = .error fault ↔
      command.terminated = false ∧ ∃ process, command.process? host = some process ∧
        signals.refusal? process host.now = some fault := by
  unfold terminateUnder
  split
  · next number own live =>
    have killed : (command.kill signals host number).1 = .error fault ↔ _ := kill_fault own
    rw [process?, own, Option.bind_some, ← killed]
    rcases command.kill signals host number with ⟨_ | _, after⟩ <;> simp [live]
  · next idle =>
    constructor
    · exact nofun
    · rintro ⟨live, process, found, -⟩
      obtain ⟨number, own, -⟩ := Option.bind_eq_some_iff.mp found
      exact (idle number own live).elim

/-- On the usual system nothing refuses to be killed. -/
theorem terminateUnder_usual (command : Command) (host : Host) :
    command.terminateUnder .usual host = (.ok (), command.terminate host) := by
  refine Prod.ext ?_ rfl
  cases ended : (command.terminateUnder .usual host).1 with
  | ok _ => rfl
  | error fault =>
    obtain ⟨-, process, -, refused⟩ := terminateUnder_fault.mp ended
    rw [Signals.usual_refusal?] at refused
    cases refused

theorem terminate_eq (last : host.processes = earlier ++ [process])
    (number : command.process = some earlier.length) (live : command.terminated = false) :
    command.terminate host = ({ command with terminated := true },
      { host with
        events := host.events ++ process.killEvents host.now
        processes := earlier ++ [process.afterGroupKill host.now]
        now := process.releasedAt host.now }) := by
  rw [terminate, terminateUnder_eq last number live]
  simp only [Signals.usual_refusal?, Signals.usual_events, Signals.usual_afterKill, awaitExit,
    Host.process?, List.getElem?_concat_length, Option.bind_some, Process.releasedAt]
  cases (process.afterGroupKill host.now).exit? <;> rfl

/-- However a kill ends, it is recorded. -/
theorem terminateUnder_leaves (signals : Signals) (last : host.processes = earlier ++ [process])
    (number : command.process = some earlier.length) (live : command.terminated = false) :
    ∃ result now, command.terminateUnder signals host =
      (result, { command with terminated := true }, { host with
        events := host.events ++ signals.events process host.now
        processes := earlier ++ [signals.afterKill process host.now]
        now := now }) ∧ host.now ≤ now := by
  rw [terminateUnder_eq last number live]
  cases signals.refusal? process host.now with
  | some fault => exact ⟨.error fault, host.now, rfl, Nat.le_refl _⟩
  | none =>
    obtain ⟨moment, waited, -⟩ := awaitExit_waits { host with
      events := host.events ++ signals.events process host.now
      processes := earlier ++ [signals.afterKill process host.now] } earlier.length
    refine ⟨.ok (), max host.now moment, ?_, Nat.le_max_left _ _⟩
    dsimp only
    rw [waited]
    rfl

/-- A status that is known does not change when the command is terminated. -/
theorem status?_terminateUnder (signals : Signals) (last : host.processes = earlier ++ [process])
    (number : command.process = some earlier.length) (live : command.terminated = false)
    (untouched : process.killedAt = none) (status : Int)
    (known : command.status? host = some status) :
    (command.terminateUnder signals host).2.1.status? (command.terminateUnder signals host).2.2 =
      some status := by
  have found : command.process? host = some process := by
    simp [process?, number, Host.process?, last]
  rw [status?, found, Option.bind_some] at known
  obtain ⟨exit, exits, hle, rfl⟩ := Process.statusAt_iff.mp known
  obtain ⟨result, now, ends, later⟩ := terminateUnder_leaves signals last number live
  have kept : (signals.afterKill process host.now).exit? = some exit :=
    Process.exit?_afterKill untouched exits hle
  rw [ends]
  simp only [status?, process?, number, Host.process?, List.getElem?_concat_length,
    Option.bind_some]
  exact Process.statusAt_of_exit kept (Nat.le_trans hle later)

/-- The status of a process that had exited before it was killed is its own. -/
theorem status?_terminate {exit : Nat × Int} (last : host.processes = earlier ++ [process])
    (number : command.process = some earlier.length) (live : command.terminated = false)
    (untouched : process.killedAt = none) (exited : process.exit? = some exit)
    (hle : exit.1 ≤ host.now) :
    (command.terminate host).1.status? (command.terminate host).2 = some exit.2 := by
  have known : command.status? host = some exit.2 := by
    simp only [status?, process?, number, Host.process?, last, List.getElem?_concat_length,
      Option.bind_some]
    exact Process.statusAt_of_exit exited hle
  exact status?_terminateUnder .usual last number live untouched exit.2 known

end Kills

/-! ## Running to the end -/

theorem execute_eq (command : Command) (host : Host) :
    command.execute host = match command.start host with
      | (.error fault, begun) => (.error fault, command, begun)
      | (.ok started, begun) =>
        match started.gather begun with
        | (.error .endless, waiting) => (.error .endless, started, waiting)
        | (.error fault, read) => (.error fault, started.terminate read)
        | (.ok output, read) =>
          ((started.terminate read).1.verdict (started.terminate read).2 output,
            started.terminate read) := by
  unfold execute executeUnder
  rcases command.start host with ⟨fault | started, begun⟩
  · rfl
  · dsimp only
    rcases started.gather begun with ⟨result, read⟩
    have ended := terminateUnder_usual started read
    cases result with
    | ok output => simp only [ended]
    | error fault => cases fault <;> simp only [ended]

theorem execute_refused {command : Command} {host : Host} {fault : Fault}
    {left : List (String × List Behaviour)} (fresh : command.IsFresh)
    (h : host.answer command.arguments command.directory = (.error fault, left)) :
    command.execute host = (.error fault, command, command.refusedHost host left) := by
  simp only [execute_eq, start_refused fresh h]

theorem execute_endless {command : Command} {host waiting : Host} {behaviour : Behaviour}
    {left : List (String × List Behaviour)} (fresh : command.IsFresh)
    (h : host.answer command.arguments command.directory = (.ok behaviour, left))
    (hg : (command.withProcess host.processes.length).gather
      (command.begunHost host behaviour left) = (.error .endless, waiting)) :
    command.execute host =
      (.error .endless, command.withProcess host.processes.length, waiting) := by
  simp only [execute_eq, start_begun fresh h, hg]

theorem execute_ended {command : Command} {host read : Host} {behaviour : Behaviour}
    {left : List (String × List Behaviour)} {result : Except Fault (List String)}
    (fresh : command.IsFresh)
    (h : host.answer command.arguments command.directory = (.ok behaviour, left))
    (hg : (command.withProcess host.processes.length).gather
      (command.begunHost host behaviour left) = (result, read))
    (ends : result ≠ .error .endless) :
    command.execute host =
      (result.bind fun output =>
          ((command.withProcess host.processes.length).terminate read).1.verdict
            ((command.withProcess host.processes.length).terminate read).2 output,
        (command.withProcess host.processes.length).terminate read) := by
  simp only [execute_eq, start_begun fresh h, hg]
  cases result with
  | ok output => rfl
  | error fault =>
    cases fault with
    | endless => exact absurd rfl ends
    | _ => rfl

end Command
end TestBench
