import TestBench.Proofs.Tools

/-!
Running one command to its end. The process is killed in any case, but only after its output has been
read, and then its status is fixed already.

- `Reports`: what the result of a command says of its process,
- `Finishes`: what is left of the process,
- `execute_reports`: running a command that nobody has started.
-/
namespace TestBench.Command
set_option autoImplicit false

variable {command : Command} {host after : Host} {behaviour : Behaviour}
  {left : List (String × List Behaviour)} {result : Except Fault (List String)}

/-! ## Results -/

/-- What the result of running a command says of its process. A read that fails is passed on as it is.
Otherwise the lines are the whole output, and it is a fault that the process has not exited with
status zero. -/
structure Reports (command : Command) (behaviour : Behaviour)
    (result : Except Fault (List String)) : Prop where
  unread : ∀ fault, behaviour.readFault = some fault → result = .error fault
  passes : behaviour.readFault = none → ∀ lines,
    result = .ok lines ↔ behaviour.status = 0 ∧ lines = Text.outputLines behaviour.output
  fails : behaviour.readFault = none → behaviour.status ≠ 0 →
    result = .error (.commandFailed command.arguments behaviour.status
      (Text.outputLines behaviour.output))

theorem conclusion_reports (command : Command) (ends : behaviour.Ends)
    (unhindered : behaviour.startFault = none) :
    Reports command behaviour (behaviour.conclusion command.arguments) where
  unread := fun fault faulty => by rw [Behaviour.conclusion, faulty]
  passes := by
    intro readable lines
    obtain ⟨time, span⟩ := ends.span unhindered readable
    simp only [Behaviour.conclusion, readable, span]
    split
    · next zero => simp [zero, eq_comm]
    · next nonzero => simp [nonzero]
  fails := by
    intro readable nonzero
    obtain ⟨time, span⟩ := ends.span unhindered readable
    simp only [Behaviour.conclusion, readable, span, if_neg nonzero]

/-! ## What is left -/

/-- What is left of a process whose group was killed once its output had been read. -/
structure Finishes (command : Command) (host : Host) (behaviour : Behaviour) (killedAt : Nat)
    (ended : Command) (after : Host) : Prop where
  own : ended = { command.withProcess host.processes.length with terminated := true }
  leaves : Leaves host [.ended command behaviour host.now killedAt] after
  /-- The status was fixed by the process itself and before it was killed, and it is known. -/
  exited : behaviour.readFault = none →
    (command.newProcess behaviour host.now).statusAt killedAt = some behaviour.status ∧
      ended.status? after = some behaviour.status
  /-- Nothing runs on that yields to its kill. -/
  stopped : (command.newProcess behaviour host.now).Yields killedAt →
    ∃ status, ended.status? after = some status

theorem Finishes.process? {killedAt : Nat} {ended : Command}
    (own : ended = { command.withProcess host.processes.length with terminated := true })
    (leaves : Leaves host [.ended command behaviour host.now killedAt] after) :
    ended.process? after =
      some ((command.newProcess behaviour host.now).afterGroupKill killedAt) := by
  have processes : after.processes = host.processes ++
      [(command.newProcess behaviour host.now).afterGroupKill killedAt] := leaves.processes
  simp [Command.process?, own, withProcess, Host.process?, processes]

theorem life_finishes (fresh : command.IsFresh)
    (h : host.answer command.arguments command.directory = (.ok behaviour, left)) {moment : Nat}
    (whole : behaviour.readFault = none →
      ∃ time, behaviour.span? = some time ∧ moment = host.now + time) :
    Finishes command host behaviour (max host.now moment)
      ((command.withProcess host.processes.length).terminate
        ((command.begunHost host behaviour left).waitUntil moment)).1
      ((command.withProcess host.processes.length).terminate
        ((command.begunHost host behaviour left).waitUntil moment)).2 := by
  have last : ((command.begunHost host behaviour left).waitUntil moment).processes =
      host.processes ++ [command.newProcess behaviour host.now] := rfl
  have live : (command.withProcess host.processes.length).terminated = false := fresh.2
  have untouched : (command.newProcess behaviour host.now).killedAt = none := rfl
  have leaves := life_leaves fresh h moment
  have own := congrArg Prod.fst (terminate_eq last rfl live)
  have left := Finishes.process? own leaves
  obtain ⟨-, killed, waited⟩ := leaves.timely
  refine ⟨own, leaves, fun readable => ?_, fun yields => ?_⟩
  · obtain ⟨time, span, rfl⟩ := whole readable
    obtain ⟨exit, exits, status, hle⟩ := Process.exit?_of_span untouched span
    have before : exit.1 ≤ max host.now (host.now + time) := Nat.le_trans hle (Nat.le_max_right _ _)
    have told := status?_terminate last rfl live untouched exits before
    rw [status] at told
    rw [Process.statusAt_of_exit exits before, status]
    exact ⟨rfl, told⟩
  · have exited := Process.hasExitedBy_mono waited
      (Process.hasExitedBy_afterGroupKill untouched yields)
    rw [status?, left]
    exact Option.isSome_iff_exists.mp exited

/-- Running a command that nobody has started. If its start is refused, that fault is the result and no
process is left. Otherwise, if the process ends or the read of its output fails, the call returns: the
result reports the process's own status, which was fixed before the kill, and the process was killed
once. -/
theorem execute_reports (fresh : command.IsFresh) :
    (∀ fault left, host.answer command.arguments command.directory = (.error fault, left) →
      command.execute host = (.error fault, command, command.refusedHost host left)) ∧
    ∀ behaviour left, host.answer command.arguments command.directory = (.ok behaviour, left) →
      behaviour.Ends →
      ∃ result ended after killedAt, command.execute host = (result, ended, after) ∧
        Reports command behaviour result ∧
        Finishes command host behaviour killedAt ended after := by
  refine ⟨fun fault left => execute_refused fresh, fun behaviour left h ends => ?_⟩
  have unhindered := (Host.answer_ok (congrArg Prod.fst h)).2
  obtain ⟨moment, executed, whole⟩ := execute_life fresh h ends
  exact ⟨_, _, _, _, executed, conclusion_reports command ends unhindered,
    life_finishes fresh h whole⟩

/-- A tool that closes its output after it has exited with a status of its own. -/
def sampleFailing : Behaviour :=
  ⟨[97, 13, 10, 98], some 10, 3, some 20, none, none, .natural, false⟩

theorem execute_reports_sample :
    ∃ ended after, (Command.ofArguments ["tool"] none).execute
        (.fresh ⟨[], some []⟩ 0 [("tool", [sampleFailing])]) =
          (.error (.commandFailed ["tool"] 3 ["a", "b"]), ended, after) ∧
      ended.terminated = true ∧ ended.status? after = some 3 := by
  have granted : (Host.fresh ⟨[], some []⟩ 0 [("tool", [sampleFailing])]).answer ["tool"] none =
      (.ok sampleFailing, [("tool", [sampleFailing])]) := by decide +kernel
  have ends : sampleFailing.Ends := ⟨by decide, by decide, fun _ _ => ⟨rfl, rfl⟩⟩
  obtain ⟨result, ended, after, killedAt, executed, reports, finishes⟩ :=
    (@execute_reports (.ofArguments ["tool"] none) (.fresh ⟨[], some []⟩ 0 [("tool", [sampleFailing])])
      ⟨rfl, rfl⟩).2 sampleFailing [("tool", [sampleFailing])] granted ends
  have failed : result = .error (.commandFailed ["tool"] 3 ["a", "b"]) :=
    (reports.fails rfl (by decide)).trans (by decide +kernel)
  exact ⟨ended, after, by rw [executed, failed], by rw [finishes.own], (finishes.exited rfl).2⟩

end TestBench.Command
