import TestBench.Proofs.Reading
import TestBench.Proofs.Returns

/-!
Programs that behave in one way only, whenever they are started. Then it does not matter how often a
program has been started before.

- `Steady` and `Steady.offered`: the behaviour that a program shows is always the same,
- `Behaviour.conclusion` and `execute_conclusion`: what running a command to its end comes to,
  said without a clock,
- `Steady.ends`: a program that was run with success once always ends.
-/
namespace TestBench
set_option autoImplicit false

/-! ## Behaviours -/

/-- Every start of a program behaves in the same way. -/
def Steady (programs : List (String × List Behaviour)) : Prop :=
  ∀ program first second, Supplied programs program first → Supplied programs program second →
    first = second

theorem steady_iff {programs : List (String × List Behaviour)} :
    Steady programs ↔ ∀ entry ∈ programs, ∀ entry' ∈ programs, entry.1 = entry'.1 →
      ∀ first ∈ entry.2, ∀ second ∈ entry'.2, first = second := by
  constructor
  · intro steady entry member entry' member' same first shown second shown'
    refine steady entry.1 first second ⟨entry.2, member, shown⟩ ⟨entry'.2, ?_, shown'⟩
    rw [same]
    exact member'
  · rintro each program first second ⟨behaviours, member, shown⟩ ⟨behaviours', member', shown'⟩
    exact each _ member _ member' rfl first shown second shown'

instance (programs : List (String × List Behaviour)) : Decidable (Steady programs) :=
  decidable_of_iff _ steady_iff.symm

/-- What a program shows next does not depend on what was started before. -/
theorem Steady.offered {programs left : List (String × List Behaviour)} (steady : Steady programs)
    (remain : Remain programs left) (program : String) :
    (Host.takeBehaviour left program).1 = (Host.takeBehaviour programs program).1 := by
  have lasts := remain.lasts program
  cases offer : (Host.takeBehaviour left program).1 with
  | none =>
    rw [offer] at lasts
    exact (Option.isNone_iff_eq_none.mp (by rw [← Option.not_isSome, ← lasts]; rfl)).symm
  | some behaviour =>
    rw [offer] at lasts
    obtain ⟨original, first⟩ := Option.isSome_iff_exists.mp lasts.symm
    have same := steady program behaviour original
      (remain.supplied program behaviour (takeBehaviour_supplied offer))
      (takeBehaviour_supplied first)
    rw [first, same]

/-! ## Running to the end -/

/-- What becomes of a command that is run to its end, by the behaviour of its process. -/
def Behaviour.conclusion (behaviour : Behaviour) (arguments : List String) :
    Except Fault (List String) :=
  match behaviour.readFault, behaviour.span? with
  | some fault, _ => .error fault
  | none, none => .error .endless
  | none, some _ =>
    let lines := Text.outputLines behaviour.output
    if behaviour.status = 0 then .ok lines
    else .error (.commandFailed arguments behaviour.status lines)

namespace Command
variable {command : Command} {host : Host} {behaviour : Behaviour}
  {left : List (String × List Behaviour)}

/-- The wait for the output of a process that has just begun. -/
theorem begun_gather (command : Command) (host : Host) (behaviour : Behaviour)
    (left : List (String × List Behaviour)) :
    (command.withProcess host.processes.length).gather (command.begunHost host behaviour left) =
      match behaviour.readFault, behaviour.span? with
      | some fault, _ => (.error fault, command.begunHost host behaviour left)
      | none, none => (.error .endless, command.begunHost host behaviour left)
      | none, some time => (.ok (Text.outputLines behaviour.output),
          (command.begunHost host behaviour left).waitUntil (host.now + time)) := by
  have last : (command.begunHost host behaviour left).processes =
      host.processes ++ [command.newProcess behaviour host.now] := rfl
  have untouched : (command.newProcess behaviour host.now).killedAt = none := rfl
  have complete := complete?_untouched untouched
  unfold gather Behaviour.span?
  rw [outcome_eq last rfl]
  dsimp only [newProcess] at complete ⊢
  cases behaviour.readFault with
  | some fault => simp [Host.waitUntil]
  | none =>
    have now : (command.begunHost host behaviour left).now = host.now := rfl
    dsimp only
    rw [now, complete]
    cases behaviour.exitsAfter <;> cases behaviour.closesAfter <;> rfl

theorem terminate_arguments (command : Command) (host : Host) :
    (command.terminate host).1.arguments = command.arguments := by
  unfold terminate terminateUnder
  split
  · dsimp only
    split <;> rfl
  · rfl

theorem verdict_of_status {status : Int} (h : command.status? host = some status)
    (output : List String) :
    command.verdict host output =
      if status = 0 then .ok output else .error (.commandFailed command.arguments status output) := by
  unfold verdict
  rw [h]
  by_cases zero : status = 0
  · rw [if_pos zero, zero]
    rfl
  · rw [if_neg zero]
    split
    · next same => exact absurd (Option.some.inj same) zero
    · rfl

/-- What running a command to its end comes to depends on what its start comes to, and on nothing
else. -/
theorem execute_conclusion (fresh : command.IsFresh) (host : Host) :
    (command.execute host).1 =
      (host.answer command.arguments command.directory).1.bind fun behaviour =>
        behaviour.conclusion command.arguments := by
  rcases h : host.answer command.arguments command.directory with ⟨fault | behaviour, left⟩
  · rw [execute_refused fresh h]
    rfl
  · have gathers := command.begun_gather host behaviour left
    simp only [Except.bind, Behaviour.conclusion]
    cases faulty : behaviour.readFault with
    | some fault =>
      simp only [faulty] at gathers
      -- A read that itself fails with this fault is taken for a wait without an end.
      by_cases endless : fault = .endless
      · rw [endless] at gathers ⊢
        rw [execute_endless fresh h gathers]
      · rw [execute_ended fresh h gathers (by simpa using endless)]
        rfl
    | none =>
      cases span : behaviour.span? with
      | none =>
        simp only [faulty, span] at gathers
        rw [execute_endless fresh h gathers]
      | some time =>
        simp only [faulty, span] at gathers
        rw [execute_ended fresh h gathers (by simp)]
        have last : ((command.begunHost host behaviour left).waitUntil (host.now + time)).processes =
            host.processes ++ [command.newProcess behaviour host.now] := rfl
        have live : (command.withProcess host.processes.length).terminated = false := fresh.2
        have untouched : (command.newProcess behaviour host.now).killedAt = none := rfl
        obtain ⟨exit, exits, status, hle⟩ := Process.exit?_of_span untouched span
        have exited : exit.1 ≤
            ((command.begunHost host behaviour left).waitUntil (host.now + time)).now :=
          Nat.le_trans hle (Nat.le_max_right _ _)
        have told := status?_terminate last rfl live rfl exits exited
        rw [status] at told
        rw [Except.bind, verdict_of_status told, terminate_arguments]
        rfl

end Command

/-! ## Tools -/

theorem Behaviour.ends_of_conclusion {behaviour : Behaviour} {arguments output : List String}
    (unhindered : behaviour.startFault = none)
    (h : behaviour.conclusion arguments = .ok output) : behaviour.Ends := by
  unfold conclusion at h
  split at h
  · cases h
  · cases h
  · next readable span =>
    refine ⟨by simp [unhindered], by simp [readable], fun _ _ => ?_⟩
    unfold span? at span
    split at span
    · next exits closes => exact ⟨by simp [exits], by simp [closes]⟩
    · cases span

/-- A steady program that has once been run with success always ends. -/
theorem Steady.ends {programs : List (String × List Behaviour)} (steady : Steady programs)
    {command ended : Command} {host after : Host} {output : List String}
    (fresh : command.IsFresh) (remain : Remain programs host.programs)
    (executed : command.execute host = (.ok output, ended, after)) :
    Ends programs (Host.program command.arguments) := by
  have concludes := Command.execute_conclusion fresh host
  rw [executed] at concludes
  cases answer : (host.answer command.arguments command.directory).1 with
  | error fault =>
    rw [answer] at concludes
    cases concludes
  | ok behaviour =>
    rw [answer] at concludes
    obtain ⟨supplied, unhindered⟩ := Host.answer_ok answer
    intro other shown
    rw [steady _ other behaviour shown (remain.supplied _ _ supplied)]
    exact Behaviour.ends_of_conclusion unhindered concludes.symm

theorem Steady.ends_complete {programs : List (String × List Behaviour)}
    (steady : Steady programs) {arguments : List String} {host after : Host}
    (remain : Remain programs host.programs)
    (h : Compiler.complete arguments host = (.ok (), after)) :
    Ends programs (Host.program arguments) := by
  unfold Compiler.complete at h
  split at h
  · next executed => exact steady.ends ⟨rfl, rfl⟩ remain executed
  · cases h

end TestBench
