import TestBench.Proofs.Stage

/-!
The verdict on a test, told from the readings of its commands:

- `Reading.settles`: whether a reading ends the test, and how,
- `verdict` and `reached`: the outcome that the first such reading gives, and how many commands come
  to be started until then,
- `told` and `judge_eq_told`: what the lines of the last command mean,
- `runCommands_cons`: one command is one stage, and its reading ends the test or not,
- `runCommands_verdict`: the commands of a test come to their verdict, and none after it is started.
-/
namespace TestBench
set_option autoImplicit false
open Harness (Outcome judge outcomeOfFault timeLimit runCommands)

/-! ## The reference -/

/-- The outcome of a test that a reading ends. `isLast` says that no command follows. -/
def Reading.settles (onFault : Fault → Outcome) (settings : Settings) (isLast : Bool) :
    Reading → Option Outcome
  | refused fault => some (onFault fault)
  | unreadable fault => some (onFault fault)
  | late => some (.execTimeout, ["Exceeded timeout! (" ++ toString settings.timeoutSeconds ++ "s)"])
  | complete output status =>
    if settings.failFast ∧ isLast = false ∧ status ≠ 0 then
      some (.execFailed, Text.outputLines output)
    else none

/-- What the first reading that ends a test makes of it, and the place of that reading. -/
def settled (onFault : Fault → Outcome) (settings : Settings) (readings : List Reading) :
    Option (Outcome × Nat) :=
  readings.zipIdx.findSome? fun found =>
    (found.1.settles onFault settings (found.2 + 1 == readings.length)).map fun outcome =>
      (outcome, found.2)

/-- What the lines of the last command tell: without any the test is in error; if the last line is
the sentinel, the test has passed, with all the other lines; and else it has failed, with all
lines. -/
def told (lines : List String) : Outcome :=
  match lines.reverse with
  | [] => (.error, ["No output returned!"])
  | last :: others =>
    if last = Properties.sentinel then (.success, others.reverse) else (.execFailed, lines)

/-- The outcome of a test: that of the first reading that ends it, or else what the lines of the last
one tell. -/
def verdict (onFault : Fault → Outcome) (settings : Settings) (readings : List Reading) : Outcome :=
  match settled onFault settings readings with
  | some (outcome, _) => outcome
  | none => told ((readings.getLast?.map Reading.lines).getD [])

/-- How many commands come to be started. -/
def reached (onFault : Fault → Outcome) (settings : Settings) (readings : List Reading) : Nat :=
  match settled onFault settings readings with
  | some (_, place) => place + 1
  | none => readings.length

section Reference
variable (onFault : Fault → Outcome) (settings : Settings)

/-- Only a complete reading lets the test go on. -/
theorem settles_none {reading : Reading} {isLast : Bool}
    (h : reading.settles onFault settings isLast = none) :
    ∃ output status, reading = .complete output status := by
  cases reading with
  | complete output status => exact ⟨output, status, rfl⟩
  | _ => cases h

theorem settled_cons (reading : Reading) (rest : List Reading) :
    settled onFault settings (reading :: rest) =
      match reading.settles onFault settings rest.isEmpty with
      | some outcome => some (outcome, 0)
      | none => (settled onFault settings rest).map fun found => (found.1, found.2 + 1) := by
  have last : (0 + 1 == (reading :: rest).length) = rest.isEmpty := by cases rest <;> simp
  unfold settled
  rw [List.zipIdx_cons', List.findSome?_cons]
  dsimp only
  rw [last]
  cases reading.settles onFault settings rest.isEmpty with
  | some outcome => rfl
  | none =>
    -- One place further on, the last of the readings is the last of the rest.
    rw [Option.map_none, List.findSome?_map, List.map_findSome?]
    refine congrArg (List.findSome? · rest.zipIdx) (funext fun found => ?_)
    simp [Function.comp_def, Option.map_map]

theorem verdict_cons (reading : Reading) (rest : List Reading) :
    verdict onFault settings (reading :: rest) =
      match reading.settles onFault settings rest.isEmpty with
      | some outcome => outcome
      | none => if rest = [] then told reading.lines else verdict onFault settings rest := by
  unfold verdict
  rw [settled_cons]
  cases reading.settles onFault settings rest.isEmpty with
  | some outcome => rfl
  | none =>
    cases rest with
    | nil => rfl
    | cons next others =>
      rw [if_neg (List.cons_ne_nil next others)]
      cases settled onFault settings (next :: others) <;> rfl

theorem reached_cons (reading : Reading) (rest : List Reading) :
    reached onFault settings (reading :: rest) =
      match reading.settles onFault settings rest.isEmpty with
      | some _ => 1
      | none => reached onFault settings rest + 1 := by
  unfold reached
  rw [settled_cons]
  cases reading.settles onFault settings rest.isEmpty with
  | some outcome => rfl
  | none => cases settled onFault settings rest <;> rfl

end Reference

/-! ## The commands of a test -/

/-- The harness judges lines by what they tell. -/
theorem judge_eq_told (lines : List String) : judge lines = told lines := by
  rcases List.eq_nil_or_concat lines with rfl | ⟨others, last, rfl⟩
  · rfl
  · rw [judge, told, List.concat_eq_append, List.getLast?_concat, List.dropLast_concat,
      List.reverse_concat]
    dsimp only
    rw [List.reverse_reverse]

namespace Harness
variable {settings : Settings} {command : Command} {rest : List Command} {host : Host}
  {left : List (String × List Behaviour)}

theorem runCommands_refused {fault : Fault} (output : List String) (fresh : command.IsFresh)
    (h : host.answer command.arguments command.directory = (.error fault, left)) :
    runCommands settings (command :: rest) output host =
      (outcomeOfFault settings fault, command.refusedHost host left) := by
  simp only [runCommands, Command.start_refused fresh h]

/-- A command that has begun: it is read and terminated, and then the loop ends or goes on. -/
theorem runCommands_begun {behaviour : Behaviour} (output : List String) (fresh : command.IsFresh)
    (h : host.answer command.arguments command.directory = (.ok behaviour, left)) :
    runCommands settings (command :: rest) output host =
      let read := (command.withProcess host.processes.length).read (timeLimit settings)
        (command.begunHost host behaviour left)
      let ended := (command.withProcess host.processes.length).terminate read.2
      match read.1 with
      | .error fault => (outcomeOfFault settings fault, ended.2)
      | .ok lines =>
        if settings.failFast ∧ rest ≠ [] ∧ ended.1.status? ended.2 ≠ some 0 then
          ((.execFailed, lines), ended.2)
        else runCommands settings rest lines ended.2 := by
  cases told : ((command.withProcess host.processes.length).read (timeLimit settings)
    (command.begunHost host behaviour left)).1 <;>
      simp only [runCommands, Command.start_begun fresh h, told]

end Harness

theorem timeLimit_pos (settings : Settings) : 0 < timeLimit settings :=
  Nat.mul_pos settings.timeout_pos (by decide)

/-- One command: its reading ends the test or lets the next command start. -/
theorem runCommands_cons (settings : Settings) {command : Command} (rest : List Command)
    (output : List String) (host : Host) (fresh : command.IsFresh) :
    runCommands settings (command :: rest) output host =
      let stage := command.stage (timeLimit settings) host
      match stage.1.settles (outcomeOfFault settings) settings rest.isEmpty with
      | some outcome => (outcome, stage.2)
      | none => runCommands settings rest stage.1.lines stage.2 := by
  rcases h : host.answer command.arguments command.directory with ⟨fault | behaviour, left⟩
  · rw [Command.stage_refused h]
    exact Harness.runCommands_refused output fresh h
  · have positive := timeLimit_pos settings
    rw [Harness.runCommands_begun output fresh h, Command.stage_begun h]
    dsimp only
    rw [Command.begun_result host left positive]
    cases found : behaviour.reading (timeLimit settings) with
    | refused fault => rfl
    | unreadable fault => rfl
    | late => rfl
    | complete bytes code =>
      have status := Command.begun_status fresh host left positive found
      simp only [Reading.result, Reading.settles, Reading.lines, status]
      by_cases failed : settings.failFast = true ∧ rest ≠ [] ∧ some code ≠ some 0
      · have stops : settings.failFast = true ∧ rest.isEmpty = false ∧ code ≠ 0 := by
          simpa using failed
        rw [if_pos failed, if_pos stops]
      · have goes : ¬(settings.failFast = true ∧ rest.isEmpty = false ∧ code ≠ 0) := by
          simpa using failed
        rw [if_neg failed, if_neg goes]

/-- A command that is the only one: what its reading does not end, its output is judged by. -/
theorem runCommands_single (settings : Settings) {command : Command} (output : List String)
    (host : Host) (fresh : command.IsFresh) :
    runCommands settings [command] output host =
      let stage := command.stage (timeLimit settings) host
      ((stage.1.settles (outcomeOfFault settings) settings true).getD (told stage.1.lines),
        stage.2) := by
  rw [runCommands_cons settings [] output host fresh]
  dsimp only [List.isEmpty_nil]
  rw [← judge_eq_told]
  split
  · next ends =>
    rw [ends]
    rfl
  · next goes =>
    rw [goes]
    rfl

theorem runCommands_leaves (settings : Settings) (commands : List Command) (output : List String)
    (host : Host) (fresh : ∀ command ∈ commands, command.IsFresh) :
    ∃ blocks, Leaves host blocks (runCommands settings commands output host).2 := by
  induction commands generalizing output host with
  | nil => exact ⟨[], .refl host⟩
  | cons command rest ih =>
    have new : command.IsFresh := fresh command List.mem_cons_self
    obtain ⟨block, -, leaves⟩ := Command.stage_leaves new (timeLimit_pos settings) host
    rw [runCommands_cons settings rest output host new]
    dsimp only
    split
    · exact ⟨_, leaves⟩
    · obtain ⟨blocks, others⟩ := ih _ _ fun other member =>
        fresh other (List.mem_cons_of_mem _ member)
      exact ⟨_, leaves.trans others⟩

/-- The commands of a test come to the verdict on their readings, and the blocks that they leave are
those of the commands that are reached. -/
theorem runCommands_verdict (settings : Settings) (commands : List Command) (output : List String)
    (host : Host) (fresh : ∀ command ∈ commands, command.IsFresh)
    (initial : commands = [] → output = []) :
    (runCommands settings commands output host).1 =
        verdict (outcomeOfFault settings) settings
          (readings (timeLimit settings) commands host) ∧
      ∃ blocks, Leaves host blocks (runCommands settings commands output host).2 ∧
        blocks.map Block.command = commands.take
          (reached (outcomeOfFault settings) settings
            (readings (timeLimit settings) commands host)) := by
  induction commands generalizing output host with
  | nil =>
    rw [initial rfl]
    exact ⟨judge_eq_told [], [], .refl host, rfl⟩
  | cons command rest ih =>
    have new : command.IsFresh := fresh command List.mem_cons_self
    have positive := timeLimit_pos settings
    obtain ⟨block, own, leaves⟩ := Command.stage_leaves new positive host
    rw [runCommands_cons settings rest output host new, readings_cons new positive]
    dsimp only
    rw [verdict_cons, reached_cons, readings_isEmpty]
    generalize command.stage (timeLimit settings) host = stage at leaves
    obtain ⟨reading, middle⟩ := stage
    cases reading.settles (outcomeOfFault settings) settings rest.isEmpty with
    | some outcome => exact ⟨rfl, [block], leaves, by simp [own]⟩
    | none =>
      cases rest with
      | nil =>
        exact ⟨judge_eq_told _, [block], leaves, by simp [own, readings, reached, settled]⟩
      | cons next others =>
        obtain ⟨outcome, blocks, more, reach⟩ := ih reading.lines middle
          (fun other member => fresh other (List.mem_cons_of_mem _ member)) (by simp)
        refine ⟨outcome, block :: blocks, leaves.trans more, ?_⟩
        rw [List.map_cons, own, reach]
        rfl

end TestBench
