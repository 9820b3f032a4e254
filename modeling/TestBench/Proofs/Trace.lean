import TestBench.Proofs.Command

/-!
What commands leave behind on a host. One start of a program leaves one `Block`: a refusal, or a
process together with the kill of its group.

- `Leaves host blocks after`: from `host` to `after` the record and the processes have grown by
  these blocks and by nothing else, one after the other in time,
- `Ran`: so it is, or a call never returns,
- `life_leaves` and `execute_leaves`: for a process that is started and terminated, and for a command
  that is run to its end,
- `execute_passed`: the process of a command that was run with success has exited with status zero,
- `Timely.apart`: processes that yield to their kill never run side by side.
-/
namespace TestBench
set_option autoImplicit false

/-! ## Blocks -/

/-- What one start of a program leaves behind: a refusal, or a process that was started at one
moment and whose group was killed at another. -/
inductive Block where
  | refused (command : Command)
  | ended (command : Command) (behaviour : Behaviour) (startedAt killedAt : Nat)

namespace Block

/-- The command of a block. -/
def command : Block → Command
  | refused command => command
  | ended command _ _ _ => command

/-- The record of a block: the start, and the kill if there was something to kill. -/
def events : Block → List Event
  | refused command => [command.launch]
  | ended command behaviour startedAt killedAt =>
    command.launch :: (command.newProcess behaviour startedAt).killEvents killedAt

/-- The process of a block as it was left. -/
def processes : Block → List Process
  | refused _ => []
  | ended command behaviour startedAt killedAt =>
    [(command.newProcess behaviour startedAt).afterGroupKill killedAt]

/-- The status with which the process of a block has exited or will exit. -/
def status? : Block → Option Int
  | refused _ => none
  | ended command behaviour startedAt killedAt =>
    ((command.newProcess behaviour startedAt).afterGroupKill killedAt).exit?.map Prod.snd

/-- The process of a block yields to its kill. -/
def Yields : Block → Prop
  | refused _ => True
  | ended command behaviour startedAt killedAt =>
    (command.newProcess behaviour startedAt).Yields killedAt

end Block

/-- The blocks lie one after the other between two moments. -/
def Timely : Nat → List Block → Nat → Prop
  | start, [], stop => start ≤ stop
  | start, .refused _ :: rest, stop => Timely start rest stop
  | start, .ended _ _ startedAt killedAt :: rest, stop =>
    start ≤ startedAt ∧ startedAt ≤ killedAt ∧ Timely killedAt rest stop

namespace Timely

theorem le {start stop : Nat} {blocks : List Block} (h : Timely start blocks stop) :
    start ≤ stop := by
  induction blocks generalizing start with
  | nil => exact h
  | cons block rest ih =>
    cases block with
    | refused command => exact ih h
    | ended command behaviour startedAt killedAt =>
      obtain ⟨began, killed, others⟩ := h
      have := ih others
      omega

theorem earlier {start earlier stop : Nat} {blocks : List Block} (h : Timely start blocks stop)
    (hle : earlier ≤ start) : Timely earlier blocks stop := by
  induction blocks generalizing start with
  | nil => exact Nat.le_trans hle h
  | cons block rest ih =>
    cases block with
    | refused command => exact ih h hle
    | ended command behaviour startedAt killedAt => exact ⟨Nat.le_trans hle h.1, h.2⟩

theorem append {start middle stop : Nat} {first second : List Block}
    (h : Timely start first middle) (h' : Timely middle second stop) :
    Timely start (first ++ second) stop := by
  induction first generalizing start with
  | nil => exact h'.earlier h
  | cons block rest ih =>
    cases block with
    | refused command => exact ih h
    | ended command behaviour startedAt killedAt => exact ⟨h.1, h.2.1, ih h.2.2⟩

theorem le_startedAt {start stop : Nat} {blocks : List Block} (h : Timely start blocks stop)
    {process : Process} (member : process ∈ blocks.flatMap Block.processes) :
    start ≤ process.startedAt := by
  induction blocks generalizing start with
  | nil => cases member
  | cons block rest ih =>
    rw [List.flatMap_cons, List.mem_append] at member
    cases block with
    | refused command =>
      rcases member with none | later
      · cases none
      · exact ih h later
    | ended command behaviour startedAt killedAt =>
      obtain ⟨began, killed, others⟩ := h
      rcases member with own | later
      · rw [List.mem_singleton.mp own, Process.afterGroupKill_startedAt]
        exact began
      · have := ih others later
        omega

/-- A process that yields to its kill is over before the next one starts. -/
theorem apart {start stop : Nat} {blocks : List Block} (h : Timely start blocks stop)
    (yields : ∀ block ∈ blocks, block.Yields) :
    (blocks.flatMap Block.processes).Pairwise Process.Apart ∧
      ∀ process ∈ blocks.flatMap Block.processes, process.hasExitedBy stop = true := by
  induction blocks generalizing start with
  | nil => exact ⟨.nil, by simp⟩
  | cons block rest ih =>
    have tame : ∀ block ∈ rest, block.Yields := fun other member =>
      yields other (List.mem_cons_of_mem _ member)
    cases block with
    | refused command => exact ih h tame
    | ended command behaviour startedAt killedAt =>
      obtain ⟨began, killed, others⟩ := h
      obtain ⟨pairs, exits⟩ := ih others tame
      have exited : ((command.newProcess behaviour startedAt).afterGroupKill killedAt).hasExitedBy
          killedAt = true :=
        Process.hasExitedBy_afterGroupKill rfl (yields _ List.mem_cons_self)
      -- The kill of the first one comes before everything that starts in the blocks that follow.
      refine ⟨List.pairwise_cons.mpr ⟨?_, pairs⟩, ?_⟩
      · intro other member
        exact Process.apart_of_exited exited (others.le_startedAt member)
      · intro process member
        rcases List.mem_cons.mp member with own | later
        · rw [own]
          exact Process.hasExitedBy_mono others.le exited
        · exact exits process later

end Timely

/-! ## What is left on a host -/

/-- From one state of a host to another the record and the processes have grown by blocks, one after
the other. -/
structure Leaves (host : Host) (blocks : List Block) (after : Host) : Prop where
  events : after.events = host.events ++ blocks.flatMap Block.events
  processes : after.processes = host.processes ++ blocks.flatMap Block.processes
  timely : Timely host.now blocks after.now
  programs : Remain host.programs after.programs

namespace Leaves
variable {host middle after : Host}

theorem quiet (events : after.events = host.events) (processes : after.processes = host.processes)
    (now : after.now = host.now) (programs : after.programs = host.programs) :
    Leaves host [] after where
  events := by simp [events]
  processes := by simp [processes]
  timely := Nat.le_of_eq now.symm
  programs := programs ▸ Remain.refl _

theorem refl (host : Host) : Leaves host [] host :=
  quiet rfl rfl rfl rfl

theorem trans {first second : List Block} (h : Leaves host first middle)
    (h' : Leaves middle second after) : Leaves host (first ++ second) after where
  events := by rw [h'.events, h.events, List.flatMap_append, List.append_assoc]
  processes := by rw [h'.processes, h.processes, List.flatMap_append, List.append_assoc]
  timely := h.timely.append h'.timely
  programs := h.programs.trans h'.programs

end Leaves

/-- As `Leaves`, but a last process has been started after the blocks, and the wait for it never
ends. -/
inductive Waits (host : Host) (blocks : List Block) : Host → Prop where
  | intro (command : Command) (behaviour : Behaviour) (left : List (String × List Behaviour))
    {middle : Host} (leaves : Leaves host blocks middle)
    (endless : ((command.withProcess middle.processes.length).gather
      (command.begunHost middle behaviour left)).1 = .error .endless) :
    Waits host blocks (command.begunHost middle behaviour left)

/-- What a call has done to a host when it returns, or where it is when it never does. -/
def Ran {α : Type} (result : Except Fault α) (host after : Host) : Prop :=
  (∃ blocks, Leaves host blocks after) ∨
    result = .error .endless ∧ ∃ blocks, Waits host blocks after

namespace Ran
variable {α β : Type} {host middle after : Host}

theorem refl (result : Except Fault α) (host : Host) : Ran result host host :=
  .inl ⟨[], .refl host⟩

theorem leaves {result : Except Fault α} (h : Ran result host after)
    (returns : result ≠ .error .endless) : ∃ blocks, Leaves host blocks after :=
  h.resolve_right fun stuck => returns stuck.1

theorem returned {value : α} (h : Ran (.ok value : Except Fault α) host after) :
    ∃ blocks, Leaves host blocks after :=
  h.leaves (by simp)

theorem prepend {result : Except Fault α} {blocks : List Block} (h' : Ran result middle after)
    (h : Leaves host blocks middle) : Ran result host after := by
  rcases h' with ⟨others, h'⟩ | ⟨stuck, others, waits⟩
  · exact .inl ⟨_, h.trans h'⟩
  · obtain ⟨command, behaviour, left, leaves, endless⟩ := waits
    exact .inr ⟨stuck, _, .intro command behaviour left (h.trans leaves) endless⟩

/-- A call that has come to a value is over, and what comes next is added to it. -/
theorem next {value : α} {result : Except Fault β}
    (h : Ran (.ok value : Except Fault α) host middle) (h' : Ran result middle after) :
    Ran result host after := by
  obtain ⟨blocks, h⟩ := h.returned
  exact h'.prepend h

/-- A fault is passed on. -/
theorem pass {fault : Fault} (h : Ran (.error fault : Except Fault α) host after) :
    Ran (.error fault : Except Fault β) host after := by
  rcases h with h | ⟨stuck, waits⟩
  · exact .inl h
  · cases stuck
    exact .inr ⟨rfl, waits⟩

end Ran

namespace Command

theorem start_refused_leaves {command : Command} {host : Host} {fault : Fault}
    {left : List (String × List Behaviour)} (fresh : command.IsFresh)
    (h : host.answer command.arguments command.directory = (.error fault, left)) :
    Leaves host [.refused command] (command.start host).2 := by
  have remain := host.answer_remain command.arguments command.directory
  rw [h] at remain
  rw [start_refused fresh h]
  exact ⟨rfl, (List.append_nil _).symm, Nat.le_refl _, remain⟩

/-- The life of a process: it is started, something is waited for, and its group is killed. -/
theorem life_leaves {command : Command} {host : Host} {behaviour : Behaviour}
    {left : List (String × List Behaviour)} (fresh : command.IsFresh)
    (h : host.answer command.arguments command.directory = (.ok behaviour, left)) (moment : Nat) :
    Leaves host [.ended command behaviour host.now (max host.now moment)]
      ((command.withProcess host.processes.length).terminate
        ((command.begunHost host behaviour left).waitUntil moment)).2 := by
  have remain := host.answer_remain command.arguments command.directory
  rw [h] at remain
  have last : ((command.begunHost host behaviour left).waitUntil moment).processes =
      host.processes ++ [command.newProcess behaviour host.now] := rfl
  have live : (command.withProcess host.processes.length).terminated = false := fresh.2
  rw [terminate_eq last rfl live]
  refine ⟨?_, rfl, ⟨Nat.le_refl _, Nat.le_max_left _ _, Process.le_releasedAt _ _⟩, remain⟩
  simp [Host.waitUntil, begunHost, Host.record, Block.events]

/-- A command that is run to its end leaves one block, unless the wait for its process never ends. -/
theorem execute_leaves {command ended : Command} {host after : Host}
    {result : Except Fault (List String)} (fresh : command.IsFresh)
    (executed : command.execute host = (result, ended, after)) :
    (∃ block, block.command = command ∧ Leaves host [block] after) ∨
      result = .error .endless ∧ ∃ behaviour left,
        after = command.begunHost host behaviour left ∧
        ((command.withProcess host.processes.length).gather after).1 = .error .endless := by
  rcases h : host.answer command.arguments command.directory with ⟨fault | behaviour, left⟩
  · have refused := start_refused_leaves fresh h
    rw [start_refused fresh h] at refused
    rw [execute_refused fresh h] at executed
    cases executed
    exact .inl ⟨_, rfl, refused⟩
  · obtain ⟨moment, waited⟩ := gather_waits (command.withProcess host.processes.length)
      (command.begunHost host behaviour left)
    rcases hg : (command.withProcess host.processes.length).gather
      (command.begunHost host behaviour left) with ⟨result, read⟩
    by_cases ends : result = .error .endless
    · rw [ends] at hg
      rw [execute_endless fresh h hg, gather_endless hg] at executed
      cases executed
      exact .inr ⟨rfl, behaviour, left, rfl, by rw [hg]⟩
    · rw [hg] at waited
      have waited : read = (command.begunHost host behaviour left).waitUntil moment := waited
      rw [execute_ended fresh h hg ends, waited] at executed
      have life := life_leaves fresh h moment
      rw [(Prod.mk.inj executed).2] at life
      exact .inl ⟨_, rfl, life⟩

theorem execute_ran {command ended : Command} {host after : Host}
    {result : Except Fault (List String)} (fresh : command.IsFresh)
    (executed : command.execute host = (result, ended, after)) : Ran result host after := by
  rcases execute_leaves fresh executed with ⟨block, -, leaves⟩ | ⟨stuck, behaviour, left, rfl, endless⟩
  · exact .inl ⟨[block], leaves⟩
  · exact .inr ⟨stuck, [], .intro command behaviour left (.refl host) endless⟩

theorem status?_of_verdict {command : Command} {host : Host} {lines output : List String}
    (h : command.verdict host lines = .ok output) : command.status? host = some 0 := by
  unfold verdict at h
  split at h
  · assumption
  · cases h

/-- A command that was run with success has left a process that exited with status zero. -/
theorem execute_passed {command ended : Command} {host after : Host} {output : List String}
    (fresh : command.IsFresh) (executed : command.execute host = (.ok output, ended, after)) :
    ∃ block, block.command = command ∧ block.status? = some 0 ∧ Leaves host [block] after := by
  rcases h : host.answer command.arguments command.directory with ⟨fault | behaviour, left⟩
  · rw [execute_refused fresh h] at executed
    cases executed
  · obtain ⟨moment, waited⟩ := gather_waits (command.withProcess host.processes.length)
      (command.begunHost host behaviour left)
    rcases hg : (command.withProcess host.processes.length).gather
      (command.begunHost host behaviour left) with ⟨result, read⟩
    have ends : result ≠ .error .endless := by
      rintro rfl
      rw [execute_endless fresh h hg] at executed
      cases executed
    rw [hg] at waited
    have waited : read = (command.begunHost host behaviour left).waitUntil moment := waited
    have last : ((command.begunHost host behaviour left).waitUntil moment).processes =
        host.processes ++ [command.newProcess behaviour host.now] := rfl
    have live : (command.withProcess host.processes.length).terminated = false := fresh.2
    have life := life_leaves fresh h moment
    rw [execute_ended fresh h hg ends, waited] at executed
    obtain ⟨passed, left⟩ := Prod.mk.inj executed
    rw [left] at life
    refine ⟨_, rfl, ?_, life⟩
    cases result with
    | error fault => cases passed
    | ok lines =>
      have status := status?_of_verdict passed
      rw [terminate_eq last rfl live] at status
      simp only [status?, process?, withProcess, Host.process?, List.getElem?_concat_length,
        Option.bind_some, Process.statusAt] at status
      obtain ⟨exit, exits, told⟩ := Option.bind_eq_some_iff.mp status
      split at told
      · exact Option.map_eq_some_iff.mpr ⟨exit, exits, Option.some.inj told⟩
      · cases told

end Command

end TestBench
