import TestBench.Proofs.Moments
import TestBench.Proofs.Steady

/-!
Tools: the compiler of a harness and the archiver of its mode. They are run one after the other, each
to its end, and none is started after one that has not passed.

- `Block.Exits`: the output of a process has been read to its end, and the process had exited,
- `Hinders`: the faults that keep tools from being run and read,
- `execute_reflects`: the result of a command tells what its process did,
- `Works`: how a run of tools has come out, with `next` and `stop` for one step after the other,
- `buildRunner_works` and `compileTest_works`: making a test runner and a test ready.
-/
namespace TestBench
set_option autoImplicit false

/-! ## Exits -/

namespace Block

def lines : Block → List String
  | refused _ => []
  | ended _ behaviour _ _ => Text.outputLines behaviour.output

/-- The output of a block's process has been read to its end, and when its group was killed the
process had exited with a status. -/
def Exits : Block → Int → Prop
  | refused _, _ => False
  | ended command behaviour startedAt killedAt, status =>
    behaviour.readFault = none ∧
      ((command.newProcess behaviour startedAt).afterGroupKill killedAt).statusAt killedAt =
        some status

theorem Exits.unique {block : Block} {first second : Int} (h : block.Exits first)
    (h' : block.Exits second) : first = second := by
  cases block with
  | refused command => exact h.elim
  | ended command behaviour startedAt killedAt =>
    exact Option.some.inj (h.2.symm.trans h'.2)

end Block

/-- Processes that have exited stay so. -/
theorem Timely.statusAt {start stop : Nat} {blocks : List Block} {status : Int}
    (h : Timely start blocks stop) (exits : ∀ block ∈ blocks, block.Exits status) :
    ∀ process ∈ blocks.flatMap Block.processes, process.statusAt stop = some status := by
  induction blocks generalizing start with
  | nil => simp
  | cons block rest ih =>
    rw [List.forall_mem_cons] at exits
    cases block with
    | refused command => exact exits.1.elim
    | ended command behaviour startedAt killedAt =>
      obtain ⟨-, -, others⟩ := h
      intro process member
      rcases List.mem_cons.mp member with own | later
      · rw [own]
        exact Process.statusAt_mono others.le exits.1.2
      · exact ih others exits.2 process later

theorem Behaviour.Ends.span {behaviour : Behaviour} (ends : behaviour.Ends)
    (unhindered : behaviour.startFault = none) (readable : behaviour.readFault = none) :
    ∃ time, behaviour.span? = some time := by
  obtain ⟨exits, closes⟩ := ends.exits unhindered readable
  obtain ⟨delay, exits⟩ := Option.isSome_iff_exists.mp exits
  obtain ⟨silence, closes⟩ := Option.isSome_iff_exists.mp closes
  exact ⟨max delay silence, by simp [Behaviour.span?, exits, closes]⟩

/-! ## Running to the end -/

/-- The faults that keep tools from being run and read: a refusal of the system, a null character in
an argument, and what a program shows by itself. -/
inductive Hinders (programs : List (String × List Behaviour)) (tools : List (List String)) :
    Fault → Prop where
  | refused (refusal : Refusal) (detail : Detail) :
      Hinders programs tools (.system refusal detail)
  | null {arguments : List String} {argument : String} (tool : arguments ∈ tools)
      (member : argument ∈ arguments) (holds : HoldsNull argument) :
      Hinders programs tools .nullCharacter
  | shown {arguments : List String} {behaviour : Behaviour} {fault : Fault}
      (tool : arguments ∈ tools) (supplied : Supplied programs (Host.program arguments) behaviour)
      (faulty : behaviour.startFault = some fault ∨ behaviour.readFault = some fault) :
      Hinders programs tools fault

namespace Hinders
variable {programs left : List (String × List Behaviour)} {tools more : List (List String)}
  {fault : Fault}

theorem mono (h : Hinders left tools fault) (remain : Remain programs left)
    (known : ∀ arguments ∈ tools, arguments ∈ more) : Hinders programs more fault := by
  cases h with
  | refused refusal detail => exact .refused refusal detail
  | null tool member holds => exact .null (known _ tool) member holds
  | shown tool supplied faulty => exact .shown (known _ tool) (remain.supplied _ _ supplied) faulty

theorem returns (h : Hinders programs tools fault)
    (ends : ∀ arguments ∈ tools, Ends programs (Host.program arguments)) : fault ≠ .endless := by
  cases h with
  | refused refusal detail => simp
  | null tool member holds => exact (Fault.isOrdinary_other _ _).1
  | shown tool supplied faulty =>
    have ends := ends _ tool _ supplied
    rintro rfl
    exact faulty.elim ends.start ends.read

theorem of_path {path : Path} {arguments : List String} (tool : arguments ∈ tools)
    (named : path.toString ∈ arguments) (h : path.Refuses fault) : Hinders programs tools fault := by
  rcases h.system_or_null with ⟨refusal, detail, rfl⟩ | ⟨rfl, null⟩
  · exact .refused refusal detail
  · exact .null tool named null.toString

end Hinders

theorem Host.answer_hinders {host : Host} {arguments : List String} {fault : Fault}
    (h : (host.answer arguments none).1 = .error fault) :
    Hinders host.programs [arguments] fault := by
  unfold answer at h
  split at h
  · next found =>
    cases h
    obtain ⟨argument, member, holds⟩ := List.any_eq_true.mp found
    exact .null List.mem_cons_self member (List.contains_iff_mem.mp holds)
  · dsimp only [Option.bind_none] at h
    split at h
    · cases h
      exact .refused _ _
    · next taken =>
      split at h
      · next hindered =>
        cases h
        exact .shown List.mem_cons_self (takeBehaviour_supplied (by rw [taken])) (.inl hindered)
      · cases h

namespace Command
variable {command ended : Command} {host after : Host} {result : Except Fault (List String)}

/-- What has become of the process of a command, by the result of running it. -/
def Reflects (programs : List (String × List Behaviour)) (block : Block) :
    Except Fault (List String) → Prop
  | .ok _ => block.Exits 0
  | .error fault =>
    (∃ status, status ≠ 0 ∧ block.Exits status ∧
      fault = .commandFailed block.command.arguments status block.lines) ∨
    (∀ status, ¬block.Exits status) ∧ Hinders programs [block.command.arguments] fault

theorem exits_of_span (command : Command) {behaviour : Behaviour} {time : Nat}
    (readable : behaviour.readFault = none) (span : behaviour.span? = some time) (now : Nat) :
    (Block.ended command behaviour now (max now (now + time))).Exits behaviour.status := by
  have untouched : (command.newProcess behaviour now).killedAt = none := rfl
  obtain ⟨exit, exits, status, hle⟩ := Process.exit?_of_span untouched span
  have hle : exit.1 ≤ max now (now + time) := Nat.le_trans hle (Nat.le_max_right _ _)
  refine ⟨readable, ?_⟩
  rw [Process.statusAt_of_exit (Process.exit?_afterGroupKill untouched exits hle) hle, status]
  rfl

/-- A process that ends is started, waited for and killed. It is waited for to its end, unless the read
of its output fails; then it is killed at once, whatever it was about to do. -/
theorem execute_life {behaviour : Behaviour} {left : List (String × List Behaviour)}
    (fresh : command.IsFresh)
    (h : host.answer command.arguments command.directory = (.ok behaviour, left))
    (ends : behaviour.Ends) :
    ∃ moment, command.execute host = (behaviour.conclusion command.arguments,
        (command.withProcess host.processes.length).terminate
          ((command.begunHost host behaviour left).waitUntil moment)) ∧
      (behaviour.readFault = none →
        ∃ time, behaviour.span? = some time ∧ moment = host.now + time) := by
  have unhindered := (Host.answer_ok (congrArg Prod.fst h)).2
  have concludes := execute_conclusion fresh host
  rw [h] at concludes
  have gathers := command.begun_gather host behaviour left
  cases faulty : behaviour.readFault with
  | some fault =>
    simp only [faulty] at gathers
    have waits : command.begunHost host behaviour left =
        (command.begunHost host behaviour left).waitUntil 0 := by
      simp [Host.waitUntil]
    have returns : fault ≠ .endless := fun endless => ends.read (endless ▸ faulty)
    have executed := execute_ended fresh h gathers (by simpa using returns)
    rw [executed] at concludes
    refine ⟨0, ?_, by simp⟩
    rw [executed, ← waits]
    exact Prod.ext concludes rfl
  | none =>
    obtain ⟨time, span⟩ := ends.span unhindered faulty
    simp only [faulty, span] at gathers
    have executed := execute_ended fresh h gathers (by simp)
    rw [executed] at concludes
    rw [executed]
    exact ⟨_, Prod.ext concludes rfl, fun _ => ⟨time, span, rfl⟩⟩

/-- The result of a process that ends tells what it did. -/
theorem begun_reflects {behaviour : Behaviour} {left : List (String × List Behaviour)}
    (fresh : command.IsFresh)
    (h : host.answer command.arguments command.directory = (.ok behaviour, left))
    (ends : behaviour.Ends) (executed : command.execute host = (result, ended, after)) :
    ∃ killedAt, Leaves host [.ended command behaviour host.now killedAt] after ∧
      Reflects host.programs (.ended command behaviour host.now killedAt) result := by
  have supplied := (Host.answer_ok (congrArg Prod.fst h)).1
  obtain ⟨moment, lives, whole⟩ := execute_life fresh h ends
  have life := life_leaves fresh h moment
  rw [executed] at lives
  obtain ⟨rfl, left⟩ := Prod.mk.inj lives
  rw [← left] at life
  refine ⟨_, life, ?_⟩
  cases faulty : behaviour.readFault with
  | some fault =>
    rw [Behaviour.conclusion, faulty]
    refine .inr ⟨fun status exits => ?_, .shown List.mem_cons_self supplied (.inr faulty)⟩
    have readable : behaviour.readFault = none := exits.1
    rw [faulty] at readable
    cases readable
  | none =>
    obtain ⟨time, span, rfl⟩ := whole faulty
    have exits := exits_of_span command faulty span host.now
    rw [Behaviour.conclusion, faulty, span]
    dsimp only
    split
    · next zero =>
      rw [zero] at exits
      exact exits
    · next nonzero => exact .inl ⟨_, nonzero, exits, rfl⟩

theorem execute_reflects (fresh : command.IsFresh) (anywhere : command.directory = none)
    (ends : Ends host.programs (Host.program command.arguments))
    (executed : command.execute host = (result, ended, after)) :
    ∃ block, block.command = command ∧ Leaves host [block] after ∧
      Reflects host.programs block result := by
  rcases h : host.answer command.arguments command.directory with ⟨fault | behaviour, left⟩
  · have refused := start_refused_leaves fresh h
    rw [start_refused fresh h] at refused
    rw [execute_refused fresh h] at executed
    cases executed
    rw [anywhere] at h
    exact ⟨.refused command, rfl, refused,
      .inr ⟨fun status exits => exits, Host.answer_hinders (congrArg Prod.fst h)⟩⟩
  · have supplied := (Host.answer_ok (congrArg Prod.fst h)).1
    obtain ⟨killedAt, leaves, reflects⟩ := begun_reflects fresh h (ends behaviour supplied) executed
    exact ⟨_, rfl, leaves, reflects⟩

end Command

/-! ## One after the other -/

def toolCommands (tools : List (List String)) : List Command :=
  tools.map fun arguments => .ofArguments arguments none

theorem toolCommands_append (first second : List (List String)) :
    toolCommands (first ++ second) = toolCommands first ++ toolCommands second :=
  List.map_append

/-- How a run of tools has come out. They are started in order, and none after one that has not
exited with status zero. If the last one has exited with another status, the fault tells of it with
its lines; otherwise a fault has kept a tool from being run or read. -/
structure Works {α : Type} (faults : Fault → Prop) (tools : List (List String)) (host : Host)
    (blocks : List Block) (result : Except Fault α) (after : Host) : Prop where
  leaves : Leaves host blocks after
  order : blocks.map Block.command <+: toolCommands tools
  onward : ∀ block ∈ blocks.dropLast, block.Exits 0
  told : ∀ block ∈ blocks, ∀ status, block.Exits status → status ≠ 0 →
    result = .error (.commandFailed block.command.arguments status block.lines)
  passed : ∀ value, result = .ok value →
    blocks.map Block.command = toolCommands tools ∧ ∀ block ∈ blocks, block.Exits 0
  failed : ∀ fault, result = .error fault →
    (∃ block ∈ blocks, ∃ status, status ≠ 0 ∧ block.Exits status) ∨ faults fault

namespace Works
variable {α β : Type} {faults : Fault → Prop} {tools first second : List (List String)}
  {blocks more : List Block} {host middle after : Host}

theorem quiet (value : α) (h : Leaves host [] after) :
    Works faults [] host [] (.ok value) after where
  leaves := h
  order := List.prefix_rfl
  onward := by simp
  told := by simp
  passed := by simp [toolCommands]
  failed := by simp

/-- A fault before any tool has been started. -/
theorem obstructed {fault : Fault} (h : Leaves host [] after) (met : faults fault) :
    Works faults tools host [] (.error fault : Except Fault α) after where
  leaves := h
  order := List.nil_prefix
  onward := by simp
  told := by simp
  passed := by simp
  failed := by simp [met]

theorem mono {wider : Fault → Prop} {result : Except Fault α}
    (h : Works faults tools host blocks result after)
    (imp : ∀ fault, faults fault → wider fault) : Works wider tools host blocks result after where
  leaves := h.leaves
  order := h.order
  onward := h.onward
  told := h.told
  passed := h.passed
  failed := fun fault same => (h.failed fault same).imp_right (imp fault)

/-- A fault is passed on, and further tools are not started. -/
theorem stop {fault : Fault}
    (h : Works faults first host blocks (.error fault : Except Fault α) after)
    (second : List (List String)) :
    Works faults (first ++ second) host blocks (.error fault : Except Fault β) after where
  leaves := h.leaves
  order := by
    rw [toolCommands_append]
    exact h.order.trans (List.prefix_append _ _)
  onward := h.onward
  told := fun block member status exits nonzero => by
    cases h.told block member status exits nonzero
    rfl
  passed := by simp
  failed := fun _ same => h.failed _ (congrArg Except.error (Except.error.inj same))

/-- What comes next is added to a run of tools that have passed. -/
theorem next {value : α} {result : Except Fault β}
    (h : Works faults first host blocks (.ok value : Except Fault α) middle)
    (h' : Works faults second middle more result after) :
    Works faults (first ++ second) host (blocks ++ more) result after := by
  obtain ⟨all, zero⟩ := h.passed value rfl
  constructor
  · exact h.leaves.trans h'.leaves
  · rw [List.map_append, all, toolCommands_append]
    exact (List.prefix_append_right_inj _).mpr h'.order
  · -- If nothing more has been started, the last of the first tools is the last one of all.
    cases more with
    | nil =>
      rw [List.append_nil]
      exact fun block member => zero block (List.dropLast_subset _ member)
    | cons block rest =>
      rw [List.dropLast_append_of_ne_nil (List.cons_ne_nil _ _), List.forall_mem_append]
      exact ⟨zero, h'.onward⟩
  · intro block member status exits nonzero
    rcases List.mem_append.mp member with before | later
    · exact absurd (exits.unique (zero block before)) nonzero
    · exact h'.told block later status exits nonzero
  · intro value same
    obtain ⟨all', zero'⟩ := h'.passed value same
    rw [List.map_append, all, all', toolCommands_append, List.forall_mem_append]
    exact ⟨rfl, zero, zero'⟩
  · intro fault same
    refine (h'.failed fault same).imp_left ?_
    rintro ⟨block, member, found⟩
    exact ⟨block, List.mem_append_right _ member, found⟩

end Works

/-! ## The tools of a harness -/

def Compiler.toolArguments (compiler : Compiler) (job : Compilation) : List (List String) :=
  match compiler with
  | javac executable encoding debug => [arguments executable encoding debug job]
  | recording _ _ => []

def Mode.toolArguments (mode : Mode) (classes output : Path) : List (List String) :=
  match mode with
  | dalvikvm config => [archiveArguments config classes output]
  | _ => []

namespace Harness

/-- A harness with an external compiler and a virtual machine. -/
structure IsEquipped (harness : Harness) : Prop where
  compiler : ∃ executable encoding debug, harness.compiler = .javac executable encoding debug
  mode : (∃ config, harness.mode = .jvm config) ∨ ∃ config, harness.mode = .dalvikvm config

def runnerOf (harness : Harness) (sources classpath : List Path) : Runner :=
  .of sources classpath harness.area.runnerClasses

/-- What is run to make a test runner ready. -/
def runnerTools (harness : Harness) (runner : Runner) : List (List String) :=
  harness.compiler.toolArguments (harness.runnerJob runner) ++
    harness.mode.toolArguments runner.classes (Mode.runnerArchive runner)

def testTools (harness : Harness) (test : TestRun) (runner : Runner) : List (List String) :=
  harness.compiler.toolArguments (harness.testJob test runner) ++
    harness.mode.toolArguments (harness.area.classesDirectory test.qualifiedName)
      (Mode.testArchive harness.area test.qualifiedName)

end Harness

section Tools
variable {programs : List (String × List Behaviour)} {tools : List (List String)}
  {harness : Harness} {runner : Runner} {test : TestRun} {host after : Host}

theorem Compiler.complete_works {arguments : List String} {result : Except Fault Unit}
    (remain : Remain programs host.programs) (ends : Ends programs (Host.program arguments))
    (tool : arguments ∈ tools) (h : complete arguments host = (result, after)) :
    ∃ blocks, Works (Hinders programs tools) [arguments] host blocks result after := by
  rcases executed : (Command.ofArguments arguments none).execute host with ⟨outcome, ended, finished⟩
  obtain ⟨block, own, leaves, reflects⟩ :=
    Command.execute_reflects ⟨rfl, rfl⟩ rfl (ends.remain remain) executed
  have all : [block].map Block.command = toolCommands [arguments] := congrArg (fun c => [c]) own
  have order : [block].map Block.command <+: toolCommands [arguments] :=
    ⟨[], by rw [List.append_nil, all]⟩
  refine ⟨[block], ?_⟩
  unfold complete at h
  rw [executed] at h
  cases outcome with
  | ok output =>
    cases h
    have zero : block.Exits 0 := reflects
    refine ⟨leaves, order, by simp, ?_, fun _ _ => ⟨all, by simpa using zero⟩, by simp⟩
    intro other member status exits nonzero
    rw [List.mem_singleton.mp member] at exits
    exact absurd (exits.unique zero) nonzero
  | error fault =>
    cases h
    refine ⟨leaves, order, by simp, ?_, by simp, ?_⟩
    · intro other member status exits nonzero
      obtain rfl := List.mem_singleton.mp member
      rcases reflects with ⟨status', -, exits', rfl⟩ | ⟨cut, -⟩
      · rw [exits.unique exits']
      · exact absurd exits (cut status)
    · rintro other ⟨⟩
      rcases reflects with ⟨status, nonzero, exits, -⟩ | ⟨-, hinders⟩
      · exact .inl ⟨block, List.mem_cons_self, status, nonzero, exits⟩
      · rw [own] at hinders
        exact .inr (hinders.mono remain (by simpa [Command.ofArguments] using tool))

theorem Harness.IsEquipped.destination (equipped : harness.IsEquipped) (job : Compilation) :
    ∃ arguments ∈ harness.compiler.toolArguments job, job.destination.toString ∈ arguments := by
  obtain ⟨executable, encoding, debug, compiler⟩ := equipped.compiler
  refine ⟨Compiler.arguments executable encoding debug job, ?_, by simp [Compiler.arguments]⟩
  rw [compiler]
  exact List.mem_cons_self

theorem Harness.mem_tools {job : Compilation} {classes output : Path} {arguments : List String}
    (member : arguments ∈
      harness.compiler.toolArguments job ++ harness.mode.toolArguments classes output) :
    Host.program arguments ∈ harness.tools := by
  rcases List.mem_append.mp member with compiles | archives
  · unfold Compiler.toolArguments at compiles
    split at compiles
    · next compiler =>
      rw [List.mem_singleton.mp compiles]
      simp [Harness.tools, compiler, Compiler.arguments, Host.program]
    · cases compiles
  · unfold Mode.toolArguments at archives
    split at archives
    · next mode =>
      rw [List.mem_singleton.mp archives]
      simp [Harness.tools, mode, Mode.archiveArguments, Host.program]
    · cases archives

theorem Mode.archive_works {config : Mode.DalvikConfig} {classes output : Path}
    {result : Except Fault Unit} (mode : harness.mode = .dalvikvm config)
    (remain : Remain programs host.programs) (ends : harness.ToolsEnd programs)
    (known : ∀ arguments ∈ harness.mode.toolArguments classes output, arguments ∈ tools)
    (h : Mode.archive config classes output host = (result, after)) :
    ∃ blocks, Works (Hinders programs tools) (harness.mode.toolArguments classes output) host blocks
      result after := by
  rw [mode] at known ⊢
  refine Compiler.complete_works remain (ends config.dx ?_) (known _ List.mem_cons_self) h
  simp [Harness.tools, mode]

namespace Harness

theorem compile_works {job : Compilation} {result : Except Fault Unit}
    (equipped : harness.IsEquipped) (remain : Remain programs host.programs)
    (ends : harness.ToolsEnd programs)
    (known : ∀ arguments ∈ harness.compiler.toolArguments job, arguments ∈ tools)
    (h : harness.compiler.compile job host = (result, after)) :
    ∃ blocks, Works (Hinders programs tools) (harness.compiler.toolArguments job) host blocks result
      after := by
  obtain ⟨executable, encoding, debug, compiler⟩ := equipped.compiler
  rw [compiler] at known h ⊢
  refine Compiler.complete_works remain (ends executable ?_) (known _ List.mem_cons_self) h
  simp [Harness.tools, compiler]

theorem setUpRunner_works {result : Except Fault Unit} (equipped : harness.IsEquipped)
    (remain : Remain programs host.programs) (ends : harness.ToolsEnd programs)
    (known : ∀ arguments ∈ harness.mode.toolArguments runner.classes (Mode.runnerArchive runner),
      arguments ∈ tools)
    (h : harness.mode.setUpRunner runner host = (result, after)) :
    ∃ blocks, Works (Hinders programs tools)
      (harness.mode.toolArguments runner.classes (Mode.runnerArchive runner)) host blocks result
      after := by
  rcases equipped.mode with ⟨config, mode⟩ | ⟨config, mode⟩
  · rw [mode] at h ⊢
    cases h
    exact ⟨[], .quiet () (.refl host)⟩
  · refine Mode.archive_works mode remain ends known ?_
    rw [mode] at h
    exact h

theorem install_works {qualifiedName : String} {result : Except Fault Classpath}
    (equipped : harness.IsEquipped) (remain : Remain programs host.programs)
    (ends : harness.ToolsEnd programs)
    (known : ∀ arguments ∈ harness.mode.toolArguments (harness.area.classesDirectory qualifiedName)
      (Mode.testArchive harness.area qualifiedName), arguments ∈ tools)
    (h : harness.mode.install harness.area qualifiedName host = (result, after)) :
    ∃ blocks, Works (Hinders programs tools)
      (harness.mode.toolArguments (harness.area.classesDirectory qualifiedName)
        (Mode.testArchive harness.area qualifiedName)) host blocks result after := by
  rcases equipped.mode with ⟨config, mode⟩ | ⟨config, mode⟩
  · rw [mode] at h ⊢
    cases h
    exact ⟨[], .quiet _ (.refl host)⟩
  · rw [mode, Mode.install] at h
    split at h
    · next ran =>
      obtain ⟨blocks, works⟩ := Mode.archive_works mode remain ends known ran
      cases h
      exact ⟨blocks, by simpa using works.next (.quiet _ (.refl after))⟩
    · next ran =>
      obtain ⟨blocks, works⟩ := Mode.archive_works mode remain ends known ran
      cases h
      exact ⟨blocks, by simpa using works.stop []⟩

theorem buildRunner_works {result : Except Fault Unit} (equipped : harness.IsEquipped)
    (ends : harness.ToolsEnd host.programs) (own : runner.classes = harness.area.runnerClasses)
    (h : harness.buildRunner runner host = (result, after)) :
    ∃ blocks, Works (Hinders host.programs (harness.runnerTools runner))
      (harness.runnerTools runner) host blocks result after := by
  obtain ⟨arguments, tool, named⟩ := equipped.destination (harness.runnerJob runner)
  have obstacle {fault : Fault} (refuses : runner.classes.Refuses fault) :
      Hinders host.programs (harness.runnerTools runner) fault :=
    .of_path (List.mem_append_left _ tool) named refuses
  unfold buildRunner at h
  split at h
  · next prepared =>
    cases h
    exact ⟨[], .obstructed (Host.makeDirectories_leaves prepared)
      (obstacle (own ▸ Host.makeDirectories_refuses prepared))⟩
  · next prepared =>
    have ready := Host.makeDirectories_leaves prepared
    split at h
    · next made =>
      cases h
      exact ⟨[], .obstructed (ready.trans (Host.makeDirectories_leaves made))
        (obstacle (Host.makeDirectories_refuses made))⟩
    · next made =>
      have ready := ready.trans (Host.makeDirectories_leaves made)
      have known : ∀ arguments ∈ harness.compiler.toolArguments (harness.runnerJob runner),
          arguments ∈ harness.runnerTools runner := fun _ => List.mem_append_left _
      split at h
      · next compiled =>
        cases h
        obtain ⟨blocks, works⟩ := compile_works equipped ready.programs ends known compiled
        exact ⟨_, (Works.quiet () ready).next (works.stop _)⟩
      · next compiled =>
        obtain ⟨blocks, works⟩ := compile_works equipped ready.programs ends known compiled
        obtain ⟨more, works'⟩ := setUpRunner_works equipped
          (ready.programs.trans works.leaves.programs) ends (fun _ => List.mem_append_right _) h
        exact ⟨_, (Works.quiet () ready).next (works.next works')⟩

theorem compileTest_works {result : Except Fault Classpath} (equipped : harness.IsEquipped)
    (ends : harness.ToolsEnd host.programs)
    (h : harness.compileTest test runner host = (result, after)) :
    ∃ blocks, Works (Hinders host.programs (harness.testTools test runner))
      (harness.testTools test runner) host blocks result after := by
  obtain ⟨arguments, tool, named⟩ := equipped.destination (harness.testJob test runner)
  have obstacle {fault : Fault}
      (refuses : (harness.area.classesDirectory test.qualifiedName).Refuses fault) :
      Hinders host.programs (harness.testTools test runner) fault :=
    .of_path (List.mem_append_left _ tool) named refuses
  simp only [compileTest] at h
  split at h
  · next made =>
    cases h
    exact ⟨[], .obstructed (Host.makeDirectories_leaves made)
      (obstacle (Host.makeDirectories_refuses made))⟩
  · next made =>
    have ready := Host.makeDirectories_leaves made
    split at h
    · next written =>
      cases h
      exact ⟨[], .obstructed (ready.trans (Properties.write_leaves written))
        (obstacle (Properties.write_refuses propertiesComment_writable written))⟩
    · next written =>
      have ready := ready.trans (Properties.write_leaves written)
      have known : ∀ arguments ∈ harness.compiler.toolArguments (harness.testJob test runner),
          arguments ∈ harness.testTools test runner := fun _ => List.mem_append_left _
      split at h
      · next compiled =>
        cases h
        obtain ⟨blocks, works⟩ := compile_works equipped ready.programs ends known compiled
        exact ⟨_, (Works.quiet () ready).next (works.stop _)⟩
      · next compiled =>
        obtain ⟨blocks, works⟩ := compile_works equipped ready.programs ends known compiled
        obtain ⟨more, works'⟩ := install_works equipped
          (ready.programs.trans works.leaves.programs) ends (fun _ => List.mem_append_right _) h
        exact ⟨_, (Works.quiet () ready).next (works.next works')⟩

end Harness
end Tools
end TestBench
