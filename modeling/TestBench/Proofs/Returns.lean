import TestBench.Proofs.Operations
import TestBench.Proofs.Refusals

/-!
Which calls return. Only a compiler or an archiver can keep a call waiting without an end, since the
commands of a test are read under a deadline:

- `Ends`: every process of a program ends, or is not started or not read in the first place,
- `Harness.ToolsEnd`: so it is for the compiler of a harness and for the archiver of its mode,
- `prepare_returns`, `compileTest_returns` and `installTest_returns`: then every step up to the
  test itself comes to an end.
-/
namespace TestBench
set_option autoImplicit false

/-! ## Processes that end -/

/-- A process that ends when nobody interferes, unless its start or the read of its output fails. -/
structure Behaviour.Ends (behaviour : Behaviour) : Prop where
  start : behaviour.startFault ≠ some .endless
  read : behaviour.readFault ≠ some .endless
  exits : behaviour.startFault = none → behaviour.readFault = none →
    behaviour.exitsAfter.isSome ∧ behaviour.closesAfter.isSome

/-- All processes of a program end. -/
def Ends (programs : List (String × List Behaviour)) (program : String) : Prop :=
  ∀ behaviour, Supplied programs program behaviour → behaviour.Ends

theorem Ends.remain {programs left : List (String × List Behaviour)} {program : String}
    (h : Ends programs program) (remain : Remain programs left) : Ends left program :=
  fun behaviour supplied => h behaviour (remain.supplied program behaviour supplied)

namespace Command

theorem gather_returns {command : Command} {host : Host} {earlier : List Process}
    {process : Process} (last : host.processes = earlier ++ [process])
    (number : command.process = some earlier.length) (untouched : process.killedAt = none)
    (unhindered : process.behaviour.startFault = none) (ends : process.behaviour.Ends) :
    (command.gather host).1 ≠ .error .endless := by
  unfold gather
  rw [outcome_eq last number]
  cases faulty : process.behaviour.readFault with
  | some fault =>
    intro endless
    cases endless
    exact ends.read faulty
  | none =>
    obtain ⟨exits, closes⟩ := ends.exits unhindered faulty
    obtain ⟨delay, exits⟩ := Option.isSome_iff_exists.mp exits
    obtain ⟨silence, closes⟩ := Option.isSome_iff_exists.mp closes
    simp [Process.complete?, Process.close?, Process.exit?, Process.ownExit?, untouched, exits,
      closes]

theorem verdict_returns (command : Command) (host : Host) (output : List String) :
    command.verdict host output ≠ .error .endless := by
  unfold verdict
  split <;> simp

theorem execute_returns {command ended : Command} {host after : Host}
    {result : Except Fault (List String)} (fresh : command.IsFresh)
    (ends : Ends host.programs (Host.program command.arguments))
    (executed : command.execute host = (result, ended, after)) : result ≠ .error .endless := by
  rcases h : host.answer command.arguments command.directory with ⟨fault | behaviour, left⟩
  · rw [execute_refused fresh h] at executed
    cases executed
    intro endless
    rcases Host.answer_error (congrArg Prod.fst h) with ordinary | ⟨behaviour, supplied, hindered⟩
    · exact ordinary.1 (Except.error.inj endless)
    · rw [Except.error.inj endless] at hindered
      exact (ends behaviour supplied).start hindered
  · obtain ⟨supplied, unhindered⟩ := Host.answer_ok (congrArg Prod.fst h)
    have last : (command.begunHost host behaviour left).processes =
        host.processes ++ [command.newProcess behaviour host.now] := rfl
    have returns : ((command.withProcess host.processes.length).gather
        (command.begunHost host behaviour left)).1 ≠ .error .endless :=
      gather_returns last rfl rfl unhindered (ends behaviour supplied)
    rcases hg : (command.withProcess host.processes.length).gather
      (command.begunHost host behaviour left) with ⟨outcome, read⟩
    rw [hg] at returns
    rw [execute_ended fresh h hg returns] at executed
    rw [← (Prod.mk.inj executed).1]
    cases outcome with
    | error fault => exact returns
    | ok output => exact verdict_returns _ _ _

end Command

/-! ## Building -/

theorem Compiler.complete_returns {arguments : List String} {host after : Host} {fault : Fault}
    (ends : Ends host.programs (Host.program arguments))
    (h : complete arguments host = (.error fault, after)) : fault ≠ .endless := by
  unfold complete at h
  split at h
  · cases h
  · next executed =>
    cases h
    exact fun endless => Command.execute_returns ⟨rfl, rfl⟩ ends executed (congrArg _ endless)

namespace Harness

/-- The programs that a harness waits for without a deadline. -/
def tools (harness : Harness) : List String :=
  (match harness.compiler with
    | .javac executable _ _ => [executable]
    | .recording _ _ => []) ++
  match harness.mode with
    | .dalvikvm config => [config.dx]
    | _ => []

/-- All processes of the tools end. -/
def ToolsEnd (harness : Harness) (programs : List (String × List Behaviour)) : Prop :=
  ∀ program ∈ harness.tools, Ends programs program

theorem ToolsEnd.remain {harness : Harness} {programs left : List (String × List Behaviour)}
    (h : harness.ToolsEnd programs) (remain : Remain programs left) : harness.ToolsEnd left :=
  fun program member => (h program member).remain remain

/-- A harness with an external compiler and a virtual machine, which makes the working directories
of its tests itself. -/
structure IsReal (harness : Harness) : Prop where
  compiler : ∃ executable encoding debug, harness.compiler = .javac executable encoding debug
  mode : (∃ config, harness.mode = .jvm config) ∨ ∃ config, harness.mode = .dalvikvm config
  directories : harness.area.userDirectoryFault = none

section Tools
variable {harness : Harness} {runner : Runner} {test : TestRun} {host after : Host} {fault : Fault}

theorem compile_returns {job : Compilation} (real : harness.IsReal)
    (ends : harness.ToolsEnd host.programs)
    (h : harness.compiler.compile job host = (.error fault, after)) : fault ≠ .endless := by
  obtain ⟨executable, encoding, debug, compiler⟩ := real.compiler
  have known : executable ∈ harness.tools := by simp [tools, compiler]
  rw [compiler] at h
  exact Compiler.complete_returns (ends executable known) h

theorem archive_returns {config : Mode.DalvikConfig} {classes output : Path}
    (mode : harness.mode = .dalvikvm config)
    (ends : harness.ToolsEnd host.programs)
    (h : Mode.archive config classes output host = (.error fault, after)) :
    fault ≠ .endless := by
  have known : config.dx ∈ harness.tools := by simp [tools, mode]
  exact Compiler.complete_returns (ends config.dx known) h

theorem setUpRunner_returns (real : harness.IsReal)
    (ends : harness.ToolsEnd host.programs)
    (h : harness.mode.setUpRunner runner host = (.error fault, after)) : fault ≠ .endless := by
  rcases real.mode with ⟨config, mode⟩ | ⟨config, mode⟩
  · rw [mode] at h
    cases h
  · rw [mode] at h
    exact archive_returns mode ends h

theorem install_returns {qualifiedName : String}
    (real : harness.IsReal) (ends : harness.ToolsEnd host.programs)
    (h : harness.mode.install harness.area qualifiedName host = (.error fault, after)) :
    fault ≠ .endless := by
  rcases real.mode with ⟨config, mode⟩ | ⟨config, mode⟩
  · rw [mode] at h
    cases h
  · rw [mode] at h
    simp only [Mode.install] at h
    split at h
    · cases h
    · next archived =>
      cases h
      exact archive_returns mode ends archived

theorem buildRunner_returns (real : harness.IsReal)
    (ends : harness.ToolsEnd host.programs)
    (h : harness.buildRunner runner host = (.error fault, after)) : fault ≠ .endless := by
  unfold buildRunner at h
  split at h
  · next prepared =>
    cases h
    exact (Host.makeDirectories_refuses prepared).ordinary.1
  · next prepared =>
    have ends := ends.remain (Host.makeDirectories_leaves prepared).programs
    split at h
    · next made =>
      cases h
      exact (Host.makeDirectories_refuses made).ordinary.1
    · next made =>
      have ends := ends.remain (Host.makeDirectories_leaves made).programs
      split at h
      · next compiled =>
        cases h
        exact compile_returns real ends compiled
      · next compiled =>
        obtain ⟨blocks, leaves⟩ := (Compiler.compile_ran compiled).returned
        exact setUpRunner_returns real (ends.remain leaves.programs) h

theorem prepare_returns {sources classpath : List Path}
    (real : harness.IsReal) (ends : harness.ToolsEnd host.programs)
    (h : harness.prepare sources classpath host = (.error fault, after)) :
    fault ≠ .endless := by
  simp only [prepare] at h
  split at h
  · cases h
    exact (Fault.isOrdinary_other _ _).1
  · split at h
    · cases h
    · next built =>
      cases h
      exact fun endless => buildRunner_returns real ends built (preparationFault_endless.mp endless)

theorem propertiesComment_writable : Properties.IsWritable propertiesComment.toList := by
  decide

theorem compileTest_returns (real : harness.IsReal)
    (ends : harness.ToolsEnd host.programs)
    (h : harness.compileTest test runner host = (.error fault, after)) : fault ≠ .endless := by
  simp only [compileTest] at h
  split at h
  · next made =>
    cases h
    exact (Host.makeDirectories_refuses made).ordinary.1
  · next made =>
    have ends := ends.remain (Host.makeDirectories_leaves made).programs
    split at h
    · next written =>
      cases h
      exact (Properties.write_refuses propertiesComment_writable written).ordinary.1
    · next written =>
      have ends := ends.remain (Properties.write_leaves written).programs
      split at h
      · next compiled =>
        cases h
        exact compile_returns real ends compiled
      · next compiled =>
        obtain ⟨blocks, leaves⟩ := (Compiler.compile_ran compiled).returned
        exact install_returns real (ends.remain leaves.programs) h

theorem installTest_returns (real : harness.IsReal)
    (ends : harness.ToolsEnd host.programs)
    (h : harness.installTest test runner host = (.error fault, after)) : fault ≠ .endless := by
  unfold installTest at h
  split at h
  · next compiled =>
    cases h
    exact compileTest_returns real ends compiled
  · unfold WorkArea.prepareUserDirectory at h
    simp only [real.directories] at h
    split at h
    · next made =>
      cases h
      exact (Host.makeDirectories_refuses made).ordinary.1
    · cases h

end Tools
end Harness
end TestBench
