import TestBench.Proofs.Verdict
import TestBench.Suite

/-!
What the operations of a harness and the suite built from them leave behind on a host. Everything
that starts a program goes through `Command.execute` or `Harness.runCommands`; the rest works on the
disk and the log only.
-/
namespace TestBench
set_option autoImplicit false

/-! ## Operations that start nothing -/

namespace Host

theorem makeDirectories_leaves {host after : Host} {lenient : Bool} {path : Path}
    {result : Except Fault Unit} (h : host.makeDirectories lenient path = (result, after)) :
    Leaves host [] after := by
  cases h
  exact .quiet rfl rfl rfl rfl

theorem remove_leaves (host : Host) (path : Path) : Leaves host [] (host.remove path) :=
  .quiet rfl rfl rfl rfl

theorem note_leaves (host : Host) (level : Level) (text : String) :
    Leaves host [] (host.note level text) :=
  .quiet rfl rfl rfl rfl

end Host

theorem Properties.write_leaves {directory : Path} {entries : List (String × String)}
    {comment : String} {host after : Host} {result : Except Fault Path}
    (h : Properties.write directory entries comment host = (result, after)) :
    Leaves host [] after := by
  simp only [Properties.write] at h
  split at h
  · cases h
    exact .refl host
  · split at h
    · cases h
      exact .quiet rfl rfl rfl rfl
    · split at h <;> cases h <;> exact .quiet rfl rfl rfl rfl

namespace WorkArea

theorem prepareUserDirectory_leaves {area : WorkArea} {qualifiedName : String} {host after : Host}
    {result : Except Fault Unit}
    (h : area.prepareUserDirectory qualifiedName host = (result, after)) :
    Leaves host [] after := by
  unfold prepareUserDirectory at h
  split at h
  · cases h
    exact .refl host
  · exact (host.remove_leaves _).trans (Host.makeDirectories_leaves h)

theorem cleanUp_leaves (area : WorkArea) (qualifiedName : String) (host : Host) :
    Leaves host [] (area.cleanUp qualifiedName host) := by
  unfold cleanUp
  split
  · exact .refl host
  · exact host.remove_leaves _

theorem shutDown_leaves (area : WorkArea) (host : Host) :
    Leaves host [] (area.shutDown host) := by
  unfold shutDown
  split
  · exact host.note_leaves _ _
  · exact host.remove_leaves _

end WorkArea

/-! ## Compilers and modes -/

theorem Compiler.complete_ran {arguments : List String} {host after : Host}
    {result : Except Fault Unit} (h : complete arguments host = (result, after)) :
    Ran result host after := by
  unfold complete at h
  split at h
  · next executed =>
    cases h
    exact .inl ((Command.execute_ran ⟨rfl, rfl⟩ executed).returned)
  · next executed =>
    cases h
    exact (Command.execute_ran ⟨rfl, rfl⟩ executed).pass

theorem Compiler.compile_ran {compiler : Compiler} {job : Compilation} {host after : Host}
    {result : Except Fault Unit} (h : compiler.compile job host = (result, after)) :
    Ran result host after := by
  cases compiler with
  | javac executable encoding debug => exact complete_ran h
  | recording fault diagnostics =>
    simp only [compile] at h
    split at h <;> cases h <;> exact .inl ⟨[], .quiet rfl rfl rfl rfl⟩

namespace Mode

theorem setUpRunner_ran {mode : Mode} {runner : Runner} {host after : Host}
    {result : Except Fault Unit} (h : mode.setUpRunner runner host = (result, after)) :
    Ran result host after := by
  cases mode with
  | jvm config =>
    cases h
    exact .refl _ host
  | dalvikvm config => exact Compiler.complete_ran h
  | scripted script =>
    simp only [setUpRunner] at h
    split at h <;> cases h <;> exact .inl ⟨[], .quiet rfl rfl rfl rfl⟩

theorem install_ran {mode : Mode} {area : WorkArea} {qualifiedName : String} {host after : Host}
    {result : Except Fault Classpath}
    (h : mode.install area qualifiedName host = (result, after)) : Ran result host after := by
  cases mode with
  | jvm config =>
    cases h
    exact .refl _ host
  | dalvikvm config =>
    simp only [install] at h
    split at h
    · next archived =>
      cases h
      exact .inl ((Compiler.complete_ran archived).returned)
    · next archived =>
      cases h
      exact (Compiler.complete_ran archived).pass
  | scripted script =>
    simp only [install] at h
    split at h <;> cases h <;> exact .refl _ host

/-- A mode builds its commands anew. -/
theorem commands_fresh (mode : Mode) (area : WorkArea) (runner : Runner) (test : TestRun) :
    ∀ command ∈ mode.commands area runner test, command.IsFresh := by
  intro command member
  cases mode with
  | jvm config =>
    rw [List.mem_singleton.mp member]
    exact ⟨rfl, rfl⟩
  | dalvikvm config =>
    rw [List.mem_singleton.mp member]
    exact ⟨rfl, rfl⟩
  | scripted script =>
    obtain ⟨words, _, rfl⟩ := List.mem_map.mp member
    exact ⟨rfl, rfl⟩

theorem countBuild_leaves (mode : Mode) (host : Host) :
    Leaves host [] (mode.countBuild host) := by
  cases mode <;> exact .quiet rfl rfl rfl rfl

end Mode

/-! ## The harness -/

namespace Harness
variable {harness : Harness} {runner : Runner} {test : TestRun} {host after : Host}

theorem buildRunner_ran {result : Except Fault Unit}
    (h : harness.buildRunner runner host = (result, after)) : Ran result host after := by
  unfold buildRunner at h
  split at h
  · next prepared =>
    cases h
    exact .inl ⟨_, Host.makeDirectories_leaves prepared⟩
  · next prepared =>
    refine .prepend ?_ (Host.makeDirectories_leaves prepared)
    split at h
    · next made =>
      cases h
      exact .inl ⟨_, Host.makeDirectories_leaves made⟩
    · next made =>
      refine .prepend ?_ (Host.makeDirectories_leaves made)
      split at h
      · next compiled =>
        cases h
        exact Compiler.compile_ran compiled
      · next compiled => exact (Compiler.compile_ran compiled).next (Mode.setUpRunner_ran h)

theorem preparationFault_endless {fault : Fault} :
    preparationFault fault = .endless ↔ fault = .endless := by
  cases fault <;> simp [preparationFault]

theorem prepare_ran {sources classpath : List Path} {result : Except Fault Runner}
    (h : harness.prepare sources classpath host = (result, after)) : Ran result host after := by
  simp only [prepare] at h
  split at h
  · cases h
    exact .refl _ host
  · split at h
    · next built =>
      cases h
      exact .inl ((buildRunner_ran built).returned)
    · next fault _ built =>
      cases h
      rcases buildRunner_ran built with leaves | ⟨stuck, waits⟩
      · exact .inl leaves
      · cases stuck
        exact .inr ⟨rfl, waits⟩

theorem compileTest_ran {result : Except Fault Classpath}
    (h : harness.compileTest test runner host = (result, after)) : Ran result host after := by
  simp only [compileTest] at h
  split at h
  · next made =>
    cases h
    exact .inl ⟨_, Host.makeDirectories_leaves made⟩
  · next made =>
    refine .prepend ?_ (Host.makeDirectories_leaves made)
    split at h
    · next written =>
      cases h
      exact .inl ⟨_, Properties.write_leaves written⟩
    · next written =>
      refine .prepend ?_ (Properties.write_leaves written)
      split at h
      · next compiled =>
        cases h
        exact (Compiler.compile_ran compiled).pass
      · next compiled => exact (Compiler.compile_ran compiled).next (Mode.install_ran h)

theorem installTest_ran {result : Except Fault Classpath}
    (h : harness.installTest test runner host = (result, after)) : Ran result host after := by
  unfold installTest at h
  split at h
  · next compiled =>
    cases h
    exact compileTest_ran compiled
  · next compiled =>
    refine (compileTest_ran compiled).next ?_
    split at h <;>
    · next prepared =>
      cases h
      exact .inl ⟨_, WorkArea.prepareUserDirectory_leaves prepared⟩

theorem build_ran {result : Except Fault TestRun}
    (h : harness.build test runner host = (result, after)) : Ran result host after := by
  simp only [build] at h
  split at h
  · cases h
    exact .refl _ host
  · split at h
    · cases h
      exact .refl _ host
    · rcases installed : harness.installTest test runner host with ⟨outcome, ready⟩
      rw [installed] at h
      cases h
      rcases installTest_ran installed with leaves | ⟨stuck, waits⟩
      · exact .inl leaves
      · cases stuck
        exact .inr ⟨rfl, waits⟩

theorem run_leaves {result : Except Fault TestRun}
    (h : harness.run test runner host = (result, after)) : ∃ blocks, Leaves host blocks after := by
  simp only [run] at h
  split at h
  · cases h
    exact ⟨[], .refl host⟩
  · split at h
    · cases h
      exact ⟨[], .refl host⟩
    · cases h
      obtain ⟨blocks, ran⟩ := runCommands_leaves harness.settings
        (harness.mode.commands harness.area runner test) [] (harness.mode.countBuild host)
        (harness.mode.commands_fresh harness.area runner test)
      exact ⟨_, (harness.mode.countBuild_leaves host).trans ran⟩

theorem cleanUp_leaves (harness : Harness) (test : TestRun) (host : Host) :
    Leaves host [] (harness.cleanUp test host) :=
  harness.area.cleanUp_leaves test.qualifiedName host

theorem shutDown_leaves {closed : Harness} (h : harness.shutDown host = (closed, after)) :
    Leaves host [] after := by
  unfold shutDown at h
  split at h <;> cases h
  · exact .refl host
  · exact harness.area.shutDown_leaves host

end Harness

/-! ## Suites -/

namespace Suite
variable {harness : Harness} {runner : Runner} {host after : Host} {result : Except Fault Unit}

theorem buildAndRun_ran {test ended : TestRun}
    (h : buildAndRun harness runner test host = (result, ended, after)) :
    Ran result host after := by
  unfold buildAndRun at h
  split at h
  · next built =>
    cases h
    exact (Harness.build_ran built).pass
  · next built =>
    refine (Harness.build_ran built).next ?_
    split at h
    · split at h <;>
      · next ran =>
        cases h
        exact .inl (Harness.run_leaves ran)
    · cases h
      exact .refl _ after

theorem runOne_ran {test ended : TestRun}
    (h : runOne harness runner test host = (result, ended, after)) : Ran result host after := by
  unfold runOne at h
  split at h
  · next ran =>
    cases h
    exact buildAndRun_ran ran
  · next fault done finished stuck ran =>
    cases h
    obtain ⟨blocks, leaves⟩ := (buildAndRun_ran ran).leaves
      fun endless => stuck (Except.error.inj endless)
    exact .inl ⟨_, leaves.trans (harness.cleanUp_leaves _ _)⟩
  · next done finished ran =>
    cases h
    obtain ⟨blocks, leaves⟩ := (buildAndRun_ran ran).returned
    exact .inl ⟨_, leaves.trans ((harness.cleanUp_leaves _ _).trans (Host.note_leaves _ _ _))⟩

theorem runEach_ran {places : List Nat} {tests ended : List TestRun}
    (h : runEach harness runner places tests host = (result, ended, after)) :
    Ran result host after := by
  induction places generalizing tests host with
  | nil =>
    cases h
    exact .refl _ _
  | cons place rest ih =>
    unfold runEach at h
    split at h
    · exact ih h
    · split at h
      · next ran =>
        cases h
        exact runOne_ran ran
      · next ran => exact (runOne_ran ran).next (ih h)

theorem prepareAndRun_ran {places : List Nat} {sources classpath : List Path}
    {tests ended : List TestRun}
    (h : prepareAndRun harness places sources classpath tests host = (result, ended, after)) :
    Ran result host after := by
  unfold prepareAndRun at h
  split at h
  · next prepared =>
    cases h
    exact (Harness.prepare_ran prepared).pass
  · next prepared =>
    exact (Harness.prepare_ran prepared).next
      ((runEach_ran h).prepend (Host.note_leaves _ _ _))

theorem runAll_ran {places : List Nat} {sources classpath : List Path}
    {tests ended : List TestRun} {closed : Harness}
    (h : runAll harness places sources classpath tests host = (result, ended, closed, after)) :
    Ran result host after := by
  simp only [runAll] at h
  split at h
  · cases h
    exact .inl ⟨_, host.note_leaves _ _⟩
  · split at h
    · next ran =>
      cases h
      exact prepareAndRun_ran ran
    · next outcome done finished stuck ran =>
      rcases released : harness.shutDown finished with ⟨shut, free⟩
      obtain ⟨blocks, leaves⟩ := (prepareAndRun_ran ran).leaves stuck
      rw [released] at h
      have released := leaves.trans (Harness.shutDown_leaves released)
      cases outcome with
      | error fault =>
        cases h
        exact .inl ⟨_, released⟩
      | ok _ =>
        cases h
        exact .inl ⟨_, released.trans (free.note_leaves _ _)⟩

end Suite
end TestBench
