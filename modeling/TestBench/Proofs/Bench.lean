import TestBench.Proofs.Operations

/-!
A bench: a harness, a table of tests and the host on which it works. Calls of the harness and whole
suites follow each other in any order, and a fault of one call does not keep the next from being
made; only a call that never returns is the last one.

- `performAll`: a sequence of calls,
- `performAll_blocks`: every process that these calls start is killed before the next one starts,
  once, with its group, and nothing else is.
-/
namespace TestBench
set_option autoImplicit false

/-- A harness, a table of tests and a host. -/
structure Bench where
  harness : Harness
  tests : List TestRun
  host : Host

/-- What is asked of a bench. Tests are named by their places in the table. -/
inductive Call where
  | prepare (sources classpath : List Path)
  | build (place : Nat) (runner : Runner)
  | run (place : Nat) (runner : Runner)
  | cleanUp (place : Nat)
  | shutDown
  | suite (places : List Nat) (sources classpath : List Path)

namespace Bench

/-- The bench after an operation on a test that may change it. -/
def settle (bench : Bench) (place : Nat) (outcome : Except Fault TestRun × Host) :
    Except Fault Unit × Bench :=
  match outcome with
  | (.error fault, after) => (.error fault, { bench with host := after })
  | (.ok test, after) =>
    (.ok (), { bench with tests := bench.tests.set place test, host := after })

/-- Makes a call. A place without a test asks for nothing. -/
def perform (bench : Bench) : Call → Except Fault Unit × Bench
  | .prepare sources classpath =>
    let (result, after) := bench.harness.prepare sources classpath bench.host
    (result.map fun _ => (), { bench with host := after })
  | .build place runner =>
    match bench.tests[place]? with
    | none => (.ok (), bench)
    | some test => bench.settle place (bench.harness.build test runner bench.host)
  | .run place runner =>
    match bench.tests[place]? with
    | none => (.ok (), bench)
    | some test => bench.settle place (bench.harness.run test runner bench.host)
  | .cleanUp place =>
    match bench.tests[place]? with
    | none => (.ok (), bench)
    | some test => (.ok (), { bench with host := bench.harness.cleanUp test bench.host })
  | .shutDown =>
    let (closed, after) := bench.harness.shutDown bench.host
    (.ok (), { bench with harness := closed, host := after })
  | .suite places sources classpath =>
    let (result, tests, harness, after) :=
      Suite.runAll bench.harness places sources classpath bench.tests bench.host
    (result, ⟨harness, tests, after⟩)

/-- Makes calls one after the other. The only fault that it comes to is that a call never
returns. -/
def performAll (bench : Bench) : List Call → Except Fault Unit × Bench
  | [] => (.ok (), bench)
  | call :: rest =>
    match bench.perform call with
    | (.error .endless, stuck) => (.error .endless, stuck)
    | (_, after) => after.performAll rest

/-! ## One call -/

theorem settle_ran {bench after : Bench} {place : Nat} {outcome : Except Fault TestRun × Host}
    {result : Except Fault Unit} (h : bench.settle place outcome = (result, after))
    (ran : Ran outcome.1 bench.host outcome.2) : Ran result bench.host after.host := by
  obtain ⟨fault | test, ended⟩ := outcome
  · cases h
    exact ran.pass
  · cases h
    exact .inl (ran.returned)

theorem perform_ran {bench after : Bench} {call : Call} {result : Except Fault Unit}
    (h : bench.perform call = (result, after)) : Ran result bench.host after.host := by
  cases call with
  | prepare sources classpath =>
    rcases prepared : bench.harness.prepare sources classpath bench.host with ⟨outcome, ready⟩
    simp only [perform, prepared] at h
    cases h
    cases outcome with
    | error fault => exact (Harness.prepare_ran prepared).pass
    | ok runner => exact .inl ((Harness.prepare_ran prepared).returned)
  | build place runner =>
    simp only [perform] at h
    split at h
    · cases h
      exact .refl _ _
    · exact settle_ran h (Harness.build_ran rfl)
  | run place runner =>
    simp only [perform] at h
    split at h
    · cases h
      exact .refl _ _
    · exact settle_ran h (.inl (Harness.run_leaves rfl))
  | cleanUp place =>
    simp only [perform] at h
    split at h <;> cases h
    · exact .refl _ _
    · exact .inl ⟨_, bench.harness.cleanUp_leaves _ _⟩
  | shutDown =>
    cases h
    exact .inl ⟨_, Harness.shutDown_leaves rfl⟩
  | suite places sources classpath =>
    cases h
    exact Suite.runAll_ran rfl

/-! ## All calls -/

theorem performAll_ran (bench : Bench) (calls : List Call) :
    Ran (bench.performAll calls).1 bench.host (bench.performAll calls).2.host := by
  induction calls generalizing bench with
  | nil => exact .refl _ _
  | cons call rest ih =>
    unfold performAll
    split
    · next performed => exact perform_ran performed
    · next result after returns performed =>
      obtain ⟨blocks, leaves⟩ := (perform_ran performed).leaves returns
      exact (ih after).prepend leaves

/-- Whatever is called and whatever the processes do, the record grows by blocks: a start that was
refused, or a start and the kill of what was started. Processes that yield to their kill never run
side by side and are over in the end. If a call never returns, the last record is the start of the
process that it waits for. -/
theorem performAll_blocks (bench : Bench) (calls : List Call) :
    ∃ blocks : List Block,
      let processes := blocks.flatMap Block.processes
      let after := (bench.performAll calls).2.host
      (after.events = bench.host.events ++ blocks.flatMap Block.events ∧
        after.processes = bench.host.processes ++ processes ∧
        ((∀ block ∈ blocks, block.Yields) →
          processes.Pairwise Process.Apart ∧
            ∀ process ∈ processes, process.isAliveAt after.now = false)) ∨
      ((bench.performAll calls).1 = .error .endless ∧ ∃ (command : Command) (behaviour : Behaviour),
        let waiting := command.newProcess behaviour after.now
        after.events = bench.host.events ++ blocks.flatMap Block.events ++ [command.launch] ∧
        after.processes = bench.host.processes ++ processes ++ [waiting] ∧
        ((command.withProcess (bench.host.processes ++ processes).length).gather after).1 =
          .error .endless ∧
        ((∀ block ∈ blocks, block.Yields) → (processes ++ [waiting]).Pairwise Process.Apart)) := by
  rcases performAll_ran bench calls with ⟨blocks, leaves⟩ | ⟨stuck, blocks, waits⟩
  · refine ⟨blocks, .inl ⟨leaves.events, leaves.processes, fun yields => ?_⟩⟩
    obtain ⟨pairs, exits⟩ := leaves.timely.apart yields
    exact ⟨pairs, fun process member => Process.isAliveAt_of_exited (exits process member)⟩
  · refine ⟨blocks, .inr ⟨stuck, ?_⟩⟩
    generalize (bench.performAll calls).2.host = after at waits
    obtain ⟨command, behaviour, left, leaves, endless⟩ := waits
    refine ⟨command, behaviour, ?_, ?_, ?_, fun yields => ?_⟩
    · simp only [Command.begunHost, Host.record, leaves.events]
    · simp only [Command.begunHost, Host.record, leaves.processes]
    · rw [← leaves.processes]
      exact endless
    · obtain ⟨pairs, exits⟩ := leaves.timely.apart yields
      refine List.pairwise_append.mpr ⟨pairs, List.pairwise_singleton _ _, ?_⟩
      intro process member waiting own
      rw [List.mem_singleton.mp own]
      exact Process.apart_of_exited (exits process member) (Nat.le_refl _)

end Bench
end TestBench
