import Mathlib.Data.List.Forall2
import TestBench.Proofs.Bench
import TestBench.Proofs.Suite

/-!
What a harness does once it has been shut down. It stays closed whatever is called, it refuses all
work, and the host stays as others leave it.

- `perform_closed` and `performAll_closed`: no call opens a harness again,
- `perform_refuses`: a closed harness answers a call for work and does nothing,
- `shutDown_final`: any calls for work after a shutdown, while others change the host between them.
-/
namespace TestBench
set_option autoImplicit false

/-! ## Staying closed -/

theorem Harness.shutDown_closed (harness : Harness) (host : Host) :
    (harness.shutDown host).1.closed = true := by
  unfold shutDown
  split
  · assumption
  · rfl

theorem Suite.runAll_closed {harness closed : Harness} {places : List Nat}
    {sources classpath : List Path} {tests ended : List TestRun} {host after : Host}
    {result : Except Fault Unit} (shut : harness.closed = true)
    (h : runAll harness places sources classpath tests host = (result, ended, closed, after)) :
    closed.closed = true := by
  simp only [runAll] at h
  split at h
  · cases h
    exact shut
  · split at h
    · cases h
      exact shut
    · split at h <;>
      · cases h
        exact harness.shutDown_closed _

namespace Bench

theorem settle_harness (bench : Bench) (place : Nat) (outcome : Except Fault TestRun × Host) :
    (bench.settle place outcome).2.harness = bench.harness := by
  unfold settle
  split <;> rfl

theorem perform_closed {bench : Bench} (closed : bench.harness.closed = true) (call : Call) :
    (bench.perform call).2.harness.closed = true := by
  cases call with
  | prepare sources classpath => exact closed
  | build place runner =>
    simp only [perform]
    split
    · exact closed
    · rw [settle_harness]
      exact closed
  | run place runner =>
    simp only [perform]
    split
    · exact closed
    · rw [settle_harness]
      exact closed
  | cleanUp place =>
    simp only [perform]
    split <;> exact closed
  | shutDown => exact bench.harness.shutDown_closed bench.host
  | suite places sources classpath => exact Suite.runAll_closed closed rfl

theorem performAll_closed {bench : Bench} (closed : bench.harness.closed = true)
    (calls : List Call) : (bench.performAll calls).2.harness.closed = true := by
  induction calls generalizing bench with
  | nil => exact closed
  | cons call rest ih =>
    have next := perform_closed closed call
    unfold performAll
    split
    · next performed =>
      rw [performed] at next
      exact next
    · next performed =>
      rw [performed] at next
      exact ih next

end Bench

/-! ## Refusing work -/

/-- A call that asks a harness for work or for its end. Cleaning up is possible at any time, and
whole suites are made of the other calls. -/
def Call.IsWork : Call → Prop
  | .prepare _ _ => True
  | .build _ _ => True
  | .run _ _ => True
  | .shutDown => True
  | .cleanUp _ => False
  | .suite _ _ _ => False

/-- A call has come to a fault of the kind that a label names. -/
def Raises (label : String) (result : Except Fault Unit) : Prop :=
  ∃ fault, result = .error fault ∧ fault.label = label

namespace Bench

/-- How a harness that has been shut down answers calls for work on the tests of a table. -/
def Refuses (tests : List TestRun) : Call → Except Fault Unit → Prop
  | .prepare _ _, result => Raises "RuntimeError" result
  | .build place _, result => ∀ test : TestRun, tests[place]? = some test →
      Raises "RuntimeError" result
  | .run place _, result => ∀ test : TestRun, tests[place]? = some test →
      Raises (if test.isRunnable then "RuntimeError" else "ValueError") result
  | .shutDown, result => result = .ok ()
  | .cleanUp _, _ => True
  | .suite _ _ _, _ => True

theorem perform_refuses {bench : Bench} (closed : bench.harness.closed = true) {call : Call}
    (work : call.IsWork) :
    (bench.perform call).2 = bench ∧ Refuses bench.tests call (bench.perform call).1 := by
  cases call with
  | prepare sources classpath =>
    simp only [perform, Harness.prepare, closed, if_true]
    exact ⟨trivial, Harness.closedFault, rfl, rfl⟩
  | build place runner =>
    cases found : bench.tests[place]? with
    | none => simp [perform, Refuses, found]
    | some test =>
      simp only [perform, found, Harness.build, closed, if_true, settle]
      exact ⟨trivial, fun _ _ => ⟨Harness.closedFault, rfl, rfl⟩⟩
  | run place runner =>
    cases found : bench.tests[place]? with
    | none => simp [perform, Refuses, found]
    | some test =>
      cases runnable : test.isRunnable with
      | true =>
        simp only [perform, found, Harness.run, runnable, closed, settle, Refuses]
        refine ⟨rfl, ?_⟩
        rintro _ ⟨⟩
        rw [if_pos runnable]
        exact ⟨Harness.closedFault, rfl, rfl⟩
      | false =>
        simp only [perform, found, Harness.run, runnable, settle, Refuses]
        refine ⟨rfl, ?_⟩
        rintro _ ⟨⟩
        rw [if_neg (by simp [runnable])]
        exact ⟨.badValue (test.qualifiedName ++ " is not runnable"), rfl, rfl⟩
  | shutDown =>
    simp only [perform, Harness.shutDown, closed, if_true]
    exact ⟨trivial, rfl⟩
  | cleanUp place => exact work.elim
  | suite places sources classpath => exact work.elim

end Bench

/-! ## Calls after the end -/

/-- A call, and what others do to the host before it is made. -/
structure Turn where
  meanwhile : Host → Host
  call : Call

namespace Bench

/-- Makes calls one after the other, with what each of them comes to. -/
def performTurns (bench : Bench) : List Turn → List (Except Fault Unit) × Bench
  | [] => ([], bench)
  | turn :: rest =>
    let (result, after) := perform { bench with host := turn.meanwhile bench.host } turn.call
    let (results, last) := after.performTurns rest
    (result :: results, last)

/-- The bench on which only others have worked. -/
def leftTo (bench : Bench) (turns : List Turn) : Bench :=
  { bench with host := turns.foldl (fun host turn => turn.meanwhile host) bench.host }

theorem performTurns_refuses {bench : Bench} (closed : bench.harness.closed = true)
    {turns : List Turn} (work : ∀ turn ∈ turns, turn.call.IsWork) :
    (bench.performTurns turns).2 = bench.leftTo turns ∧
      List.Forall₂ (Refuses bench.tests) (turns.map Turn.call) (bench.performTurns turns).1 := by
  induction turns generalizing bench with
  | nil => exact ⟨rfl, .nil⟩
  | cons turn rest ih =>
    -- Others change the host only, so the harness that the call meets is still closed.
    have met : ({ bench with host := turn.meanwhile bench.host } : Bench).harness.closed = true :=
      closed
    obtain ⟨same, refused⟩ := perform_refuses met (work turn List.mem_cons_self)
    obtain ⟨left, others⟩ := ih met fun other member => work other (List.mem_cons_of_mem _ member)
    simp only [performTurns, same]
    exact ⟨left, .cons refused others⟩

/-- A harness that has been shut down stays closed for good, whatever else is called. Each further
call for work is refused, each further shutdown returns, and together they change neither the tests
nor the host: no process is started or killed and no entry of the disk is touched, even if others
have made the base directory again. -/
theorem shutDown_final (bench : Bench) (more : List Call) (turns : List Turn)
    (work : ∀ turn ∈ turns, turn.call.IsWork) :
    let shut := (bench.performAll (.shutDown :: more)).2
    shut.harness.closed = true ∧
      (shut.performTurns turns).2 = shut.leftTo turns ∧
      List.Forall₂ (Refuses shut.tests) (turns.map Turn.call) (shut.performTurns turns).1 := by
  have closed : (bench.performAll (.shutDown :: more)).2.harness.closed = true :=
    performAll_closed (bench.harness.shutDown_closed bench.host) more
  exact ⟨closed, performTurns_refuses closed work⟩

/-! ## A sample -/

/-- Calls for work before which somebody makes the base directory again. -/
def sampleTurns : List Turn :=
  [⟨fun host => (host.makeDirectories true (.parse "/work")).2, .prepare [] []⟩,
    ⟨id, .build 0 (.of [] [] (.parse "/work/testrunner"))⟩,
    ⟨id, .run 0 (.of [] [] (.parse "/work/testrunner"))⟩, ⟨id, .shutDown⟩]

theorem shutDown_final_sample :
    (∀ turn ∈ sampleTurns, turn.call.IsWork) ∧
      let shut := (performAll ⟨Suite.sampleHarness, [Samples.test], Suite.sampleHost⟩
        [.shutDown]).2
      (shut.performTurns sampleTurns).2 = shut.leftTo sampleTurns ∧
      shut.host.disk.isDirectory (.parse "/work") = .ok false ∧
      (shut.leftTo sampleTurns).host.disk.isDirectory (.parse "/work") = .ok true := by
  have work : ∀ turn ∈ sampleTurns, turn.call.IsWork := by simp [sampleTurns, Call.IsWork]
  refine ⟨work, (shutDown_final _ [] sampleTurns work).2.1, ?_, ?_⟩
  · decide +kernel
  · decide +kernel

end Bench
end TestBench
