import TestBench.Proofs.Reporting
import TestBench.Proofs.Tools

/-!
How the preparation of a harness fails. The faults of its tools become faults of the preparation,
and these end a session with the exit code for tests that could not be run.

- `Fault.IsPreparation` and `Escapes`: the faults that `prepare` raises,
- `Session.EndsIn`: how every session ends that comes to prepare a harness,
- `prepare_reports`: what `prepare` tells of the tools that it has run,
- `prepare_escapes_sample`: a null character in the name of a tool is not told of.
-/
namespace TestBench
set_option autoImplicit false

/-! ## Faults -/

def Fault.IsPreparation (fault : Fault) : Prop :=
  ∃ message cause, fault = .preparation message cause

/-- The faults of tools that `preparationFault` lets through: a null character in an argument, and
whatever a program shows that is neither a refusal of the system nor a failure of a command. -/
inductive Escapes (programs : List (String × List Behaviour)) (tools : List (List String)) :
    Fault → Prop where
  | null {arguments : List String} {argument : String} (tool : arguments ∈ tools)
      (member : argument ∈ arguments) (holds : HoldsNull argument) :
      Escapes programs tools .nullCharacter
  | shown {arguments : List String} {behaviour : Behaviour} {label : String} {detail : Detail}
      (tool : arguments ∈ tools) (supplied : Supplied programs (Host.program arguments) behaviour)
      (faulty : behaviour.startFault = some (.other label detail) ∨
        behaviour.readFault = some (.other label detail)) :
      Escapes programs tools (.other label detail)

namespace Escapes
variable {programs : List (String × List Behaviour)} {tools : List (List String)} {fault : Fault}

theorem not_preparation (h : Escapes programs tools fault) : ¬fault.IsPreparation := by
  rintro ⟨message, cause, rfl⟩
  cases h

end Escapes

theorem Harness.preparationFault_hinders {programs : List (String × List Behaviour)}
    {tools : List (List String)} {fault : Fault}
    (ends : ∀ arguments ∈ tools, Ends programs (Host.program arguments))
    (h : Hinders programs tools fault) :
    (preparationFault fault).IsPreparation ∨
      Escapes programs tools (preparationFault fault) := by
  have returns := h.returns ends
  cases h with
  | refused refusal detail => exact .inl ⟨_, _, rfl⟩
  | null tool member holds => exact .inr (.null tool member holds)
  | shown tool supplied faulty =>
    cases fault with
    | system refusal detail => exact .inl ⟨_, _, rfl⟩
    | commandFailed arguments status output => exact .inl ⟨_, _, rfl⟩
    | preparation message cause => exact .inl ⟨_, _, rfl⟩
    | other label detail => exact .inr (.shown tool supplied faulty)
    | endless => exact absurd rfl returns

/-! ## Sessions -/

theorem Suite.runAll_unprepared {harness : Harness} {places : List Nat}
    {sources classpath : List Path} {host failed : Host} {fault : Fault} (something : places ≠ [])
    (refused : harness.prepare sources classpath host = (.error fault, failed))
    (tests : List TestRun) :
    (runAll harness places sources classpath tests host).1 = .error fault := by
  simp only [runAll, if_neg something, prepareAndRun, refused]
  cases fault <;> rfl

namespace Session

/-- Every session that comes to prepare a harness on a host ends in the same way. -/
def EndsIn (harness : Harness) (sources classpath : List Path) (host : Host) (ending : Ending) :
    Prop :=
  ∀ options settings mode temporary tests start, tests ≠ [] →
    harnessOf options settings mode temporary = harness →
    options.runnerClasspath = classpath →
    chooseArea options temporary start = (.ok harness.area, host) →
    Discovery.runnerSources host.disk settings.runnerSourceRoot = .ok sources →
    (runSuite options settings mode temporary tests start).1 = ending

section EndsIn
variable {harness : Harness} {sources classpath : List Path} {host failed : Host} {fault : Fault}

theorem endsIn_conclude
    (refused : harness.prepare sources classpath host = (.error fault, failed)) {ending : Ending}
    (concludes : ∀ tests after, (conclude (.error fault) tests after).1 = ending) :
    EndsIn harness sources classpath host ending := by
  rintro options settings mode temporary tests start something rfl rfl chosen found
  have places : List.range tests.length ≠ [] := by simpa using something
  have ended := Suite.runAll_unprepared places refused tests
  unfold runSuite
  rw [chosen]
  dsimp only
  rw [found]
  dsimp only
  exact ended ▸ concludes _ _

theorem endsIn_preparation (same : fault.IsPreparation)
    (refused : harness.prepare sources classpath host = (.error fault, failed)) :
    EndsIn harness sources classpath host (.exit notRunCode "" "") := by
  obtain ⟨message, cause, rfl⟩ := same
  exact endsIn_conclude refused fun _ _ => rfl

theorem endsIn_escapes {programs : List (String × List Behaviour)} {tools : List (List String)}
    (escapes : Escapes programs tools fault)
    (refused : harness.prepare sources classpath host = (.error fault, failed)) :
    EndsIn harness sources classpath host (.broken (.fault fault)) := by
  refine endsIn_conclude refused fun tests after => ?_
  cases escapes <;> rfl

end EndsIn
end Session

/-! ## Preparing -/

/-- The fault of a preparation in which a tool has failed: its message ends with all lines of the
tool. -/
def Fault.ofToolLines (lines : List String) : Fault :=
  .preparation ("Failed to build test runner:\n" ++ "\n".intercalate lines)
    (some "CommandFailedError")

namespace Harness

/-- A preparation runs the compiler and then the archiver, and none after one that has not passed.
It comes to a test runner if all have passed. If one has exited with another status than zero, the
fault holds all its lines. Whatever else fails is a fault of the preparation too, and sessions end
with the exit code for it; only a null character in an argument of a tool and a fault that a tool
shows without being refused by the system are passed on, and they end a session as they are. -/
theorem prepare_reports {harness : Harness} {host : Host} (opened : harness.closed = false)
    (equipped : harness.IsEquipped) (ends : harness.ToolsEnd host.programs)
    (sources classpath : List Path) :
    ∃ blocks result after, harness.prepare sources classpath host = (result, after) ∧
      Leaves host blocks after ∧
      blocks.map Block.command <+:
        toolCommands (harness.runnerTools (harness.runnerOf sources classpath)) ∧
      (∀ block ∈ blocks.dropLast, block.Exits 0) ∧
      (∀ block ∈ blocks, ∀ status, block.Exits status → status ≠ 0 →
        result = .error (.ofToolLines block.lines)) ∧
      match result with
      | .ok runner => runner = harness.runnerOf sources classpath ∧
          blocks.map Block.command = toolCommands (harness.runnerTools runner) ∧
          ∀ block ∈ blocks, block.Exits 0
      | .error fault =>
        (fault.IsPreparation ∧
          Session.EndsIn harness sources classpath host (.exit Session.notRunCode "" "")) ∨
        (Escapes host.programs (harness.runnerTools (harness.runnerOf sources classpath)) fault ∧
          Session.EndsIn harness sources classpath host (.broken (.fault fault))) := by
  rcases built : harness.buildRunner (harness.runnerOf sources classpath) host with ⟨outcome, after⟩
  have prepared : harness.prepare sources classpath host =
      ((outcome.map fun _ => harness.runnerOf sources classpath).mapError preparationFault,
        after) := by
    unfold runnerOf at built ⊢
    simp only [prepare, opened, built]
    cases outcome <;> rfl
  obtain ⟨blocks, works⟩ := buildRunner_works equipped ends rfl built
  refine ⟨blocks, _, after, prepared, works.leaves, works.order, works.onward, ?_, ?_⟩
  · intro block member status exits nonzero
    rw [works.told block member status exits nonzero]
    rfl
  · cases outcome with
    | ok value => exact ⟨rfl, works.passed value rfl⟩
    | error fault =>
      have known : (preparationFault fault).IsPreparation ∨ Escapes host.programs
          (harness.runnerTools (harness.runnerOf sources classpath)) (preparationFault fault) := by
        rcases works.failed fault rfl with ⟨block, member, status, nonzero, exits⟩ | hinders
        · cases works.told block member status exits nonzero
          exact .inl ⟨_, _, rfl⟩
        · exact preparationFault_hinders (fun _ tool => ends _ (mem_tools tool)) hinders
      exact known.imp (fun same => ⟨same, Session.endsIn_preparation same prepared⟩)
        fun escapes => ⟨escapes, Session.endsIn_escapes escapes prepared⟩

/-! ## A sample

A compiler that passes, and an archiver that fails or cannot be named. -/

/-- A harness for a Dalvik machine, with the name of its archiver. -/
def sampleDalvik (dx : String) : Harness :=
  .start (.dalvikvm ⟨"dalvikvm", dx, Mode.usualMainClass, []⟩) ⟨.parse "/work", false, none⟩
    Suite.sampleHarness.settings (.usual "javac")

def sampleDx : Behaviour :=
  ⟨Text.Utf8.encode "bad\nworse\n".toList, some 5, 1, some 5, none, none, .natural, false⟩

def sampleTools : Host :=
  .fresh ⟨[], some []⟩ 0 [("javac", [Suite.sampleProcess (some 10)]), ("dx", [sampleDx])]

theorem sampleDalvik_equipped (dx : String) : (sampleDalvik dx).IsEquipped :=
  ⟨⟨_, _, _, rfl⟩, .inr ⟨_, rfl⟩⟩

theorem sampleTools_end (dx : String) : (sampleDalvik dx).ToolsEnd sampleTools.programs := by
  rintro program - behaviour ⟨behaviours, inside, supplied⟩
  have shown : behaviour = Suite.sampleProcess (some 10) ∨ behaviour = sampleDx := by
    rcases List.mem_cons.mp inside with javac | inside
    · cases javac
      exact .inl (List.mem_singleton.mp supplied)
    · cases List.mem_singleton.mp inside
      exact .inr (List.mem_singleton.mp supplied)
  rcases shown with rfl | rfl <;> exact ⟨nofun, nofun, fun _ _ => ⟨rfl, rfl⟩⟩

theorem prepare_reports_sample :
    ∃ blocks after, (sampleDalvik "dx").prepare [] [] sampleTools =
        (.error (.ofToolLines ["bad", "worse"]), after) ∧
      Leaves sampleTools blocks after ∧ (∀ block ∈ blocks.dropLast, block.Exits 0) ∧
      Session.EndsIn (sampleDalvik "dx") [] [] sampleTools (.exit Session.notRunCode "" "") := by
  have told : ((sampleDalvik "dx").prepare [] [] sampleTools).1 =
      .error (.ofToolLines ["bad", "worse"]) := by
    decide +kernel
  obtain ⟨blocks, result, after, prepared, leaves, -, onward, -, ending⟩ :=
    prepare_reports rfl (sampleDalvik_equipped "dx") (sampleTools_end "dx") [] []
  rw [prepared] at told
  obtain rfl : result = .error (.ofToolLines ["bad", "worse"]) := told
  rcases ending with ⟨-, ends⟩ | ⟨escapes, -⟩
  · exact ⟨blocks, after, prepared, leaves, onward, ends⟩
  · exact absurd ⟨_, _, rfl⟩ escapes.not_preparation

def sampleOptions : CommandLine.Options :=
  { Session.sampleOptions with
    mode := "dalvikvm"
    modeConfig := some "\x7b\"dx\": \"d\\u0000x\"\x7d" }

/-- A null character in the name of the archiver is found after the compiler has passed, and a
session ends in that fault. -/
theorem prepare_escapes_sample :
    (sampleDalvik "d\x00x").closed = false ∧ (sampleDalvik "d\x00x").IsEquipped ∧
      (sampleDalvik "d\x00x").ToolsEnd sampleTools.programs ∧
      ((sampleDalvik "d\x00x").prepare [] [] sampleTools).1 = .error .nullCharacter ∧
      ¬Fault.nullCharacter.IsPreparation ∧
      (Session.perform .standard sampleOptions (.parse "/tmp") Session.sampleHost).1 =
        .broken (.fault .nullCharacter) := by
  refine ⟨rfl, sampleDalvik_equipped _, sampleTools_end _, by decide +kernel, nofun, ?_⟩
  decide +kernel

end Harness
end TestBench
