import TestBench.Proofs.Footprint
import TestBench.Proofs.Outcome

/-!
Moments of a suite. Whatever a suite records as started was started for one of its tests, at a
moment that the tests before it and the steps of its own build lead to.

- `Accounts`: every start in a record belongs to a moment of some kind,
- `Harness.Starts`: the moments at which a compiler, an archiver or a machine is started for a test,
- `Suite.Comes`: the moments at which a suite comes to a test,
- `runAll_accounts`: there are no others.
-/
namespace TestBench
set_option autoImplicit false

/-! ## Accounts -/

/-- Each start that was recorded from one host to another is that of a command at a moment, and what
was recorded until then is the record of that moment. -/
def Accounts (starts : Command → Host → Prop) (host after : Host) : Prop :=
  ∃ events, after.events = host.events ++ events ∧
    ∀ past arguments directory environment rest,
      events = past ++ .spawn arguments directory environment :: rest →
      ∃ command moment, starts command moment ∧ moment.events = host.events ++ past ∧
        command.launch = .spawn arguments directory environment

namespace Accounts
variable {starts : Command → Host → Prop} {host middle after : Host}

theorem quiet (starts : Command → Host → Prop) (events : after.events = host.events) :
    Accounts starts host after := by
  refine ⟨[], by rw [events, List.append_nil], ?_⟩
  intro past arguments directory environment rest none
  simp at none

theorem mono (h : Accounts starts host after) {starts' : Command → Host → Prop}
    (imp : ∀ command moment, starts command moment → starts' command moment) :
    Accounts starts' host after := by
  obtain ⟨events, recorded, all⟩ := h
  refine ⟨events, recorded, fun past arguments directory environment rest split => ?_⟩
  obtain ⟨command, moment, found, same⟩ := all past arguments directory environment rest split
  exact ⟨command, moment, imp command moment found, same⟩

theorem trans (first : Accounts starts host middle) (second : Accounts starts middle after) :
    Accounts starts host after := by
  obtain ⟨earlier, recorded, all⟩ := first
  obtain ⟨later, recorded', all'⟩ := second
  refine ⟨earlier ++ later, by rw [recorded', recorded, List.append_assoc], ?_⟩
  intro past arguments directory environment rest split
  rcases List.append_eq_append_iff.mp split with ⟨front, rfl, late⟩ | ⟨back, early, late⟩
  · obtain ⟨command, moment, found, events, launch⟩ := all' front _ _ _ _ late
    exact ⟨command, moment, found, by rw [events, recorded, List.append_assoc], launch⟩
  · cases back with
    | nil =>
      -- The start is the first that the second part records.
      obtain ⟨command, moment, found, events, launch⟩ := all' [] _ _ _ _ late.symm
      rw [List.append_nil] at early events
      exact ⟨command, moment, found, by rw [events, recorded, early], launch⟩
    | cons event more =>
      rw [List.cons_append] at late
      obtain ⟨rfl, -⟩ := List.cons.inj late
      exact all past _ _ _ _ early

/-- The start at a place of the record. -/
theorem find (h : Accounts starts host after) {past rest : List Event} {arguments : List String}
    {directory : Option Path} {environment : Option (List (String × String))}
    (recorded : after.events =
      host.events ++ past ++ .spawn arguments directory environment :: rest) :
    ∃ command moment, starts command moment ∧ moment.events = host.events ++ past ∧
      command.launch = .spawn arguments directory environment := by
  obtain ⟨events, grown, all⟩ := h
  rw [grown, List.append_assoc] at recorded
  exact all past _ _ _ _ (List.append_cancel_left recorded)

end Accounts

theorem Block.events_cons (block : Block) :
    ∃ kills, block.events = block.command.launch :: kills ∧
      ∀ event ∈ kills, event.isStart = false := by
  have starts := block.events_starts
  cases block with
  | refused command => exact ⟨[], rfl, by simp⟩
  | ended command behaviour startedAt killedAt =>
    refine ⟨_, rfl, fun event member => ?_⟩
    rw [events, List.filter_cons_of_pos rfl] at starts
    have none := (List.cons.inj starts).2
    rw [List.filter_eq_nil_iff] at none
    simpa using none event member

/-- One start of a command, made on a host. -/
def Once (command : Command) (host : Host) : Command → Host → Prop :=
  fun other moment => other = command ∧ moment = host

theorem Accounts.once {command : Command} {host after : Host} {kills : List Event}
    (recorded : after.events = host.events ++ command.launch :: kills)
    (others : ∀ event ∈ kills, event.isStart = false) :
    Accounts (Once command host) host after := by
  refine ⟨command.launch :: kills, recorded, fun past arguments directory environment rest split => ?_⟩
  cases past with
  | nil =>
    refine ⟨command, host, ⟨rfl, rfl⟩, (List.append_nil _).symm, ?_⟩
    exact (List.cons.inj split).1
  | cons event more =>
    obtain ⟨-, later⟩ := List.cons.inj split
    have none := others (.spawn arguments directory environment) (by simp [later])
    cases none

theorem Leaves.once {host after : Host} {block : Block} (h : Leaves host [block] after) :
    Accounts (Once block.command host) host after := by
  obtain ⟨kills, events, others⟩ := block.events_cons
  refine .once ?_ others
  rw [h.events, List.flatMap_cons, List.flatMap_nil, List.append_nil, events]

theorem Compiler.complete_accounts {arguments : List String} {host after : Host}
    {result : Except Fault Unit} (h : complete arguments host = (result, after)) :
    Accounts (Once (.ofArguments arguments none) host) host after := by
  rcases executed : (Command.ofArguments arguments none).execute host with ⟨outcome, ended, finished⟩
  have same : finished = after := by
    unfold complete at h
    rw [executed] at h
    cases outcome <;> exact (Prod.mk.inj h).2
  rw [← same]
  rcases Command.execute_leaves ⟨rfl, rfl⟩ executed with
    ⟨block, own, leaves⟩ | ⟨-, behaviour, left, waiting, -⟩
  · rw [← own]
    exact leaves.once
  · have events : finished.events = host.events ++ [(Command.ofArguments arguments none).launch] := by
      rw [waiting]
      rfl
    exact .once events (by simp)

/-! ## What is started for a test -/

namespace Mode

/-- The command of an archiver. -/
def archiveArguments (config : DalvikConfig) (classes output : Path) : List String :=
  [config.dx, "--dex", "--output=" ++ output.toString, classes.toString]

theorem archive_eq (config : DalvikConfig) (classes output : Path) (host : Host) :
    archive config classes output host =
      Compiler.complete (archiveArguments config classes output) host := rfl

end Mode

namespace Harness

/-- A harness gets to the compilation of a test: it is open, the test is supported, its directory
has been made and its properties have been written. -/
structure Readies (harness : Harness) (test : TestRun) (host written : Host) : Prop where
  opened : harness.closed = false
  supported : isSupported test.source = true
  wrote : ∃ made file,
    host.makeDirectories true (harness.area.classesDirectory test.qualifiedName) = (.ok (), made) ∧
      Properties.write (harness.area.classesDirectory test.qualifiedName)
        (harness.testProperties test) propertiesComment made = (.ok file, written)

theorem Readies.leaves {harness : Harness} {test : TestRun} {host written : Host}
    (h : harness.Readies test host written) : Leaves host [] written := by
  obtain ⟨made, file, makes, writes⟩ := h.wrote
  exact (Host.makeDirectories_leaves makes).trans (Properties.write_leaves writes)

/-- What a harness starts when it comes to a test on a host, and the host on which it starts it: the
compiler, then the archiver of its mode if it has one, and in the end the machine. -/
inductive Starts (harness : Harness) (runner : Runner) (test : TestRun) (host : Host) :
    Command → Host → Prop where
  | compiler {written : Host} {executable encoding : String} {debug : Bool}
      (readies : harness.Readies test host written)
      (tool : harness.compiler = .javac executable encoding debug) :
      Starts harness runner test host (.ofArguments
        (Compiler.arguments executable encoding debug (harness.testJob test runner)) none) written
  | archiver {written compiled : Host} {config : Mode.DalvikConfig}
      (readies : harness.Readies test host written)
      (compiles : harness.compiler.compile (harness.testJob test runner) written =
        (.ok (), compiled))
      (mode : harness.mode = .dalvikvm config) :
      Starts harness runner test host (.ofArguments (Mode.archiveArguments config
        (harness.area.classesDirectory test.qualifiedName)
        (Mode.testArchive harness.area test.qualifiedName)) none) compiled
  | machine {built : TestRun} {installed : Host} {command : Command}
      (builds : harness.build test runner host = (.ok built, installed))
      (runnable : built.isRunnable = true)
      (only : harness.mode.commands harness.area runner built = [command]) :
      Starts harness runner test host command installed

/-- The steps by which a test was made ready to run. -/
theorem build_steps {harness : Harness} {runner : Runner} {test built : TestRun}
    {host after : Host} (builds : harness.build test runner host = (.ok built, after))
    (runnable : built.isRunnable = true) :
    ∃ written compiled installed classpath, harness.Readies test host written ∧
      harness.compiler.compile (harness.testJob test runner) written = (.ok (), compiled) ∧
      harness.mode.install harness.area test.qualifiedName compiled =
        (.ok classpath, installed) ∧
      harness.area.prepareUserDirectory test.qualifiedName installed = (.ok (), after) ∧
      built = test.withClasspath classpath := by
  obtain ⟨classpath, installs, same⟩ := build_installed builds runnable
  simp only [build] at builds
  split at builds
  · cases builds
  · next opened =>
    split at builds
    · obtain ⟨record, -⟩ := Prod.mk.inj builds
      have settled := (TestRun.isRunnable_iff.mp runnable).2
      rw [TestRun.setResult_recorded record] at settled
      cases settled
    · next supported =>
      simp only [Bool.not_eq_true', Bool.not_eq_false, Bool.not_eq_true] at opened supported
      unfold installTest at installs
      split at installs
      · cases installs
      · next compiles =>
        simp only [compileTest] at compiles
        split at compiles
        · cases compiles
        · next made =>
          split at compiles
          · cases compiles
          · next wrote =>
            split at compiles
            · cases compiles
            · next compiled =>
              split at installs
              · cases installs
              · next prepared =>
                cases installs
                exact ⟨_, _, _, _, ⟨opened, supported, _, _, made, wrote⟩, compiled, compiles,
                  prepared, same⟩

/-- The steps by which a test runner was prepared. -/
theorem prepare_steps {harness : Harness} {sources classpath : List Path} {runner : Runner}
    {host ready : Host}
    (prepared : harness.prepare sources classpath host = (.ok runner, ready)) :
    runner = .of sources classpath harness.area.runnerClasses ∧
      ∃ begun made compiled, harness.area.prepare host = (.ok (), begun) ∧
        begun.makeDirectories true harness.area.runnerClasses = (.ok (), made) ∧
        harness.compiler.compile (harness.runnerJob runner) made = (.ok (), compiled) ∧
        harness.mode.setUpRunner runner compiled = (.ok (), ready) := by
  simp only [prepare] at prepared
  split at prepared
  · cases prepared
  · split at prepared
    · next built =>
      cases prepared
      unfold buildRunner at built
      split at built
      · cases built
      · next begun =>
        split at built
        · cases built
        · next made =>
          split at built
          · cases built
          · next compiled => exact ⟨rfl, _, _, _, begun, made, compiled, built⟩
    · cases prepared

/-! ## The disk at a start -/

section Disk
variable {harness : Harness} {runner : Runner} {test : TestRun} {host written moment : Host}
  {command : Command} {P : Disk → Prop}

theorem Readies.preserves (all : harness.area.Preserves test.qualifiedName P) (kept : P host.disk)
    (h : harness.Readies test host written) : P written.disk := by
  obtain ⟨made, file, makes, writes⟩ := h.wrote
  refine Properties.write_preserves all.writeProperties ?_ writes
  rw [Host.makeDirectories_disk makes]
  exact all.makeClasses kept

/-- What the changes for a test keep is kept whenever something is started for it. -/
theorem Starts.preserves (all : harness.area.Preserves test.qualifiedName P) (kept : P host.disk)
    (h : harness.Starts runner test host command moment) : P moment.disk := by
  cases h with
  | compiler readies tool => exact readies.preserves all kept
  | archiver readies compiles mode =>
    rw [Compiler.compile_disk compiles]
    exact readies.preserves all kept
  | machine builds runnable only => exact build_preserves all kept builds

theorem Readies.located (h : harness.Readies test host written) :
    ∃ place, written.disk.locate (harness.area.classesDirectory test.qualifiedName) = .ok place := by
  obtain ⟨made, file, makes, writes⟩ := h.wrote
  have isName : IsName "classes" := by decide
  obtain ⟨place, found, -⟩ := Host.makeDirectories_stands (Path.names_child_ne_nil isName) makes
  refine ⟨place, Properties.write_preserves (P := fun disk => disk.locate _ = .ok place) ?_ found
    writes⟩
  intro disk changed content found h
  obtain ⟨location, free, -, rfl, -⟩ := Disk.write_ok h
  exact (Disk.grows_put (.inr free)).locate found

/-- Whenever something is started for a test, a directory in its directory is there. -/
theorem Starts.located (h : harness.Starts runner test host command moment) :
    ∃ name, IsName name ∧ ∃ place, moment.disk.locate
      ((harness.area.testDirectory test.qualifiedName).child name) = .ok place := by
  cases h with
  | compiler readies tool => exact ⟨"classes", by decide, readies.located⟩
  | archiver readies compiles mode =>
    rw [Compiler.compile_disk compiles]
    exact ⟨"classes", by decide, readies.located⟩
  | machine builds runnable only =>
    obtain ⟨_, _, _, _, -, -, -, prepared, -⟩ := build_steps builds runnable
    have isName : IsName "user.dir" := by decide
    unfold WorkArea.prepareUserDirectory at prepared
    split at prepared
    · cases prepared
    · obtain ⟨place, found, -⟩ := Host.makeDirectories_stands (Path.names_child_ne_nil isName) prepared
      exact ⟨"user.dir", isName, place, found⟩

end Disk

section Test
variable {harness : Harness} {runner : Runner} {test : TestRun} {host after : Host}

theorem events_of_leaves {host after : Host} (h : Leaves host [] after) :
    after.events = host.events := by
  rw [h.events, List.flatMap_nil, List.append_nil]

theorem compile_accounts {executable encoding : String} {debug : Bool}
    (tool : harness.compiler = .javac executable encoding debug) {job : Compilation}
    {result : Except Fault Unit} (h : harness.compiler.compile job host = (result, after)) :
    Accounts (Once (.ofArguments (Compiler.arguments executable encoding debug job) none) host)
      host after := by
  rw [tool] at h
  exact Compiler.complete_accounts h

theorem compileTest_accounts (real : harness.IsReal) (opened : harness.closed = false)
    (supported : isSupported test.source = true) {result : Except Fault Classpath}
    (h : harness.compileTest test runner host = (result, after)) :
    Accounts (harness.Starts runner test host) host after := by
  obtain ⟨executable, encoding, debug, tool⟩ := real.compiler
  simp only [compileTest] at h
  split at h
  · next made =>
    cases h
    exact .quiet _ (events_of_leaves (Host.makeDirectories_leaves made))
  · next made =>
    have first := events_of_leaves (Host.makeDirectories_leaves made)
    split at h
    · next written =>
      cases h
      exact .quiet _ ((events_of_leaves (Properties.write_leaves written)).trans first)
    · next written wrote =>
      have second := (events_of_leaves (Properties.write_leaves wrote)).trans first
      have readies : harness.Readies test host written := ⟨opened, supported, _, _, made, wrote⟩
      refine .trans (.quiet _ second) ?_
      have begins : ∀ command moment, Once (.ofArguments (Compiler.arguments executable encoding
          debug (harness.testJob test runner)) none) written command moment →
          harness.Starts runner test host command moment := by
        rintro command moment ⟨rfl, rfl⟩
        exact .compiler readies tool
      split at h
      · next compiled =>
        cases h
        exact (compile_accounts tool compiled).mono begins
      · next compiled =>
        refine .trans ((compile_accounts tool compiled).mono begins) ?_
        rcases real.mode with ⟨config, mode⟩ | ⟨config, mode⟩
        · rw [mode] at h
          cases h
          exact .quiet _ rfl
        · rw [mode] at h
          simp only [Mode.install, Mode.archive_eq] at h
          split at h <;>
          · next archived =>
            cases h
            refine (Compiler.complete_accounts archived).mono ?_
            rintro command moment ⟨rfl, rfl⟩
            exact .archiver readies compiled mode

theorem installTest_accounts (real : harness.IsReal) (opened : harness.closed = false)
    (supported : isSupported test.source = true) {result : Except Fault Classpath}
    (h : harness.installTest test runner host = (result, after)) :
    Accounts (harness.Starts runner test host) host after := by
  unfold installTest at h
  split at h
  · next compiled =>
    cases h
    exact compileTest_accounts real opened supported compiled
  · next compiled =>
    refine (compileTest_accounts real opened supported compiled).trans ?_
    split at h <;>
    · next prepared =>
      cases h
      exact .quiet _ (events_of_leaves (WorkArea.prepareUserDirectory_leaves prepared))

theorem build_accounts (real : harness.IsReal) {result : Except Fault TestRun}
    (h : harness.build test runner host = (result, after)) :
    Accounts (harness.Starts runner test host) host after := by
  simp only [build] at h
  split at h
  · cases h
    exact .quiet _ rfl
  · next opened =>
    split at h
    · cases h
      exact .quiet _ rfl
    · next supported =>
      rcases installed : harness.installTest test runner host with ⟨outcome, ready⟩
      rw [installed] at h
      cases h
      simp only [Bool.not_eq_true', Bool.not_eq_false, Bool.not_eq_true] at opened supported
      exact installTest_accounts real opened supported installed

/-- A machine has one command. -/
theorem commands_single (real : harness.IsReal) (runner : Runner) (test : TestRun) :
    ∃ command, harness.mode.commands harness.area runner test = [command] := by
  rcases real.mode with ⟨config, mode⟩ | ⟨config, mode⟩ <;> rw [mode] <;> exact ⟨_, rfl⟩

theorem run_accounts (real : harness.IsReal) {result : Except Fault TestRun} {command : Command}
    (only : harness.mode.commands harness.area runner test = [command])
    (h : harness.run test runner host = (result, after)) :
    Accounts (Once command host) host after := by
  have fresh : command.IsFresh :=
    harness.mode.commands_fresh harness.area runner test command (by simp [only])
  have counted : harness.mode.countBuild host = host := by
    rcases real.mode with ⟨config, mode⟩ | ⟨config, mode⟩ <;> rw [mode] <;> rfl
  simp only [run] at h
  split at h
  · cases h
    exact .quiet _ rfl
  · split at h
    · cases h
      exact .quiet _ rfl
    · obtain ⟨-, rfl⟩ := Prod.mk.inj h
      obtain ⟨block, own, leaves⟩ := Command.stage_leaves fresh (timeLimit_pos harness.settings) host
      rw [only, counted, runCommands_single harness.settings [] host fresh, ← own]
      rw [← own] at leaves
      exact leaves.once

end Test
end Harness

/-! ## Suites -/

namespace Suite
variable {harness : Harness} {runner : Runner} {host after : Host} {result : Except Fault Unit}

theorem buildAndRun_accounts (real : harness.IsReal) {test ended : TestRun}
    (h : buildAndRun harness runner test host = (result, ended, after)) :
    Accounts (harness.Starts runner test host) host after := by
  unfold buildAndRun at h
  split at h
  · next built =>
    cases h
    exact Harness.build_accounts real built
  · next done ready built =>
    refine (Harness.build_accounts real built).trans ?_
    split at h
    · next runnable =>
      obtain ⟨command, only⟩ := Harness.commands_single real runner done
      have begins : ∀ other moment, Once command ready other moment →
          harness.Starts runner test host other moment := by
        rintro other moment ⟨rfl, rfl⟩
        exact .machine built runnable only
      split at h <;>
      · next ran =>
        cases h
        exact (Harness.run_accounts real only ran).mono begins
    · cases h
      exact .quiet _ rfl

theorem runOne_accounts (real : harness.IsReal) {test ended : TestRun}
    (h : runOne harness runner test host = (result, ended, after)) :
    Accounts (harness.Starts runner test host) host after := by
  unfold runOne at h
  split at h
  · next ran =>
    cases h
    exact buildAndRun_accounts real ran
  · next ran =>
    cases h
    exact (buildAndRun_accounts real ran).trans
      (.quiet _ (Harness.events_of_leaves (harness.cleanUp_leaves _ _)))
  · next ran =>
    cases h
    exact (buildAndRun_accounts real ran).trans
      (.quiet _ (Harness.events_of_leaves
        ((harness.cleanUp_leaves _ _).trans (Host.note_leaves _ _ _))))

/-- A suite comes to the test at a place on a host, after the tests at the places before it have
been run. -/
structure Comes (harness : Harness) (runner : Runner) (places : List Nat) (tests : List TestRun)
    (host : Host) (past : List Nat) (place : Nat) (test : TestRun) (ready : Host) : Prop where
  listed : ∃ later, places = past ++ place :: later
  ran : ∃ table, runEach harness runner past tests host = (.ok (), table, ready) ∧
    table[place]? = some test

/-- The test that a suite comes to is the one that it was given. -/
theorem Comes.given {places past : List Nat} {tests : List TestRun} {place : Nat} {test : TestRun}
    {ready : Host} (h : Comes harness runner places tests host past place test ready) :
    ∃ given, tests[place]? = some given ∧ test.bare = given.bare := by
  obtain ⟨table, ran, found⟩ := h.ran
  exact getElem?_of_bare (runEach_bare ran) found

/-- What the changes for the earlier tests keep is kept when a suite comes to the next one. -/
theorem Comes.preserves {places past : List Nat} {tests : List TestRun} {place : Nat}
    {test : TestRun} {ready : Host} {P : Disk → Prop}
    (h : Comes harness runner places tests host past place test ready)
    (all : ∀ other ∈ past, ∀ given, tests[other]? = some given →
      harness.area.Preserves given.qualifiedName P)
    (kept : P host.disk) : P ready.disk := by
  obtain ⟨table, ran, -⟩ := h.ran
  exact runEach_preserves all kept ran

/-- What a suite starts for one of its tests. -/
def Starts (harness : Harness) (runner : Runner) (places : List Nat) (tests : List TestRun)
    (host : Host) (command : Command) (moment : Host) : Prop :=
  ∃ past place test ready, Comes harness runner places tests host past place test ready ∧
    harness.Starts runner test ready command moment

/-- After one more place at which nothing goes wrong, a suite comes to what it then comes to. -/
theorem Starts.later {place : Nat} {rest : List Nat} {tests table : List TestRun} {middle : Host}
    (goes : ∀ past, runEach harness runner (place :: past) tests host =
      runEach harness runner past table middle) {command : Command} {moment : Host}
    (h : Starts harness runner rest table middle command moment) :
    Starts harness runner (place :: rest) tests host command moment := by
  obtain ⟨past, next, test, ready, ⟨⟨later, listed⟩, ended, ran, found⟩, starts⟩ := h
  refine ⟨place :: past, next, test, ready, ⟨⟨later, by rw [listed]; rfl⟩, ended, ?_, found⟩, starts⟩
  rw [goes, ran]

theorem runEach_accounts (real : harness.IsReal) {places : List Nat} {tests ended : List TestRun}
    (h : runEach harness runner places tests host = (result, ended, after)) :
    Accounts (Starts harness runner places tests host) host after := by
  induction places generalizing tests host with
  | nil =>
    cases h
    exact .quiet _ rfl
  | cons place rest ih =>
    unfold runEach at h
    split at h
    · next absent =>
      refine (ih h).mono fun command moment => Starts.later fun past => ?_
      rw [runEach, absent]
    · next test found =>
      have own {command : Command} {moment : Host}
          (starts : harness.Starts runner test host command moment) :
          Starts harness runner (place :: rest) tests host command moment :=
        ⟨[], place, test, host, ⟨⟨rest, rfl⟩, tests, rfl, found⟩, starts⟩
      split at h
      · next ran =>
        cases h
        exact (runOne_accounts real ran).mono fun _ _ => own
      · next ran =>
        refine ((runOne_accounts real ran).mono fun _ _ => own).trans ?_
        refine (ih h).mono fun command moment => Starts.later fun past => ?_
        simp only [runEach, found, ran]

/-- What is started while the test runner is prepared has no working directory of its own. -/
theorem prepare_accounts (real : harness.IsReal) {sources classpath : List Path}
    {outcome : Except Fault Runner}
    (h : harness.prepare sources classpath host = (outcome, after)) :
    Accounts (fun command _ => command.directory = none) host after := by
  have own {arguments : List String} {first last : Host} {ending : Except Fault Unit}
      (ran : Compiler.complete arguments first = (ending, last)) :
      Accounts (fun command _ => command.directory = none) first last := by
    refine (Compiler.complete_accounts ran).mono ?_
    rintro command moment ⟨rfl, rfl⟩
    rfl
  have built {built : Runner} {ending : Except Fault Unit} {finished : Host}
      (ran : harness.buildRunner built host = (ending, finished)) :
      Accounts (fun command _ => command.directory = none) host finished := by
    obtain ⟨executable, encoding, debug, tool⟩ := real.compiler
    unfold Harness.buildRunner at ran
    split at ran
    · next prepared =>
      cases ran
      exact .quiet _ (Harness.events_of_leaves (Host.makeDirectories_leaves prepared))
    · next prepared =>
      have first := Harness.events_of_leaves (Host.makeDirectories_leaves prepared)
      split at ran
      · next made =>
        cases ran
        exact .quiet _ ((Harness.events_of_leaves (Host.makeDirectories_leaves made)).trans first)
      · next made =>
        have second := (Harness.events_of_leaves (Host.makeDirectories_leaves made)).trans first
        refine .trans (.quiet _ second) ?_
        rw [tool] at ran
        split at ran
        · next compiled =>
          cases ran
          exact own compiled
        · next compiled =>
          refine (own compiled).trans ?_
          rcases real.mode with ⟨config, mode⟩ | ⟨config, mode⟩
          · rw [mode] at ran
            cases ran
            exact .quiet _ rfl
          · rw [mode] at ran
            exact own ran
  simp only [Harness.prepare] at h
  split at h
  · cases h
    exact .quiet _ rfl
  · split at h <;>
    · next ran =>
      cases h
      exact built ran

/-- What the log says before the first test of a suite. -/
def begins (places : List Nat) (prepared : Host) : Host :=
  prepared.note .info ("Running " ++ toString places.length ++ " test(s)...")

/-- Without tests nothing is started. -/
theorem something_of_grown {closed : Harness} {places : List Nat} {sources classpath : List Path}
    {tests ended : List TestRun}
    (h : runAll harness places sources classpath tests host = (result, ended, closed, after))
    (grown : host.events.length < after.events.length) : places ≠ [] := by
  rintro rfl
  cases h
  exact Nat.lt_irrefl _ grown

/-- A suite that cannot be prepared starts nothing for a test; and what another one starts after the
preparation, it starts for one of its tests. -/
theorem runAll_accounts (real : harness.IsReal) {closed : Harness} {places : List Nat}
    {sources classpath : List Path} {tests ended : List TestRun} (something : places ≠ [])
    (h : runAll harness places sources classpath tests host = (result, ended, closed, after)) :
    ((∃ fault failed, harness.prepare sources classpath host = (.error fault, failed)) ∧
        Accounts (fun command _ => command.directory = none) host after) ∨
      ∃ runner prepared, harness.prepare sources classpath host = (.ok runner, prepared) ∧
        Accounts (Starts harness runner places tests (begins places prepared)) prepared after := by
  have last (finished : Host) {starts : Command → Host → Prop} {first : Host}
      (ran : Accounts starts first finished) :
      Accounts starts first (harness.shutDown finished).2 :=
    ran.trans (.quiet _ (Harness.events_of_leaves (harness.shutDown_leaves rfl)))
  rcases prepared : harness.prepare sources classpath host with ⟨fault | runner, ready⟩
  · refine .inl ⟨⟨fault, ready, rfl⟩, ?_⟩
    have ran := prepare_accounts real prepared
    simp only [runAll, if_neg something, prepareAndRun, prepared] at h
    split at h
    · next same =>
      cases same
      cases h
      exact ran
    · next same =>
      cases same
      cases h
      exact last ready ran
  · refine .inr ⟨runner, ready, rfl, ?_⟩
    rcases each : runEach harness runner places tests (begins places ready) with
      ⟨outcome, table, finished⟩
    have ran : Accounts (Starts harness runner places tests (begins places ready)) ready finished :=
      .trans (.quiet _ rfl) (runEach_accounts real each)
    rw [begins] at each
    simp only [runAll, if_neg something, prepareAndRun, prepared, each] at h
    split at h
    · next same =>
      cases same
      cases h
      exact ran
    · next same =>
      cases same
      split at h
      · cases h
        exact last finished ran
      · cases h
        exact (last finished ran).trans (.quiet _ rfl)

end Suite
end TestBench
