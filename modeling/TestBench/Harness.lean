import TestBench.Mode
import TestBench.Properties
import TestBench.Reader.Deadline
import TestBench.Settings
import TestBench.Text.Word

/-!
The harness compiles, installs, runs and judges tests, one at a time, through one execution mode:

- `prepare` compiles the test runner,
- `build` compiles and installs a test, or records why that was not possible,
- `run` runs an installed test and records its result,
- `cleanUp` and `shutDown` release what was used.

A harness that has been shut down stays closed and does nothing any more.
-/
namespace TestBench
set_option autoImplicit false

structure Harness where
  mode : Mode
  area : WorkArea
  settings : Settings
  compiler : Compiler
  closed : Bool

namespace Harness

def start (mode : Mode) (area : WorkArea) (settings : Settings) (compiler : Compiler) : Harness :=
  ⟨mode, area, settings, compiler, false⟩

/-- The fault of using a harness that has been shut down. -/
def closedFault : Fault :=
  .misuse "Test harness has been shut down"

/-- The boot classpath of every compilation. -/
def bootClasspath (harness : Harness) : Classpath :=
  .of [harness.settings.sdkJar]

/-! ## Preparing the test runner -/

/-- What a fault becomes while the test runner is prepared. -/
def preparationFault : Fault → Fault
  | .commandFailed arguments status output =>
    .preparation ("Failed to build test runner:\n" ++ "\n".intercalate output)
      (some (Fault.commandFailed arguments status output).label)
  | .system refusal detail =>
    .preparation ("Failed to build test runner: " ++ (Fault.system refusal detail).message)
      (some refusal.label)
  | fault => fault

def runnerJob (harness : Harness) (runner : Runner) : Compilation where
  sources := runner.sources
  bootClasspath := harness.bootClasspath
  classpath := runner.classpath
  sourcePath := harness.settings.runnerSourceRoot
  destination := runner.classes

/-- Makes the directories of a test runner, compiles it and sets it up. -/
def buildRunner (harness : Harness) (runner : Runner) (host : Host) : Except Fault Unit × Host :=
  match harness.area.prepare host with
  | (.error fault, after) => (.error fault, after)
  | (.ok _, prepared) =>
    match prepared.makeDirectories true runner.classes with
    | (.error fault, after) => (.error fault, after)
    | (.ok _, made) =>
      match harness.compiler.compile (harness.runnerJob runner) made with
      | (.error fault, after) => (.error fault, after)
      | (.ok _, compiled) => harness.mode.setUpRunner runner compiled

def prepare (harness : Harness) (sources classpath : List Path) (host : Host) :
    Except Fault Runner × Host :=
  if harness.closed then (.error closedFault, host)
  else
    let runner := Runner.of sources classpath harness.area.runnerClasses
    match harness.buildRunner runner host with
    | (.ok _, after) => (.ok runner, after)
    | (.error fault, after) => (.error (preparationFault fault), after)

/-! ## Building a test -/

def sourceExtension : String := ".java"

/-- A name of word characters before the extension. One line feed may follow. -/
def isSourceName (name : List Char) : Bool :=
  let bare := Text.dropFinal '\n' name
  let stem := bare.take (bare.length - sourceExtension.length)
  sourceExtension.toList.isSuffixOf bare && !stem.isEmpty && stem.all Text.isWordChar

/-- Whether a source can be compiled and run: its written path has a separator, and a source name
follows the last one. -/
def isSupported (source : Path) : Bool :=
  let pieces := Text.splitOn '/' source.toString.toList
  1 < pieces.length && isSourceName (pieces.getLast?.getD [])

def propertiesComment : String := "generated by vm_test_runner"

def testProperties (harness : Harness) (test : TestRun) : List (String × String) :=
  Properties.unify ([(Properties.testClassKey, test.testClass),
    (Properties.qualifiedNameKey, test.qualifiedName)]
    ++ harness.mode.extraProperties test.qualifiedName)

def testJob (harness : Harness) (test : TestRun) (runner : Runner) : Compilation where
  sources := [test.source]
  bootClasspath := harness.bootClasspath
  classpath := harness.settings.library + runner.classpath
  sourcePath := test.directory
  destination := harness.area.classesDirectory test.qualifiedName

def compileTest (harness : Harness) (test : TestRun) (runner : Runner) (host : Host) :
    Except Fault Classpath × Host :=
  let classes := harness.area.classesDirectory test.qualifiedName
  match host.makeDirectories true classes with
  | (.error fault, after) => (.error fault, after)
  | (.ok _, made) =>
    match Properties.write classes (harness.testProperties test) propertiesComment made with
    | (.error fault, after) => (.error fault, after)
    | (.ok _, written) =>
      match harness.compiler.compile (harness.testJob test runner) written with
      | (.error fault, after) => (.error fault, after)
      | (.ok _, compiled) => harness.mode.install harness.area test.qualifiedName compiled

/-- Compiles and installs a test and makes its working directory. -/
def installTest (harness : Harness) (test : TestRun) (runner : Runner) (host : Host) :
    Except Fault Classpath × Host :=
  match harness.compileTest test runner host with
  | (.error fault, after) => (.error fault, after)
  | (.ok classpath, compiled) =>
    match harness.area.prepareUserDirectory test.qualifiedName compiled with
    | (.error fault, after) => (.error fault, after)
    | (.ok _, after) => (.ok classpath, after)

/-- What a test records about an attempt to install it. -/
def recordInstall (test : TestRun) : Except Fault Classpath → Except Fault TestRun
  | .ok classpath => .ok (test.withClasspath classpath)
  | .error (.commandFailed _ _ output) => test.setResult .compileFailed output
  | .error .endless => .error .endless
  | .error fault => test.setFault fault

/-- Makes a test ready to run, or records why it cannot be. -/
def build (harness : Harness) (test : TestRun) (runner : Runner) (host : Host) :
    Except Fault TestRun × Host :=
  if harness.closed then (.error closedFault, host)
  else if !isSupported test.source then (test.setResult .unsupported [], host)
  else
    let (installed, after) := harness.installTest test runner host
    (recordInstall test installed, after)

/-! ## Running a test -/

/-- How a test ended, and the output that goes with it. -/
abbrev Outcome := TestResult × List String

/-- What the output of the last command means. -/
def judge (output : List String) : Outcome :=
  match output.getLast? with
  | none => (.error, ["No output returned!"])
  | some last =>
    if last = Properties.sentinel then (.success, output.dropLast) else (.execFailed, output)

/-- What a fault of a command means. -/
def outcomeOfFault (settings : Settings) (fault : Fault) : Outcome :=
  if fault.isTimeout then
    (.execTimeout, ["Exceeded timeout! (" ++ toString settings.timeoutSeconds ++ "s)"])
  else (.error, fault.report)

/-- The time that each command may take, in milliseconds. -/
def timeLimit (settings : Settings) : Nat :=
  settings.timeoutSeconds * 1000

/-- Runs commands one after the other. Each is terminated before the next one starts. `output` is
what the command before them wrote. -/
def runCommands (settings : Settings) : List Command → List String → Host → Outcome × Host
  | [], output, host => (judge output, host)
  | command :: rest, _, host =>
    match command.start host with
    | (.error fault, begun) => (outcomeOfFault settings fault, begun)
    | (.ok started, begun) =>
      let (result, read) := started.read (timeLimit settings) begun
      let (ended, after) := started.terminate read
      match result with
      | .error fault => (outcomeOfFault settings fault, after)
      | .ok lines =>
        if settings.failFast ∧ rest ≠ [] ∧ ended.status? after ≠ some 0 then
          ((.execFailed, lines), after)
        else runCommands settings rest lines after

/-- Runs an installed test and records its result. -/
def run (harness : Harness) (test : TestRun) (runner : Runner) (host : Host) :
    Except Fault TestRun × Host :=
  if !test.isRunnable then (.error (.badValue (test.qualifiedName ++ " is not runnable")), host)
  else if harness.closed then (.error closedFault, host)
  else
    let commands := harness.mode.commands harness.area runner test
    let (outcome, after) :=
      runCommands harness.settings commands [] (harness.mode.countBuild host)
    (test.setResult outcome.1 outcome.2, after)

/-! ## Releasing -/

def cleanUp (harness : Harness) (test : TestRun) (host : Host) : Host :=
  harness.area.cleanUp test.qualifiedName host

/-- Closes the harness and releases everything. A second time does nothing. -/
def shutDown (harness : Harness) (host : Host) : Harness × Host :=
  if harness.closed then (harness, host)
  else ({ harness with closed := true }, harness.area.shutDown host)

end Harness
end TestBench
