import TestBench.Compiler
import TestBench.Mode.Config
import TestBench.Runner
import TestBench.WorkArea

/-!
Execution modes: how compiled tests are installed and run. There are two virtual machines, and a
scripted mode whose commands and hooks are given.
-/
namespace TestBench
set_option autoImplicit false

/-- What a scripted mode does: the commands that it builds for a test, the properties of a test, and
the faults that it meets when a runner is set up or a test is installed. A test that is compiled is
known by its qualified name. -/
structure Script where
  commands : WorkArea → Runner → TestRun → List (List String × Option Path)
  properties : String → List (String × String)
  runnerFault : Runner → Option Fault
  installFault : WorkArea → String → Option Fault

inductive Mode where
  | jvm (config : Mode.JvmConfig)
  | dalvikvm (config : Mode.DalvikConfig)
  | scripted (script : Script)

namespace Mode

def runnerArchiveName : String := "runner.jar"

def testArchiveName : String := "test.jar"

/-- Converts a directory of classes to an archive. -/
def archive (config : DalvikConfig) (classes output : Path) (host : Host) :
    Except Fault Unit × Host :=
  Compiler.complete
    [config.dx, "--dex", "--output=" ++ output.toString, classes.toString] host

/-- The archive of the test runner. It lies beside the runner's classes. -/
def runnerArchive (runner : Runner) : Path :=
  runner.classes.parent.child runnerArchiveName

def testArchive (area : WorkArea) (qualifiedName : String) : Path :=
  (area.testDirectory qualifiedName).child testArchiveName

/-- What a mode does once the test runner is compiled. -/
def setUpRunner (mode : Mode) (runner : Runner) (host : Host) : Except Fault Unit × Host :=
  match mode with
  | jvm _ => (.ok (), host)
  | dalvikvm config => archive config runner.classes (runnerArchive runner) host
  | scripted script =>
    let noted := { host with
      calls := { host.calls with runnerSetups := host.calls.runnerSetups + 1 } }
    match script.runnerFault runner with
    | some fault => (.error fault, noted)
    | none => (.ok (), noted)

/-- Installs a compiled test and gives the classpath to run it with. -/
def install (mode : Mode) (area : WorkArea) (qualifiedName : String) (host : Host) :
    Except Fault Classpath × Host :=
  let classes := area.classesDirectory qualifiedName
  match mode with
  | jvm _ => (.ok (.of [classes]), host)
  | dalvikvm config =>
    let output := testArchive area qualifiedName
    match archive config classes output host with
    | (.ok _, after) => (.ok (.of [output]), after)
    | (.error fault, after) => (.error fault, after)
  | scripted script =>
    match script.installFault area qualifiedName with
    | some fault => (.error fault, host)
    | none => (.ok (.of [classes]), host)

/-- What a mode adds to the properties of a test. -/
def extraProperties (mode : Mode) (qualifiedName : String) : List (String × String) :=
  match mode with
  | jvm _ => []
  | dalvikvm _ => []
  | scripted script => script.properties qualifiedName

/-- The command that starts a virtual machine on the test runner. -/
def machineCommand (executable : String) (machineArguments : List String) (classpath : Classpath)
    (mainClass : String) (directory : Path) : Command :=
  .ofArguments ([executable] ++ machineArguments
    ++ ["-classpath", classpath.toString, mainClass]) (some directory)

/-- The commands that run a test, in order. Only the output of the last one is judged. -/
def commands (mode : Mode) (area : WorkArea) (runner : Runner) (test : TestRun) : List Command :=
  let installed := test.classpath.getD .empty
  let directory := area.userDirectory test.qualifiedName
  match mode with
  | jvm config =>
    [machineCommand config.java config.vmArguments
      (installed + .of [runner.classes] + runner.classpath) config.runnerMainClass directory]
  | dalvikvm config =>
    [machineCommand config.dalvikvm config.vmArguments
      (installed + .of [runnerArchive runner]) config.runnerMainClass directory]
  | scripted script =>
    (script.commands area runner test).map fun command => .ofArguments command.1 command.2

/-- Takes note of the building of commands where a stand-in keeps count of it. -/
def countBuild (mode : Mode) (host : Host) : Host :=
  match mode with
  | scripted _ => { host with
      calls := { host.calls with commandBuilds := host.calls.commandBuilds + 1 } }
  | _ => host

end Mode
end TestBench
