import TestBench.CommandLine.Help
import TestBench.CommandLine.Options
import TestBench.Discovery
import TestBench.Json.Printer
import TestBench.Mode.Registry
import TestBench.Report
import TestBench.Suite

/-!
Sessions: one call of the program from its command line to its exit code. Exit code 0 says that no
test has failed, 1 that some have, and 2 that the tests could not be run or the command line was
refused. Other faults end a session without an exit code.
-/
namespace TestBench.Session
set_option autoImplicit false

/-- A fault that ends a session. -/
inductive Breakdown where
  | settings (found : List Problem)
  | mode (problem : Mode.LoadError)
  | fault (fault : Fault)
deriving DecidableEq

/-- How a session ends: with an exit code and texts on both streams, or with a fault. -/
inductive Ending where
  | exit (code : Nat) (output complaint : String)
  | broken (breakdown : Breakdown)
deriving DecidableEq

/-- The exit code when the tests could not be run. -/
def notRunCode : Nat := 2

def suiteCode (tests : List TestRun) : Nat :=
  if tests.any Report.hasFailed then 1 else 0

/-- The work area of a session: the one that was asked for, or a new temporary directory. -/
def chooseArea (options : CommandLine.Options) (temporary : Path) (host : Host) :
    Except Fault WorkArea × Host :=
  match options.workDir with
  | some directory => (.ok ⟨directory, options.keepFiles, none⟩, host)
  | none =>
    match host.makeDirectories true temporary with
    | (.ok _, made) => (.ok ⟨temporary, options.keepFiles, none⟩, made)
    | (.error fault, after) => (.error fault, after)

def noteSummary (tests : List TestRun) (host : Host) : Host :=
  (Report.summary tests).foldl (fun noted line => noted.note .info line) host

/-- Reports on a suite that has been run. -/
def conclude (result : Except Fault Unit) (tests : List TestRun) (host : Host) : Ending × Host :=
  match result with
  | .error (.preparation message cause) =>
    (.exit notRunCode "" "", host.note .error (Fault.preparation message cause).message)
  | .error fault => (.broken (.fault fault), host)
  | .ok _ =>
    (.exit (suiteCode tests) ((Report.json tests).indented ++ "\n") "", noteSummary tests host)

def runSuite (options : CommandLine.Options) (settings : Settings) (mode : Mode)
    (temporary : Path) (tests : List TestRun) (host : Host) : Ending × Host :=
  match chooseArea options temporary host with
  | (.error fault, after) => (.broken (.fault fault), after)
  | (.ok area, ready) =>
    match Discovery.runnerSources ready.disk settings.runnerSourceRoot with
    | .error fault => (.broken (.fault fault), ready)
    | .ok sources =>
      let harness := Harness.start mode area settings (.usual options.javac)
      let (result, ended, _, after) := Suite.runAll harness (List.range tests.length) sources
        options.runnerClasspath tests ready
      conclude result ended after

def runTests (options : CommandLine.Options) (settings : Settings) (mode : Mode)
    (temporary : Path) (host : Host) : Ending × Host :=
  match Discovery.findTests options.tests host with
  | (.error fault, after) => (.broken (.fault fault), after)
  | (.ok [], after) => (.exit 0 (Report.empty.inline ++ "\n") "", after.note .info "No tests found")
  | (.ok tests, after) => runSuite options settings mode temporary tests after

/-- Runs the session that options ask for. The configuration of its mode is read by a validator. -/
def perform (validator : Validator) (options : CommandLine.Options) (temporary : Path)
    (host : Host) : Ending × Host :=
  match Settings.ofValues options.sdkJar options.runnerSourceRoot options.libraryClasspath
      options.timeout options.failFast with
  | .error found => (.broken (.settings found), host)
  | .ok settings =>
    let noted := host.note .info ("Loading mode: " ++ options.mode)
    match Mode.load validator options.mode options.modeConfig with
    | .error problem => (.broken (.mode problem), noted)
    | .ok mode => runTests options settings mode temporary noted

/-- Runs a session. Without a directory of its own it works in `temporary`. -/
def run (validator : Validator) (words : List String) (temporary : Path) (host : Host) :
    Ending × Host :=
  match CommandLine.read words with
  | .help => (.exit 0 CommandLine.help "", host)
  | .refused message => (.exit notRunCode "" (CommandLine.complaint message), host)
  | .options options => perform validator options temporary host

end TestBench.Session
