import TestBench.Harness

/-!
Suites. `runAll` prepares a harness once, runs tests one after the other and shuts the harness down
however the suite ends. The tests are given as a table and a list of places in it, so a test may be
asked for more than once.
-/
namespace TestBench.Suite
set_option autoImplicit false

/-- Builds a test and runs it if that is possible. -/
def buildAndRun (harness : Harness) (runner : Runner) (test : TestRun) (host : Host) :
    Except Fault Unit × TestRun × Host :=
  match harness.build test runner host with
  | (.error fault, after) => (.error fault, test, after)
  | (.ok built, after) =>
    if built.isRunnable then
      match harness.run built runner after with
      | (.error fault, ended) => (.error fault, built, ended)
      | (.ok done, ended) => (.ok (), done, ended)
    else (.ok (), built, after)

/-- What the log says about a test that is over. -/
def completionNote (test : TestRun) : String :=
  "Test completed: test=" ++ test.qualifiedName ++ " result="
    ++ (test.result.map TestResult.text).getD "None"

def runOne (harness : Harness) (runner : Runner) (test : TestRun) (host : Host) :
    Except Fault Unit × TestRun × Host :=
  match buildAndRun harness runner test host with
  | (.error .endless, ended, after) => (.error .endless, ended, after)
  | (.error fault, ended, after) => (.error fault, ended, harness.cleanUp ended after)
  | (.ok _, ended, after) =>
    (.ok (), ended, (harness.cleanUp ended after).note .info (completionNote ended))

/-- Runs the tests at the given places of a table, until one of them meets a fault that it cannot
record. -/
def runEach (harness : Harness) (runner : Runner) :
    List Nat → List TestRun → Host → Except Fault Unit × List TestRun × Host
  | [], tests, host => (.ok (), tests, host)
  | place :: rest, tests, host =>
    match tests[place]? with
    | none => runEach harness runner rest tests host
    | some test =>
      match runOne harness runner test host with
      | (.error fault, ended, after) => (.error fault, tests.set place ended, after)
      | (.ok _, ended, after) => runEach harness runner rest (tests.set place ended) after

def prepareAndRun (harness : Harness) (places : List Nat) (sources classpath : List Path)
    (tests : List TestRun) (host : Host) : Except Fault Unit × List TestRun × Host :=
  match harness.prepare sources classpath host with
  | (.error fault, after) => (.error fault, tests, after)
  | (.ok runner, prepared) =>
    runEach harness runner places tests
      (prepared.note .info ("Running " ++ toString places.length ++ " test(s)..."))

/-- Runs a suite. The harness is closed afterwards, unless there was nothing to run. -/
def runAll (harness : Harness) (places : List Nat) (sources classpath : List Path)
    (tests : List TestRun) (host : Host) :
    Except Fault Unit × List TestRun × Harness × Host :=
  if places = [] then (.ok (), tests, harness, host.note .info "No tests to run")
  else match prepareAndRun harness places sources classpath tests host with
    | (.error .endless, ended, after) => (.error .endless, ended, harness, after)
    | (result, ended, after) =>
      let (closed, released) := harness.shutDown after
      match result with
      | .error fault => (.error fault, ended, closed, released)
      | .ok _ => (.ok (), ended, closed, released.note .info "Test execution completed")

end TestBench.Suite
