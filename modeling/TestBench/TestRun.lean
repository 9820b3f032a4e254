import TestBench.Classpath
import TestBench.Fault

/-!
Test runs. A run knows its test and, once it is over, the result and the output that goes with it.
The result is set once: `setResult` refuses a second one, so nothing that happens later can change
how a test ended.
-/
namespace TestBench
set_option autoImplicit false

inductive TestResult where
  | success
  | compileFailed
  | execFailed
  | execTimeout
  | error
  | unsupported
deriving DecidableEq, Repr

namespace TestResult

def text : TestResult → String
  | success => "success"
  | compileFailed => "compile_failed"
  | execFailed => "exec_failed"
  | execTimeout => "exec_timeout"
  | error => "error"
  | unsupported => "unsupported"

instance : ToString TestResult where
  toString := text

def all : List TestResult :=
  [success, compileFailed, execFailed, execTimeout, error, unsupported]

def ofText? (name : String) : Option TestResult :=
  all.find? fun result => result.text == name

def read (name : String) : Except Fault TestResult :=
  match ofText? name with
  | some result => .ok result
  | none => .error (.badValue (Text.quote name ++ " is not a valid Result"))

def isFailure : TestResult → Bool
  | compileFailed | execFailed | execTimeout | error => true
  | success | unsupported => false

end TestResult

/-- A test and its outcome. -/
structure TestRun where
  qualifiedName : String
  testClass : String
  source : Path
  directory : Path
  classpath : Option Classpath
  result : Option TestResult
  output : List String
deriving DecidableEq

namespace TestRun

/-- A test that has not been built. Without a source root the directory of the source is one. -/
def fresh (qualifiedName testClass : String) (source : Path) (directory : Option Path) :
    TestRun where
  qualifiedName := qualifiedName
  testClass := testClass
  source := source
  directory := directory.getD source.parent
  classpath := none
  result := none
  output := []

/-- Whether the test has been installed and has no result. -/
def isRunnable (test : TestRun) : Bool :=
  test.classpath.isSome && test.result.isNone

/-- The test with a classpath to run it with. -/
def withClasspath (test : TestRun) (classpath : Classpath) : TestRun :=
  { test with classpath := some classpath }

def setResult (test : TestRun) (result : TestResult) (output : List String) :
    Except Fault TestRun :=
  match test.result with
  | some earlier =>
    .error (.misuse ("Result for " ++ test.qualifiedName ++ " already set to " ++ earlier.text))
  | none => .ok { test with result := some result, output := output }

def setFault (test : TestRun) (fault : Fault) : Except Fault TestRun :=
  test.setResult .error fault.report

theorem isRunnable_iff {test : TestRun} :
    test.isRunnable = true ↔ test.classpath.isSome ∧ test.result = none := by
  simp only [isRunnable, Bool.and_eq_true, Option.isNone_iff_eq_none]

theorem setResult_of_none {test : TestRun} (h : test.result = none) (result : TestResult)
    (output : List String) :
    test.setResult result output = .ok { test with result := some result, output := output } := by
  simp [setResult, h]

theorem setResult_recorded {test done : TestRun} {result : TestResult} {output : List String}
    (h : test.setResult result output = .ok done) : done.result = some result := by
  unfold setResult at h
  split at h
  · cases h
  · cases h
    rfl

end TestRun
end TestBench
