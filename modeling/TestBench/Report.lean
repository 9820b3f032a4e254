import TestBench.Json.Value
import TestBench.TestRun

/-!
Reports of a suite: a summary for the log, and a JSON object with a count for each kind of result
and an entry for each test.
-/
namespace TestBench.Report
set_option autoImplicit false

def symbol : Option TestResult → String
  | none => "?"
  | some .success => "✅"
  | some .compileFailed => "🛠️"
  | some .execFailed => "❌"
  | some .execTimeout => "⏱️"
  | some .error => "❗"
  | some .unsupported => "➖"

/-- A line across the log. -/
def rule : String :=
  String.ofList (List.replicate 80 '=')

/-- Whether a test counts against a suite. -/
def hasFailed (test : TestRun) : Bool :=
  match test.result with
  | none => false
  | some result => result.isFailure

/-- What the summary says about a test: its result, and the output if it has failed. -/
def testLines (test : TestRun) : List String :=
  (symbol test.result ++ " " ++ test.qualifiedName ++ ": "
      ++ (test.result.map TestResult.text).getD "None")
    :: (if hasFailed test then test.output.map fun line => "  " ++ line else [])

def summary (tests : List TestRun) : List String :=
  [rule, "Test Results Summary:", rule] ++ tests.flatMap testLines

def count (result : TestResult) (tests : List TestRun) : Nat :=
  tests.countP fun test => test.result = some result

def entry (test : TestRun) : Json :=
  .object [("test", .text test.qualifiedName), ("source", .text test.source.toString),
    ("result", .orNull (fun result => .text result.text) test.result),
    ("output", .texts test.output)]

def json (tests : List TestRun) : Json :=
  .object [("total", .whole tests.length), ("passed", .whole (count .success tests)),
    ("failed", .whole (count .execFailed tests)),
    ("compile_failed", .whole (count .compileFailed tests)),
    ("errors", .whole (count .error tests)), ("timeouts", .whole (count .execTimeout tests)),
    ("unsupported", .whole (count .unsupported tests)),
    ("results", .array (tests.map entry))]

/-- The report when no test was found. -/
def empty : Json :=
  .object [("total", .whole 0), ("results", .array [])]

end TestBench.Report
