import TestBench.Command
import TestBench.TestRun

/-!
Samples for exercising a harness: a test that has not been built, and commands that print lines.
-/
namespace TestBench.Samples
set_option autoImplicit false

def test : TestRun :=
  .fresh "com.example.FooTest" "FooTest" (.parse "/src/com/example/FooTest.java") none

/-- A script that prints lines and exits with a code. -/
def printingScript (lines : List String) (exitCode : Int) : String :=
  "import sys\nfor line in " ++ Text.quoteList lines ++ ":\n    print(line)\nsys.exit("
    ++ toString exitCode ++ ")\n"

/-- A command that hands a script to an interpreter. -/
def scriptCommand (interpreter script : String) (directory : Option Path) : Command :=
  .ofArguments [interpreter, "-c", script] directory

end TestBench.Samples
