import TestBench.Classpath

/-!
The test runner: support code that is compiled once before any test.
-/
namespace TestBench
set_option autoImplicit false

/-- A compiled test runner: its sources, each once and in path order, the classpath that it was
compiled against, and the directory of its classes. -/
structure Runner where
  sources : List Path
  classpath : Classpath
  classes : Path
deriving DecidableEq

/-- A runner with the given sources, in whatever order and number they come. -/
def Runner.of (sources : List Path) (classpath : List Path) (classes : Path) : Runner :=
  ⟨Path.sort (distinct sources), .of classpath, classes⟩

end TestBench
