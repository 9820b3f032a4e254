import TestBench.Classpath

/-!
Compilations, and the record of what the stand-ins for a compiler and an execution mode were asked
to do.
-/
namespace TestBench
set_option autoImplicit false

/-- What a compiler is asked to compile. -/
structure Compilation where
  sources : List Path
  bootClasspath : Classpath
  classpath : Classpath
  sourcePath : Path
  destination : Path
deriving DecidableEq

/-- What stand-ins were asked to do: the compilations in order, and how often a runner was set up
and commands were built. -/
structure Calls where
  compilations : List Compilation
  runnerSetups : Nat
  commandBuilds : Nat
deriving DecidableEq

def Calls.none : Calls :=
  ⟨[], 0, 0⟩

end TestBench
