import TestBench.Session
import TestBench.Validation.Standard

/-!
The program. It runs a session on a host whose disk holds nothing but a working directory, and on
which no program is installed.
-/

namespace TestBench
set_option autoImplicit false

def emptyDisk : Disk :=
  ⟨[(["work"], .directory)], some ["work"]⟩

/-- Where a session works unless it is told otherwise. -/
def temporaryDirectory : Path :=
  .parse "/tmp/vm-test-runner"

end TestBench

open TestBench in
/-- Runs a session and writes what it has to say. -/
def main (words : List String) : IO UInt32 := do
  let (ending, host) := Session.run .standard words temporaryDirectory (.fresh emptyDisk 0 [])
  let errors ← IO.getStderr
  for (level, text) in host.log do
    errors.putStrLn (level.label ++ " " ++ text)
  match ending with
  | .exit code output complaint =>
    errors.putStr complaint
    IO.print output
    return UInt32.ofNat code
  | .broken (.settings found) =>
    errors.putStrLn (toString found.length ++ " invalid settings")
    return 1
  | .broken (.mode problem) =>
    errors.putStrLn (problem.label ++ ": " ++ problem.message)
    return 1
  | .broken (.fault fault) =>
    errors.putStrLn (fault.label ++ ": " ++ fault.message)
    return 1
