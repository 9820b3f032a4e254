import TestBench.Command

/-!
Compilers: one that runs an external program, and a stand-in that records what it is asked to do.
-/
namespace TestBench
set_option autoImplicit false

/-- A compiler. A recording compiler meets its fault if it has one, and otherwise fails with its
diagnostics if it has some. -/
inductive Compiler where
  | javac (executable encoding : String) (debug : Bool)
  | recording (fault : Option Fault) (diagnostics : Option (List String))
deriving DecidableEq

namespace Compiler

def usual (executable : String) : Compiler :=
  .javac executable "UTF-8" true

/-- An option with a classpath, which is left out when there is nothing in it. -/
def classpathArguments (option : String) (classpath : Classpath) : List String :=
  if classpath.entries.isEmpty then [] else [option, classpath.toString]

def arguments (executable encoding : String) (debug : Bool) (job : Compilation) : List String :=
  [executable, "-encoding", encoding] ++ (if debug then ["-g"] else [])
    ++ classpathArguments "-bootclasspath" job.bootClasspath
    ++ classpathArguments "-classpath" job.classpath
    ++ ["-sourcepath", job.sourcePath.toString, "-d", job.destination.toString]
    ++ job.sources.map Path.toString

/-- Runs a command to its end and drops its output. -/
def complete (arguments : List String) (host : Host) : Except Fault Unit × Host :=
  match (Command.ofArguments arguments none).execute host with
  | (.ok _, _, after) => (.ok (), after)
  | (.error fault, _, after) => (.error fault, after)

/-- Compiles. A compiler that reports a failure gives its diagnostics as the output of the failed
command. -/
def compile (compiler : Compiler) (job : Compilation) (host : Host) : Except Fault Unit × Host :=
  match compiler with
  | javac executable encoding debug => complete (arguments executable encoding debug job) host
  | recording fault diagnostics =>
    let noted := { host with
      calls := { host.calls with compilations := host.calls.compilations ++ [job] } }
    match fault, diagnostics with
    | some fault, _ => (.error fault, noted)
    | none, some lines => (.error (.commandFailed ["javac"] 1 lines), noted)
    | none, none => (.ok (), noted)

end Compiler
end TestBench
