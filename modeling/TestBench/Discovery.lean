import TestBench.Discovery.Package
import TestBench.Host
import TestBench.TestRun

/-!
Finding tests. A directory stands for all test sources below it, and any other path for itself.
-/
namespace TestBench.Discovery
set_option autoImplicit false

def extension : String := ".java"

/-- Where relative paths start. -/
def workingDirectory (host : Host) : Path :=
  .ofNames .root (host.disk.cwd.getD [])

/-- A path from the root. -/
def absolute (host : Host) (path : Path) : Path :=
  (workingDirectory host).join path

/-- The package that a source declares. A source that cannot be read declares none, and the log says
so. -/
def readPackage (source : Path) (host : Host) : Except Fault (Option String) × Host :=
  if source.extension ≠ extension then (.ok none, host)
  else match host.disk.read source with
    | .ok octets =>
      (.ok (Package.declared? (Text.unifyLineEnds (Text.Utf8.decode octets))), host)
    | .error .nullCharacter => (.error .nullCharacter, host)
    | .error obstacle =>
      (.ok none, host.note .warning
        ("Cannot read " ++ source.toString ++ ": " ++ (obstacle.fault source).message))

def qualify (package : Option String) (className : String) : String :=
  match package with
  | none => className
  | some name => name ++ "." ++ className

def describe (source : Path) (host : Host) : Except Fault TestRun × Host :=
  match readPackage source host with
  | (.error fault, after) => (.error fault, after)
  | (.ok package, after) =>
    match Package.root (absolute after source) package with
    | .error fault => (.error fault, after)
    | .ok directory =>
      (.ok (.fresh (qualify package source.stem) source.stem (absolute after source)
        (some directory)), after)

def describeAll : List Path → Host → Except Fault (List TestRun) × Host
  | [], host => (.ok [], host)
  | source :: rest, host =>
    match describe source host with
    | (.error fault, after) => (.error fault, after)
    | (.ok test, after) =>
      match describeAll rest after with
      | (.error fault, last) => (.error fault, last)
      | (.ok tests, last) => (.ok (test :: tests), last)

def sources (disk : Disk) (path : Path) : Except Fault (List Path) :=
  match disk.isDirectory path with
  | .error obstacle => .error (obstacle.fault path)
  | .ok false => .ok [path]
  | .ok true =>
    match disk.search path extension with
    | .error obstacle => .error (obstacle.fault path)
    | .ok found => .ok found

def findTests : List Path → Host → Except Fault (List TestRun) × Host
  | [], host => (.ok [], host)
  | path :: rest, host =>
    match sources host.disk path with
    | .error fault => (.error fault, host)
    | .ok found =>
      match describeAll found host with
      | (.error fault, after) => (.error fault, after)
      | (.ok tests, after) =>
        match findTests rest after with
        | (.error fault, last) => (.error fault, last)
        | (.ok others, last) => (.ok (tests ++ others), last)

def runnerSources (disk : Disk) (root : Path) : Except Fault (List Path) :=
  match disk.search root extension with
  | .error obstacle => .error (obstacle.fault root)
  | .ok found => .ok found

end TestBench.Discovery
