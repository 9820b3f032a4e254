import TestBench.Host
import TestBench.TestRun

/-!
Work areas: the directories in which tests are compiled and run. Everything lies below one base
directory: the compiled runner in one directory, and each test in a directory of its own name.
-/
namespace TestBench
set_option autoImplicit false

/-- A work area. With `keepFiles` nothing is ever removed from it. A `userDirectoryFault` is met
whenever a user directory is to be prepared. -/
structure WorkArea where
  base : Path
  keepFiles : Bool
  userDirectoryFault : Option Fault
deriving DecidableEq

namespace WorkArea

def runnerClasses (area : WorkArea) : Path :=
  area.base.child "testrunner"

def testDirectory (area : WorkArea) (qualifiedName : String) : Path :=
  area.base.child qualifiedName

def classesDirectory (area : WorkArea) (qualifiedName : String) : Path :=
  (area.testDirectory qualifiedName).child "classes"

def userDirectory (area : WorkArea) (qualifiedName : String) : Path :=
  (area.testDirectory qualifiedName).child "user.dir"

/-- Makes what all tests share. -/
def prepare (area : WorkArea) (host : Host) : Except Fault Unit × Host :=
  host.makeDirectories true area.runnerClasses

/-- Makes a new, empty working directory for a test's process. -/
def prepareUserDirectory (area : WorkArea) (qualifiedName : String) (host : Host) :
    Except Fault Unit × Host :=
  match area.userDirectoryFault with
  | some fault => (.error fault, host)
  | none =>
    let directory := area.userDirectory qualifiedName
    (host.remove directory).makeDirectories false directory

def cleanUp (area : WorkArea) (qualifiedName : String) (host : Host) : Host :=
  if area.keepFiles then host else host.remove (area.testDirectory qualifiedName)

def shutDown (area : WorkArea) (host : Host) : Host :=
  if area.keepFiles then
    host.note .info ("Test files kept in " ++ area.base.toString)
  else host.remove area.base

end WorkArea
end TestBench
