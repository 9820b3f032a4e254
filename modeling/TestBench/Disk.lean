import TestBench.Fault
import TestBench.Path

/-!
Disks. A disk is a list of locations with what stands there, and a working directory. A location is
the list of names from the root. `Disk.locate` finds the location that a path means, one name after
the other, and the operations work on locations:

- `makeDirectory` and `makeDirectories` make directories,
- `write` and `read` handle whole files,
- `remove` deletes a directory with all it holds and reports nothing,
- `search` finds everything below a directory that has a given extension.
-/
namespace TestBench
set_option autoImplicit false

/-- The names from the root to an entry. -/
abbrev Location := List String

inductive Entry where
  | directory
  | file (content : List UInt8)
deriving DecidableEq, Repr

/-- Why an operation on a path is refused. -/
inductive Obstacle where
  | nullCharacter
  | missing
  | notDirectory
  | isDirectory
  | occupied
  | nameTooLong
deriving DecidableEq, Repr

/-- The fault that an obstacle on a path is reported as. -/
def Obstacle.fault (path : Path) : Obstacle → Fault
  | nullCharacter => .nullCharacter
  | missing => named .notFound 2 "No such file or directory"
  | notDirectory => named .notDirectory 20 "Not a directory"
  | isDirectory => named .isDirectory 21 "Is a directory"
  | occupied => named .occupied 17 "File exists"
  | nameTooLong => named .unspecified 36 "File name too long"
where
  named (refusal : Refusal) (code : Int) (text : String) : Fault :=
    .system refusal (.numbered code text (some (.written path.toString)))

/-- The entries of a file tree, each at a location of its own, and the working directory. The root
is a directory without an entry. There is no working directory once it has been removed. -/
structure Disk where
  entries : List (Location × Entry)
  cwd : Option Location
deriving DecidableEq, Repr

namespace Disk

/-! ## Entries -/

def entry? (disk : Disk) (location : Location) : Option Entry :=
  if location = [] then some .directory
  else (disk.entries.find? fun item => item.1 = location).map Prod.snd

def isDirectoryAt (disk : Disk) (location : Location) : Bool :=
  disk.entry? location = some .directory

def put (disk : Disk) (location : Location) (entry : Entry) : Disk :=
  if disk.entries.any fun item => item.1 = location then
    { disk with entries := disk.entries.map fun item =>
        if item.1 = location then (location, entry) else item }
  else { disk with entries := disk.entries ++ [(location, entry)] }

def isBelow (above location : Location) : Bool :=
  above.isPrefixOf location && above.length < location.length

/-- Keeps the entries at the locations that satisfy a condition. The working directory is lost with
its entry. -/
def keep (disk : Disk) (condition : Location → Bool) : Disk where
  entries := disk.entries.filter fun item => condition item.1
  cwd := disk.cwd.filter condition

/-! ## Finding a path -/

/-- Names have at most this many octets. -/
def nameLimit : Nat := 255

def isTooLong (name : String) : Bool :=
  nameLimit < Text.Utf8.length name.toList

/-- Paths have at most this many octets. -/
def pathLimit : Nat := 4095

/-- What is wrong with a path as it is written, whatever the disk holds. -/
def badPath? (path : Path) : Option Obstacle :=
  if path.names.any fun name => name.toList.contains '\x00' then some .nullCharacter
  else if pathLimit < Text.Utf8.length path.toString.toList then some .nameTooLong
  else none

/-- Follows names from a location. Two dots lead to the directory above. -/
def walk (disk : Disk) : Location → List String → Except Obstacle Location
  | location, [] => .ok location
  | location, name :: rest =>
    if !disk.isDirectoryAt location then .error .notDirectory
    else if name = ".." then walk disk location.dropLast rest
    else if isTooLong name then .error .nameTooLong
    else if (disk.entry? (location ++ [name])).isNone then .error .missing
    else walk disk (location ++ [name]) rest

def origin? (disk : Disk) (path : Path) : Option Location :=
  if path.isAbsolute then some [] else disk.cwd

def locate (disk : Disk) (path : Path) : Except Obstacle Location :=
  match badPath? path, disk.origin? path with
  | some obstacle, _ => .error obstacle
  | none, none => .error .missing
  | none, some location => disk.walk location path.names

/-- Whether a path means a directory. A name that is too long cannot be asked about. -/
def isDirectory (disk : Disk) (path : Path) : Except Obstacle Bool :=
  if path.names = [] then .ok true
  else match disk.locate path with
    | .ok location => .ok (disk.isDirectoryAt location)
    | .error .nameTooLong => .error .nameTooLong
    | .error _ => .ok false

/-! ## Making directories -/

/-- Makes one directory in a directory that is there. -/
def makeDirectory (disk : Disk) (path : Path) : Except Obstacle Disk :=
  match badPath? path, path.names.getLast? with
  | some obstacle, _ => .error obstacle
  | none, none => .error .occupied
  | none, some name =>
    match disk.locate path.parent with
    | .error obstacle => .error obstacle
    | .ok above =>
      if !disk.isDirectoryAt above then .error .notDirectory
      else if name = ".." then .error .occupied
      else if isTooLong name then .error .nameTooLong
      else if (disk.entry? (above ++ [name])).isSome then .error .occupied
      else .ok (disk.put (above ++ [name]) .directory)

/-- What follows when one directory could not be made: with `lenient` it does not matter if there
is a directory already. -/
def tolerate (lenient : Bool) (disk : Disk) (path : Path) (obstacle : Obstacle) :
    Except Fault Unit :=
  match lenient, disk.isDirectory path with
  | true, .ok true => .ok ()
  | _, _ => .error (obstacle.fault path)

/-- Makes one directory whose directory above has been made. -/
def makeLast (lenient : Bool) (disk : Disk) (path : Path) : Except Fault Unit × Disk :=
  match disk.makeDirectory path with
  | .ok made => (.ok (), made)
  | .error .missing => (.error (Obstacle.missing.fault path), disk)
  | .error obstacle => (disk.tolerate lenient path obstacle, disk)

/-- Makes a directory and as many of those above it as `steps` allows. -/
def makeUpTo : Nat → Bool → Disk → Path → Except Fault Unit × Disk
  | steps, lenient, disk, path =>
    match disk.makeDirectory path with
    | .ok made => (.ok (), made)
    | .error .missing =>
      match steps with
      | 0 => (.error (Obstacle.missing.fault path), disk)
      | steps + 1 =>
        match makeUpTo steps true disk path.parent with
        | (.ok _, above) => makeLast lenient above path
        | failed => failed
    | .error obstacle => (disk.tolerate lenient path obstacle, disk)

def makeDirectories (lenient : Bool) (disk : Disk) (path : Path) : Except Fault Unit × Disk :=
  makeUpTo path.names.length lenient disk path

/-! ## Files -/

/-- Writes a whole file, which replaces the file that was there. A path without names is a
directory. -/
def write (disk : Disk) (path : Path) (content : List UInt8) : Except Obstacle Disk :=
  if path.names = [] then .error .isDirectory
  else match disk.locate path with
  | .ok location =>
    if disk.isDirectoryAt location then .error .isDirectory
    else .ok (disk.put location (.file content))
  | .error .missing =>
    match disk.locate path.parent with
    | .ok above => .ok (disk.put (above ++ [path.name]) (.file content))
    | .error obstacle => .error obstacle
  | .error obstacle => .error obstacle

def read (disk : Disk) (path : Path) : Except Obstacle (List UInt8) :=
  if path.names = [] then .error .isDirectory
  else match disk.locate path with
  | .error obstacle => .error obstacle
  | .ok location =>
    match disk.entry? location with
    | some (.file content) => .ok content
    | _ => .error .isDirectory

/-! ## Removing -/

/-- A path whose directory can be deleted by that name. -/
def isDeletable (path : Path) : Bool :=
  match path.names.getLast? with
  | none => false
  | some name => name ≠ ".."

/-- Removes a directory with all it holds. What cannot be removed stays. The directory itself goes
last, and only if its path still leads to it. -/
def remove (disk : Disk) (path : Path) : Disk :=
  match disk.locate path with
  | .error _ => disk
  | .ok location =>
    if disk.isDirectoryAt location then
      let emptied := disk.keep fun other => !isBelow location other
      match isDeletable path, emptied.locate path with
      | true, .ok _ => emptied.keep fun other => other ≠ location
      | _, _ => emptied
    else disk

/-! ## Searching and listing -/

/-- Everything below a directory whose name ends in a text, in path order. -/
def search (disk : Disk) (root : Path) (ending : String) : Except Obstacle (List Path) :=
  match disk.isDirectory root with
  | .error obstacle => .error obstacle
  | .ok false => .ok []
  | .ok true =>
    match disk.locate root with
    | .error _ => .ok []
    | .ok location =>
      let found := disk.entries.filter fun item =>
        isBelow location item.1
          && ending.toList.isSuffixOf (item.1.getLast?.getD "").toList
      .ok (Path.sort (found.map fun item =>
        root.join (.ofNames .relative (item.1.drop location.length))))

/-- How an entry is listed: by its names below a directory; a directory has a separator at the
end. -/
def shown (above : Location) (item : Location × Entry) : String :=
  "/".intercalate (item.1.drop above.length)
    ++ (match item.2 with
      | .directory => "/"
      | .file _ => "")

/-- Everything below a directory, if the directory is there. -/
def listing? (disk : Disk) (above : Location) : Option (List String) :=
  if disk.isDirectoryAt above then
    some (((disk.entries.filter fun item => isBelow above item.1).map (shown above)).mergeSort)
  else none

/-- The files below a directory that have a name, with their content. -/
def filesNamed (disk : Disk) (above : Location) (name : String) :
    List (String × List UInt8) :=
  disk.entries.filterMap fun item =>
    match item.2 with
    | .directory => none
    | .file content =>
      if isBelow above item.1 && item.1.getLast? == some name then
        some (shown above item, content)
      else none

end Disk
end TestBench
