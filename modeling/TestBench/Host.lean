import TestBench.Calls
import TestBench.Disk
import TestBench.Process

/-!
The host on which tests run: its disk, its clock, its programs and processes, and what happened on
it so far. An operation takes the host and gives it back changed, together with a value or a fault.
-/
namespace TestBench
set_option autoImplicit false

/-- What was done to the system. The outcome of killing a group is `natural` if the kill worked. -/
inductive Event where
  | spawn (arguments : List String) (directory : Option Path)
      (environment : Option (List (String × String)))
  | killGroup (program : String) (outcome : GroupKill)
  | killProcess (program : String)
deriving DecidableEq, Repr

inductive Level where
  | info
  | warning
  | error
deriving DecidableEq, Repr

def Level.label : Level → String
  | info => "INFO"
  | warning => "WARNING"
  | error => "ERROR"

/-- The state of a host. Time is in milliseconds since the host began; `epoch` is the date of the
host in seconds since 1970. Each start of a program takes the first behaviour off its list, and the
last one stays. A process is known by its place in `processes`. -/
structure Host where
  disk : Disk
  now : Nat
  epoch : Int
  programs : List (String × List Behaviour)
  processes : List Process
  events : List Event
  log : List (Level × String)
  calls : Calls
deriving DecidableEq

namespace Host

/-- A host on which nothing has happened, with a disk and programs. -/
def fresh (disk : Disk) (epoch : Int) (programs : List (String × List Behaviour)) : Host where
  disk := disk
  now := 0
  epoch := epoch
  programs := programs
  processes := []
  events := []
  log := []
  calls := .none

def record (host : Host) (event : Event) : Host :=
  { host with events := host.events ++ [event] }

def note (host : Host) (level : Level) (text : String) : Host :=
  { host with log := host.log ++ [(level, text)] }

/-- Waits until a moment; moments in the past are not waited for. -/
def waitUntil (host : Host) (moment : Nat) : Host :=
  { host with now := max host.now moment }

def makeDirectories (host : Host) (lenient : Bool) (path : Path) : Except Fault Unit × Host :=
  let (result, disk) := host.disk.makeDirectories lenient path
  (result, { host with disk := disk })

def remove (host : Host) (path : Path) : Host :=
  { host with disk := host.disk.remove path }

/-- The behaviours of a program after one start. -/
def afterStart : List Behaviour → List Behaviour
  | [] => []
  | [last] => [last]
  | _ :: rest => rest

/-- Takes the next behaviour of a program. -/
def takeBehaviour (programs : List (String × List Behaviour)) (program : String) :
    Option Behaviour × List (String × List Behaviour) :=
  match programs with
  | [] => (none, [])
  | (name, behaviours) :: rest =>
    if name = program then (behaviours.head?, (name, afterStart behaviours) :: rest)
    else
      let (behaviour, others) := takeBehaviour rest program
      (behaviour, (name, behaviours) :: others)

/-- The working directory that a process is to start in must be there. -/
def directoryFault? (host : Host) (path : Path) : Option Fault :=
  let refused (refusal : Refusal) (code : Int) (text : String) : Option Fault :=
    some (.system refusal (.numbered code text (some (.located path.toString))))
  match host.disk.isDirectory path with
  | .ok true => none
  | _ =>
    match host.disk.locate path with
    | .error .missing => refused .notFound 2 "No such file or directory"
    | .error .nameTooLong => refused .unspecified 36 "File name too long"
    | .error .nullCharacter => some .nullCharacter
    | _ => refused .notDirectory 20 "Not a directory"

def program (arguments : List String) : String :=
  arguments.head?.getD ""

/-- What the start of a program comes to: a fault, or the behaviour that its process will show; and
the behaviours that are left afterwards. -/
def answer (host : Host) (arguments : List String) (directory : Option Path) :
    Except Fault Behaviour × List (String × List Behaviour) :=
  if arguments.any fun argument => argument.toList.contains '\x00' then
    (.error .nullCharacter, host.programs)
  else match directory.bind host.directoryFault? with
    | some fault => (.error fault, host.programs)
    | none =>
      match takeBehaviour host.programs (program arguments) with
      | (none, left) =>
        (.error (.system .notFound
          (.numbered 2 "No such file or directory" (some (.written (program arguments))))), left)
      | (some behaviour, left) =>
        match behaviour.startFault with
        | some fault => (.error fault, left)
        | none => (.ok behaviour, left)

/-- Starts a program. The event is recorded whether or not it succeeds, and a new process comes
last. -/
def spawn (host : Host) (arguments : List String) (directory : Option Path)
    (environment : Option (List (String × String))) : Except Fault Unit × Host :=
  let begun := host.record (.spawn arguments directory environment)
  match host.answer arguments directory with
  | (.error fault, left) => (.error fault, { begun with programs := left })
  | (.ok behaviour, left) =>
    (.ok (), { begun with
      programs := left
      processes := host.processes ++ [⟨program arguments, behaviour, host.now, none⟩] })

def process? (host : Host) (number : Nat) : Option Process :=
  host.processes[number]?

/-- The host on which a process has been killed. -/
def withKilled (host : Host) (number : Nat) : Host :=
  { host with processes := host.processes.modify number fun process => process.kill host.now }

/-- Kills a process alone. -/
def killOne (signals : Signals) (host : Host) (number : Nat) : Except Fault Unit × Host :=
  match host.process? number with
  | none => (.error (.system .noProcess .silent), host)
  | some process =>
    let told := host.record (.killProcess process.program)
    match signals.single process host.now with
    | some fault => (.error fault, told)
    | none => (.ok (), told.withKilled number)

/-- Kills a process together with its group. -/
def killGroup (signals : Signals) (host : Host) (number : Nat) : Except Fault Unit × Host :=
  match host.process? number with
  | none => (.error (.system .noProcess .silent), host)
  | some process =>
    let outcome := signals.group process host.now
    let told := host.record (.killGroup process.program outcome)
    match outcome.fault? with
    | some fault => (.error fault, told)
    | none => (.ok (), told.withKilled number)

end Host
end TestBench
