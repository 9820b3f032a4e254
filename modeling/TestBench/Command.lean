import TestBench.Host

/-!
Commands. A command is started once, read once and terminated at most once:

- `start` starts its process,
- `gather` waits for all of its output,
- `terminate` kills its process,
- `execute` does all three and asks for the exit status zero.

The system may refuse a kill: `terminateUnder` and `executeUnder` are told how it answers.
-/
namespace TestBench
set_option autoImplicit false

/-- A program with its arguments. `process` is the number of its process, once it was started. -/
structure Command where
  arguments : List String
  directory : Option Path
  environment : Option (List (String × String))
  process : Option Nat
  terminated : Bool
deriving DecidableEq, Repr

namespace Command

def ofArguments (arguments : List String) (directory : Option Path) : Command :=
  ⟨arguments, directory, none, none, false⟩

/-- How messages show a command. -/
def shown (command : Command) : String :=
  "Command(" ++ Text.quoteList command.arguments ++ ")"

def isStarted (command : Command) : Bool :=
  command.process.isSome

def process? (command : Command) (host : Host) : Option Process :=
  command.process.bind host.process?

/-- The exit status of a command, as far as it is known. -/
def status? (command : Command) (host : Host) : Option Int :=
  (command.process? host).bind fun process => process.statusAt host.now

/-- Starts the command; a command cannot be started twice. -/
def start (command : Command) (host : Host) : Except Fault Command × Host :=
  if command.isStarted then (.error (.misuse (command.shown ++ " already started")), host)
  else match host.spawn command.arguments command.directory command.environment with
    | (.error fault, after) => (.error fault, after)
    | (.ok _, after) => (.ok { command with process := some host.processes.length }, after)

/-- What a wait for the output comes to: the lines or a fault, and the moment at which it is known.
Without a moment the wait never ends. -/
def outcome (command : Command) (host : Host) : Except Fault (List String) × Option Nat :=
  match command.process? host with
  | none => (.error (.misuse (command.shown ++ " not started")), some host.now)
  | some process =>
    match process.behaviour.readFault with
    | some fault => (.error fault, some host.now)
    | none => (.ok (Text.outputLines process.behaviour.output), process.complete? host.now)

/-- Waits for all of the output and for the exit. -/
def gather (command : Command) (host : Host) : Except Fault (List String) × Host :=
  match command.outcome host with
  | (result, some moment) => (result, host.waitUntil moment)
  | (_, none) => (.error .endless, host)

/-- How long a killed process may take to exit. -/
def graceTime : Nat := 5000

/-- The host after waiting for a killed process, at most for the grace time. -/
def awaitExit (host : Host) (number : Nat) : Host :=
  match (host.process? number).bind Process.exit? with
  | none => host.waitUntil (host.now + graceTime)
  | some (moment, _) => host.waitUntil (min moment (host.now + graceTime))

/-- Kills the process of a command with its whole group. A group that is gone is no fault. If the
group may not be killed, the process is killed alone unless it has exited. -/
def kill (signals : Signals) (command : Command) (host : Host) (number : Nat) :
    Except Fault Unit × Host :=
  match host.killGroup signals number with
  | (.ok _, killed) => (.ok (), killed)
  | (.error (.system .noProcess _), told) => (.ok (), told)
  | (.error (.system .notPermitted _), told) =>
    if (command.status? told).isSome then (.ok (), told) else told.killOne signals number
  | (.error fault, told) => (.error fault, told)

/-- Kills the process of a command, once, and waits a while for its exit. -/
def terminateUnder (signals : Signals) (command : Command) (host : Host) :
    Except Fault Unit × Command × Host :=
  match command.process, command.terminated with
  | some number, false =>
    let marked := { command with terminated := true }
    match command.kill signals host number with
    | (.ok _, killed) => (.ok (), marked, awaitExit killed number)
    | (.error fault, told) => (.error fault, marked, told)
  | _, _ => (.ok (), command, host)

/-- Terminates a command on the usual system, where nothing comes of it but the command and the
host: `terminateUnder_usual`. -/
def terminate (command : Command) (host : Host) : Command × Host :=
  (command.terminateUnder .usual host).2

/-- The result of a command that was read to its end: any status but zero is a fault. -/
def verdict (command : Command) (host : Host) (output : List String) :
    Except Fault (List String) :=
  match command.status? host with
  | some 0 => .ok output
  | status => .error (.commandFailed command.arguments (status.getD (-1)) output)

/-- Runs a command to its end. Its process is terminated however reading ends, and a fault of that
takes the place of what was read. -/
def executeUnder (signals : Signals) (command : Command) (host : Host) :
    Except Fault (List String) × Command × Host :=
  match command.start host with
  | (.error fault, begun) => (.error fault, command, begun)
  | (.ok started, begun) =>
    match started.gather begun with
    | (.error .endless, waiting) => (.error .endless, started, waiting)
    | (result, read) =>
      match started.terminateUnder signals read with
      | (.error fault, ended, after) => (.error fault, ended, after)
      | (.ok _, ended, after) =>
        match result with
        | .error fault => (.error fault, ended, after)
        | .ok output => (ended.verdict after output, ended, after)

/-- Runs a command to its end on the usual system. -/
def execute (command : Command) (host : Host) : Except Fault (List String) × Command × Host :=
  command.executeUnder .usual host

end Command
end TestBench
