import TestBench.Fault

/-!
Processes. A `Behaviour` says what a process does when nobody interferes; a `Process` is one that
was started and perhaps killed. From these follow the two moments that others wait for: when it
exits, with which status, and when its output closes. Times are in milliseconds.
-/
namespace TestBench
set_option autoImplicit false

/-- How a process answers when its group is to be killed: as its state demands, as if it were gone,
or by refusing. -/
inductive GroupKill where
  | natural
  | gone
  | denied
deriving DecidableEq, Repr

/-- The fault that a kill of a group ends in. -/
def GroupKill.fault? : GroupKill → Option Fault
  | natural => none
  | gone => some (.system .noProcess (.numbered 3 "No such process" none))
  | denied => some (.system .notPermitted (.numbered 1 "Operation not permitted" none))

/-- What a process does. Its output arrives as a whole when its pipe closes. A process that is
`stuck` lives on when it is killed, though its pipe closes. -/
structure Behaviour where
  output : List UInt8
  exitsAfter : Option Nat
  status : Int
  closesAfter : Option Nat
  startFault : Option Fault
  readFault : Option Fault
  groupKill : GroupKill
  stuck : Bool
deriving DecidableEq, Repr

structure Process where
  program : String
  behaviour : Behaviour
  startedAt : Nat
  killedAt : Option Nat
deriving DecidableEq, Repr

def killedStatus : Int := -9

namespace Process

/-- When and how the process would exit by itself. -/
def ownExit? (process : Process) : Option (Nat × Int) :=
  process.behaviour.exitsAfter.map fun delay =>
    (process.startedAt + delay, process.behaviour.status)

/-- When and how the process exits, if it does. -/
def exit? (process : Process) : Option (Nat × Int) :=
  match process.killedAt, process.ownExit? with
  | none, own => own
  | some time, some (ownTime, status) =>
    if ownTime ≤ time ∨ process.behaviour.stuck then some (ownTime, status)
    else some (time, killedStatus)
  | some time, none => if process.behaviour.stuck then none else some (time, killedStatus)

/-- When the output of the process closes, if it does. -/
def close? (process : Process) : Option Nat :=
  match process.killedAt, process.behaviour.closesAfter.map (process.startedAt + ·) with
  | none, own => own
  | some time, some ownTime => some (min time ownTime)
  | some time, none => some time

/-- The status of the process, once it has exited. -/
def statusAt (process : Process) (now : Nat) : Option Int :=
  process.exit?.bind fun exit => if exit.1 ≤ now then some exit.2 else none

def hasExitedBy (process : Process) (now : Nat) : Bool :=
  (process.statusAt now).isSome

def hasClosedBy (process : Process) (now : Nat) : Bool :=
  match process.close? with
  | none => false
  | some time => time ≤ now

/-- When all of the output can be read and the process has exited, if that happens. -/
def complete? (process : Process) (now : Nat) : Option Nat :=
  match process.close?, process.exit? with
  | some closed, some (exited, _) => some (max now (max closed exited))
  | _, _ => none

def kill (process : Process) (now : Nat) : Process :=
  { process with killedAt := some (match process.killedAt with
    | none => now
    | some earlier => min earlier now) }

/-- What becomes of a kill of the whole group. -/
def groupKillAt (process : Process) (now : Nat) : GroupKill :=
  match process.behaviour.groupKill with
  | .natural =>
    if process.hasExitedBy now && process.hasClosedBy now then .gone else .natural
  | answer => answer

end Process

/-- How a system answers the kill of a process at a moment: that of its whole group, and that of the
process alone, which may end in a fault. -/
structure Signals where
  group : Process → Nat → GroupKill
  single : Process → Nat → Option Fault

/-- The system on which a group answers as its process would have it, and on which a process alone
can always be killed. -/
def Signals.usual : Signals where
  group := Process.groupKillAt
  single _ _ := none

end TestBench
