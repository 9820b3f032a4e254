import TestBench.Reader.Deadline

/-!
A reader with one slot. Reads may be submitted at any time. A read that finds the slot taken waits
behind those that came before it. A read that has the slot starts a task that gathers the output of
its command; when the task has ended or the deadline has passed, it gives the slot back. A reader
that is closed refuses every read submitted later and serves those that wait already.

`step` does what happens next: a read is submitted, the reader is closed, or a read ends. `run` takes
steps until nothing is left to happen.
-/
namespace TestBench
set_option autoImplicit false

/-- A read that is submitted `delay` milliseconds from now. Its command is started at that moment if
`starts` is set. -/
structure ReadRequest where
  command : Command
  timeout : Nat
  delay : Nat
  starts : Bool

/-- What became of a read: its place in the list of requests, the command that was to be read, when
it was given the slot, its result, when the result was known, and the status of the command after it
was terminated. -/
structure ReadReport where
  place : Nat
  command : Command
  grantedAt : Option Nat
  result : Except Fault (List String)
  endedAt : Nat
  status : Option Int

namespace Queue

/-- A read that has been submitted. -/
structure Ticket where
  place : Nat
  command : Command
  timeout : Nat

/-- A read that has got the slot, with the task that gathers its output since then. -/
structure Gathering extends Ticket where
  grantedAt : Nat

/-- What comes from outside: a read, or the end of the time in which reads are accepted. -/
inductive Arrival where
  | read (place : Nat) (request : ReadRequest)
  | close

/-- Whether one arrival goes before another at the same moment: reads go in the order of their
places, and before a close. -/
def Arrival.precedes : Arrival → Arrival → Bool
  | read place _, read other _ => place ≤ other
  | read _ _, close => true
  | close, read _ _ => false
  | close, close => true

def goesFirst (first second : Nat × Arrival) : Bool :=
  first.1 < second.1 || (first.1 == second.1 && first.2.precedes second.2)

/-- All that is to come, each at its moment and in its order. -/
def agendaOf (requests : List ReadRequest) (closesAt : Option Nat) : List (Nat × Arrival) :=
  ((requests.zipIdx.map fun item => (item.1.delay, Arrival.read item.2 item.1))
    ++ closesAt.toList.map fun moment => (moment, Arrival.close)).mergeSort goesFirst

end Queue

open Queue (Ticket Gathering Arrival) in
/-- A reader and what goes on around it: what is still to come, whether the reader is closed, how
many slots are free, the reads that wait for one, the tasks of the reads that have one, the tasks
that were left to themselves, what became of the other reads, the last moment that something waits
for, and the host with its clock. -/
structure Queue where
  agenda : List (Nat × Arrival)
  closed : Bool
  free : Nat
  waiting : List Ticket
  gathering : List Gathering
  abandoned : List Gathering
  reports : List ReadReport
  lastMoment : Nat
  host : Host

namespace Queue

/-- The host at a moment of its own for one of several commands that run side by side. -/
def seenAt (host : Host) (moment : Nat) : Host :=
  { host with now := moment }

/-- The fault of a read on a reader that has been closed. -/
def closedFault : Fault :=
  .misuse "Output reader is closed"

def start (requests : List ReadRequest) (closesAt : Option Nat) (host : Host) : Queue where
  agenda := agendaOf requests closesAt
  closed := false
  free := 1
  waiting := []
  gathering := []
  abandoned := []
  reports := []
  lastMoment := 0
  host := seenAt host 0

/-! ## Reads -/

/-- Notes what became of a read, whose command is then terminated. Nobody else waits for that. -/
def report (queue : Queue) (ticket : Ticket) (grantedAt : Option Nat)
    (result : Except Fault (List String)) : Queue :=
  let moment := queue.host.now
  let (ended, after) := ticket.command.terminate queue.host
  { queue with
    reports := queue.reports
      ++ [⟨ticket.place, ticket.command, grantedAt, result, moment, ended.status? after⟩]
    lastMoment := max queue.lastMoment after.now
    host := seenAt after moment }

/-- Gives a slot to a read. -/
def grant (queue : Queue) (ticket : Ticket) : Queue :=
  { queue with
    free := queue.free - 1
    gathering := queue.gathering ++ [⟨ticket, queue.host.now⟩] }

/-- A read whose command has been started as far as it was to be. -/
def enter (queue : Queue) (ticket : Ticket) : Queue :=
  if queue.closed then queue.report ticket none (.error closedFault)
  else if queue.free = 0 ∨ queue.waiting ≠ [] then
    { queue with waiting := queue.waiting ++ [ticket] }
  else queue.grant ticket

def submit (queue : Queue) (place : Nat) (request : ReadRequest) : Queue :=
  if request.starts then
    match request.command.start queue.host with
    | (.error fault, begun) =>
      { queue with host := begun }.report ⟨place, request.command, request.timeout⟩ none
        (.error fault)
    | (.ok command, begun) =>
      { queue with host := begun }.enter ⟨place, command, request.timeout⟩
  else queue.enter ⟨place, request.command, request.timeout⟩

/-- Takes a slot back, which goes on to the read that has waited longest. -/
def release (queue : Queue) : Queue :=
  let freed := { queue with free := queue.free + 1 }
  match queue.waiting with
  | [] => freed
  | next :: rest => { freed with waiting := rest }.grant next

/-- What the read of a task comes to, and the host at its end. -/
def Gathering.ending (gathering : Gathering) (host : Host) : Except Fault (List String) × Host :=
  gathering.command.read gathering.timeout (seenAt host gathering.grantedAt)

def Gathering.endsAt (gathering : Gathering) (host : Host) : Nat :=
  (gathering.ending host).2.now

/-- The queue at the end of a read, without its task. If the deadline of the read could not be
measured, the task goes on by itself. -/
def dismiss (queue : Queue) (gathering : Gathering) (others : List Gathering) : Queue :=
  { queue with
    gathering := others
    abandoned :=
      if Command.timeoutBound ≤ gathering.timeout then queue.abandoned ++ [gathering]
      else queue.abandoned
    host := (gathering.ending queue.host).2 }

/-- Ends a read. -/
def finish (queue : Queue) (gathering : Gathering) (others : List Gathering) : Queue :=
  (queue.dismiss gathering others).release.report gathering.toTicket (some gathering.grantedAt)
    (gathering.ending queue.host).1

/-! ## Steps -/

def arrive (queue : Queue) (moment : Nat) (arrival : Arrival) (rest : List (Nat × Arrival)) :
    Queue :=
  let reached := { queue with agenda := rest, host := seenAt queue.host moment }
  match arrival with
  | .read place request => reached.submit place request
  | .close => { reached with closed := true, lastMoment := max queue.lastMoment moment }

/-- The task that is the first to end, and the others. -/
def firstToEnd (host : Host) : List Gathering → Option (Gathering × List Gathering)
  | [] => none
  | task :: rest =>
    match firstToEnd host rest with
    | none => some (task, [])
    | some (other, others) =>
      if task.endsAt host ≤ other.endsAt host then some (task, rest)
      else some (other, task :: others)

/-- Does what happens next, if anything does. -/
def step (queue : Queue) : Option Queue :=
  match firstToEnd queue.host queue.gathering, queue.agenda with
  | none, [] => none
  | none, (moment, arrival) :: rest => some (queue.arrive moment arrival rest)
  | some (first, others), [] => some (queue.finish first others)
  | some (first, others), (moment, arrival) :: rest =>
    if first.endsAt queue.host ≤ moment then some (queue.finish first others)
    else some (queue.arrive moment arrival rest)

/-- A bound for the steps that are left: a read arrives and ends, and a close comes once. -/
def workload (queue : Queue) : Nat :=
  2 * queue.agenda.length + queue.waiting.length + queue.gathering.length

def runFor : Nat → Queue → Queue
  | 0, queue => queue
  | steps + 1, queue =>
    match queue.step with
    | none => queue
    | some next => runFor steps next

/-- Runs a reader that serves all requests and is perhaps closed. The reports come in the order of
the requests, and the clock stops when nothing is left to wait for. -/
def run (requests : List ReadRequest) (closesAt : Option Nat) (host : Host) :
    List ReadReport × Host :=
  let begun := start requests closesAt host
  let last := begun.runFor begun.workload
  (last.reports.mergeSort fun a b => a.place ≤ b.place, seenAt last.host last.lastMoment)

end Queue
end TestBench
