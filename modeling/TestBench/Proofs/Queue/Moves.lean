import Mathlib.Logic.Relation
import TestBench.Proofs.Queue.Ends

/-!
What a step of a queue can do. One permit goes from read to read, so there is never more than one
task that has the slot.

- `Permits`: the permit is free or in the hands of one task, and nobody waits while it is free,
- `Move` and `step_moves`: the four things that can happen, each with all that it changes,
- `workload_of_move` and `runFor_ends`: a run takes steps until nothing is left to happen.
-/
namespace TestBench.Queue
set_option autoImplicit false

variable {queue next : Queue}

/-! ## Views -/

/-- The reads that have been accepted and have not ended, the one with the slot first. -/
def tickets (queue : Queue) : List Ticket :=
  queue.gathering.map Gathering.toTicket ++ queue.waiting

/-- Whether a task that was left to itself is still at work. -/
def Gathering.isOpen (gathering : Gathering) (host : Host) : Bool :=
  match (gathering.command.outcome (seenAt host gathering.grantedAt)).2 with
  | none => true
  | some moment => host.now < moment

/-- All tasks that gather output. -/
def inProgress (queue : Queue) : List Gathering :=
  queue.gathering ++ queue.abandoned.filter fun task => task.isOpen queue.host

/-! ## The permit -/

/-- There is one permit, which is free or has been given to a read, and nobody waits while it is
free. -/
structure Permits (queue : Queue) : Prop where
  one : queue.free + queue.gathering.length = 1
  taken : queue.waiting ≠ [] → queue.free = 0

theorem firstToEnd_eq_none {host : Host} {tasks : List Gathering}
    (h : firstToEnd host tasks = none) : tasks = [] := by
  cases tasks with
  | nil => rfl
  | cons task rest =>
    unfold firstToEnd at h
    split at h
    · cases h
    · split at h <;> cases h

namespace Permits

theorem idle (permits : Permits queue) (free : queue.free ≠ 0) :
    queue.gathering = [] ∧ queue.waiting = [] := by
  have one := permits.one
  refine ⟨List.eq_nil_of_length_eq_zero (by omega), ?_⟩
  cases waits : queue.waiting with
  | nil => rfl
  | cons first rest => exact absurd (permits.taken (by simp [waits])) free

theorem alone (permits : Permits queue) {task : Gathering} {others : List Gathering}
    (first : firstToEnd queue.host queue.gathering = some (task, others)) :
    queue.gathering = [task] ∧ others = [] ∧ queue.free = 0 := by
  have one := permits.one
  cases working : queue.gathering with
  | nil =>
    rw [working] at first
    cases first
  | cons only rest =>
    rw [working, List.length_cons] at one
    obtain rfl : rest = [] := List.eq_nil_of_length_eq_zero (by omega)
    rw [working] at first
    cases first
    exact ⟨rfl, rfl, by omega⟩

theorem beside (permits : Permits queue) (agenda : List (Nat × Arrival)) (closed : Bool)
    (reports : List ReadReport) (lastMoment : Nat) (host : Host) :
    Permits { queue with agenda, closed, reports, lastMoment, host } :=
  ⟨permits.one, permits.taken⟩

theorem enter (permits : Permits queue) (ticket : Ticket) : Permits (queue.enter ticket) := by
  unfold Queue.enter
  split
  · exact permits.beside _ _ _ _ _
  · split
    · next busy => exact ⟨permits.one, fun _ => busy.elim id permits.taken⟩
    · next idle =>
      have one := permits.one
      refine ⟨?_, fun waits => absurd (Or.inr waits) idle⟩
      simp only [grant, List.length_append, List.length_singleton]
      omega

theorem submit (permits : Permits queue) (place : Nat) (request : ReadRequest) :
    Permits (queue.submit place request) := by
  unfold Queue.submit
  split
  · split
    · exact permits.beside _ _ _ _ _
    · exact (permits.beside _ _ _ _ _).enter _
  · exact permits.enter _

theorem arrive (permits : Permits queue) (moment : Nat) (arrival : Arrival)
    (rest : List (Nat × Arrival)) : Permits (queue.arrive moment arrival rest) := by
  cases arrival with
  | read place request => exact (permits.beside _ _ _ _ _).submit place request
  | close => exact permits.beside _ _ _ _ _

/-- A permit that comes back goes on at once. -/
theorem release (free : queue.free = 0) (ended : queue.gathering = []) :
    Permits queue.release := by
  unfold Queue.release
  split
  · next nobody => exact ⟨by simp [free, ended], fun waits => absurd nobody waits⟩
  · exact ⟨by simp [grant, free, ended], fun _ => by simp [grant, free]⟩

theorem finish (free : queue.free = 0) (gathering : Gathering) :
    Permits (queue.finish gathering []) := by
  have passed : Permits (queue.dismiss gathering []).release := release free rfl
  exact passed.beside _ _ _ _ _

end Permits

theorem step_permits (permits : Permits queue) (h : queue.step = some next) : Permits next := by
  unfold step at h
  split at h
  · cases h
  · cases h
    exact permits.arrive _ _ _
  · next first _ =>
    obtain ⟨-, rfl, free⟩ := permits.alone first
    cases h
    exact .finish free _
  · next first _ =>
    obtain ⟨-, rfl, free⟩ := permits.alone first
    split at h <;> cases h
    · exact .finish free _
    · exact permits.arrive _ _ _

/-! ## Moves -/

/-- A read has been submitted: its command was started if that was asked for. -/
inductive Submits (host : Host) (request : ReadRequest) : Command → Host → Prop
  | asItIs (kept : request.starts = false) : Submits host request request.command host
  | started (command : Command) (begun : Host) (asked : request.starts = true)
      (begins : request.command.start host = (.ok command, begun)) :
      Submits host request command begun

/-- Why a read does not get in line: its command could not be started, or the reader is closed. -/
inductive TurnsAway (closed : Bool) (host : Host) (request : ReadRequest) :
    Command → Host → Fault → Prop
  | unstarted (fault : Fault) (begun : Host) (asked : request.starts = true)
      (refused : request.command.start host = (.error fault, begun)) :
      TurnsAway closed host request request.command begun fault
  | late (command : Command) (begun : Host) (submits : Submits host request command begun)
      (shut : closed = true) : TurnsAway closed host request command begun closedFault

/-- What can happen next, with all that it changes: the reader is closed, a read is turned away, a
read gets in line, or the read with the slot ends. What comes from outside comes before that end,
and the end comes before all that is still to come. -/
inductive Move (queue next : Queue) : Prop
  | close (moment : Nat) (comes : queue.agenda = (moment, .close) :: next.agenda)
      (early : ∀ task ∈ queue.gathering, moment ≤ task.endsAt queue.host)
      (host : next.host = seenAt queue.host moment) (closed : next.closed = true)
      (tickets : next.tickets = queue.tickets) (gathering : next.gathering = queue.gathering)
      (abandoned : next.abandoned = queue.abandoned) (reports : next.reports = queue.reports)
  | turnAway (moment place : Nat) (request : ReadRequest) (command : Command) (begun : Host)
      (fault : Fault) (status : Option Int)
      (comes : queue.agenda = (moment, .read place request) :: next.agenda)
      (early : ∀ task ∈ queue.gathering, moment ≤ task.endsAt queue.host)
      (reason : TurnsAway queue.closed (seenAt queue.host moment) request command begun fault)
      (host : next.host = seenAt (command.terminate begun).2 begun.now)
      (closed : next.closed = queue.closed) (tickets : next.tickets = queue.tickets)
      (gathering : next.gathering = queue.gathering)
      (abandoned : next.abandoned = queue.abandoned)
      (reports : next.reports =
        queue.reports ++ [⟨place, command, none, .error fault, begun.now, status⟩])
  | join (moment place : Nat) (request : ReadRequest) (command : Command) (begun : Host)
      (comes : queue.agenda = (moment, .read place request) :: next.agenda)
      (early : ∀ task ∈ queue.gathering, moment ≤ task.endsAt queue.host)
      (submits : Submits (seenAt queue.host moment) request command begun)
      (opened : queue.closed = false) (host : next.host = begun)
      (closed : next.closed = queue.closed)
      (tickets : next.tickets = queue.tickets ++ [⟨place, command, request.timeout⟩])
      (gathering : next.gathering = queue.gathering ∨ queue.tickets = [] ∧
        next.gathering = [⟨⟨place, command, request.timeout⟩, begun.now⟩])
      (abandoned : next.abandoned = queue.abandoned) (reports : next.reports = queue.reports)
  | finish (task : Gathering) (status : Option Int) (alone : queue.gathering = [task])
      (due : ∀ item ∈ queue.agenda.head?, task.endsAt queue.host ≤ item.1)
      (host : next.host = seenAt (task.command.terminate (task.ending queue.host).2).2
        (task.endsAt queue.host))
      (closed : next.closed = queue.closed) (agenda : next.agenda = queue.agenda)
      (tickets : queue.tickets = task.toTicket :: next.tickets)
      (gathering : next.gathering = [] ∨
        ∃ ticket, next.gathering = [⟨ticket, task.endsAt queue.host⟩])
      (abandoned : next.abandoned = if Command.timeoutBound ≤ task.timeout then
        queue.abandoned ++ [task] else queue.abandoned)
      (reports : next.reports = queue.reports ++ [⟨task.place, task.command,
        some task.grantedAt, (task.ending queue.host).1, task.endsAt queue.host, status⟩])

theorem enter_move {reached : Queue} {moment place : Nat} {request : ReadRequest}
    {command : Command} (permits : Permits queue)
    (comes : queue.agenda = (moment, .read place request) :: reached.agenda)
    (early : ∀ task ∈ queue.gathering, moment ≤ task.endsAt queue.host)
    (submits : Submits (seenAt queue.host moment) request command reached.host)
    (same : reached = { queue with agenda := reached.agenda, host := reached.host }) :
    Move queue (reached.enter ⟨place, command, request.timeout⟩) := by
  obtain ⟨agenda, closed, free, waiting, gathering, abandoned, reports, lastMoment, host⟩ := reached
  obtain ⟨rfl, rfl, rfl, rfl, rfl, rfl, rfl⟩ := by simpa using same
  unfold enter
  split
  · next shut =>
    exact .turnAway moment place request command host closedFault _ comes early
      (.late command host submits shut) rfl rfl rfl rfl rfl rfl
  · next opened =>
    rw [Bool.not_eq_true] at opened
    split
    · exact .join moment place request command host comes early submits opened rfl rfl
        (List.append_assoc _ _ _).symm (.inl rfl) rfl rfl
    · next available =>
      rw [not_or] at available
      obtain ⟨idle, nobody⟩ := permits.idle available.1
      -- The permit is free, so the read is alone and gets it at once.
      refine .join moment place request command host comes early submits opened rfl rfl ?_
        (.inr ⟨?_, ?_⟩) rfl rfl
      · simp [tickets, grant, idle, nobody]
      · simp [tickets, idle, nobody]
      · simp [grant, idle]

theorem finish_move {task : Gathering} (alone : queue.gathering = [task])
    (due : ∀ item ∈ queue.agenda.head?, task.endsAt queue.host ≤ item.1) :
    Move queue (queue.finish task []) := by
  cases waits : queue.waiting with
  | nil =>
    have passed : (queue.dismiss task []).release =
        { queue.dismiss task [] with free := queue.free + 1 } := by
      simp [release, dismiss, waits]
    rw [finish, passed]
    refine .finish task _ alone due rfl rfl rfl ?_ (.inl rfl) ?_ rfl
    · simp [tickets, report, dismiss, alone, waits]
    · simp only [report, dismiss]
  | cons first rest =>
    have passed : (queue.dismiss task []).release =
        { queue.dismiss task [] with
          free := queue.free, waiting := rest
          gathering := [⟨first, task.endsAt queue.host⟩] } := by
      simp [release, dismiss, waits, grant, Gathering.endsAt]
    rw [finish, passed]
    refine .finish task _ alone due rfl rfl rfl ?_ (.inr ⟨first, rfl⟩) ?_ rfl
    · simp [tickets, report, dismiss, alone, waits]
    · simp only [report, dismiss]

theorem arrive_move {moment : Nat} {arrival : Arrival} {rest : List (Nat × Arrival)}
    (permits : Permits queue) (comes : queue.agenda = (moment, arrival) :: rest)
    (early : ∀ task ∈ queue.gathering, moment ≤ task.endsAt queue.host) :
    Move queue (queue.arrive moment arrival rest) := by
  cases arrival with
  | close => exact .close moment comes early rfl rfl rfl rfl rfl rfl
  | read place request =>
    unfold arrive submit
    dsimp only
    split
    · next asked =>
      split
      · next fault begun refused =>
        exact .turnAway moment place request request.command begun fault _ comes early
          (.unstarted fault begun asked refused) rfl rfl rfl rfl rfl rfl
      · next command begun begins =>
        exact enter_move permits comes early (.started command begun asked begins) rfl
    · next kept =>
      exact enter_move permits comes early (.asItIs (by simpa using kept)) rfl

/-- Every step is one of the moves. -/
theorem step_moves (permits : Permits queue) (h : queue.step = some next) : Move queue next := by
  unfold step at h
  split at h
  · cases h
  · next none_works comes =>
    cases h
    exact arrive_move permits comes (by simp [firstToEnd_eq_none none_works])
  · next first empty =>
    obtain ⟨alone, rfl, -⟩ := permits.alone first
    cases h
    exact finish_move alone (by simp [empty])
  · next first comes =>
    obtain ⟨alone, rfl, -⟩ := permits.alone first
    split at h <;> cases h
    · next due => exact finish_move alone (by simpa [comes] using due)
    · next early =>
      refine arrive_move permits comes ?_
      simpa [alone] using Nat.le_of_lt (Nat.lt_of_not_le early)

/-! ## Runs -/

/-- One queue is reached from another by steps. -/
def Reaches : Queue → Queue → Prop :=
  Relation.ReflTransGen fun queue next => queue.step = some next

theorem workload_eq (queue : Queue) :
    queue.workload = 2 * queue.agenda.length + queue.tickets.length := by
  simp only [workload, tickets, List.length_append, List.length_map]
  omega

theorem workload_of_move (h : Move queue next) : next.workload < queue.workload := by
  rw [workload_eq, workload_eq]
  cases h with
  | close moment comes early host closed tickets => simp [comes, tickets]
  | turnAway moment place request command begun fault status comes early reason host closed
      tickets => simp [comes, tickets]
  | join moment place request command begun comes early submits opened host closed tickets =>
    simp [comes, tickets]
    omega
  | finish task status alone due host closed agenda tickets => simp [agenda, tickets]

/-- Nothing is left to happen once all that was to come has come and all reads have ended. -/
theorem Permits.finished (permits : Permits queue) (h : queue.step = none) :
    queue.agenda = [] ∧ queue.tickets = [] := by
  unfold step at h
  split at h
  · next none_works empty =>
    have nobody := firstToEnd_eq_none none_works
    have one := permits.one
    rw [nobody, List.length_nil] at one
    obtain ⟨-, idle⟩ := permits.idle (by omega)
    exact ⟨empty, by simp [tickets, nobody, idle]⟩
  · cases h
  · cases h
  · split at h <;> cases h

theorem runFor_reaches (steps : Nat) (queue : Queue) : Reaches queue (queue.runFor steps) := by
  induction steps generalizing queue with
  | zero => exact .refl
  | succ steps ih =>
    rw [runFor]
    split
    · exact .refl
    · next ends => exact .head ends (ih _)

/-- A run ends within its workload. -/
theorem runFor_ends {steps : Nat} (permits : Permits queue) (enough : queue.workload ≤ steps) :
    (queue.runFor steps).step = none := by
  induction steps generalizing queue with
  | zero =>
    rw [runFor]
    cases ends : queue.step with
    | none => rfl
    | some next =>
      have less := workload_of_move (step_moves permits ends)
      omega
  | succ steps ih =>
    rw [runFor]
    split
    · assumption
    · next ends =>
      have less := workload_of_move (step_moves permits ends)
      exact ih (step_permits permits ends) (by omega)

end TestBench.Queue
