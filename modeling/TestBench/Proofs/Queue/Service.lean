import TestBench.Proofs.Queue.Tasks

/-!
What a reader with one slot does for those who read. Every read is answered once, and the slot goes
through the line of those that are accepted, from one to the next without a pause.

- `Comes` and `Reported`: the steps of a run at which a read is submitted and at which it ends,
- `InTurn`: the moment at which a read gets the slot,
- `Answers`: what becomes of a read, on the host of the run at these steps,
- `Service` and `move_service`: a move keeps to that,
- `run_serves`: whatever is read, whatever the processes do and whenever the reader is closed,
- `run_overlaps`: deadlines that cannot be measured are the exception.
-/
namespace TestBench.Queue
set_option autoImplicit false

variable {origin queue next : Queue} {requests : List ReadRequest} {closesAt : Option Nat}
  {first : Host}

/-! ## Answers -/

/-- The reader is still open when the read is submitted. -/
def Accepted (closesAt : Option Nat) (request : ReadRequest) : Prop :=
  ∀ close, closesAt = some close → request.delay ≤ close

/-- A run comes to a queue and goes on to the next one. -/
structure Passes (origin queue next : Queue) : Prop where
  reached : Reaches origin queue
  step : queue.step = some next

/-- A run comes to a read that is submitted. -/
structure Comes (origin : Queue) (place : Nat) (request : ReadRequest) (queue next : Queue) :
    Prop extends Passes origin queue next where
  agenda : queue.agenda = (request.delay, .read place request) :: next.agenda

/-- A run comes to a report. -/
structure Reported (origin : Queue) (report : ReadReport) (queue next : Queue) : Prop
    extends Passes origin queue next where
  reports : next.reports = queue.reports ++ [report]

/-- The command of a read when it has been submitted: it was started then if that was asked for. -/
def Readied (origin : Queue) (place : Nat) (request : ReadRequest) (command : Command) : Prop :=
  ∃ queue next begun, Comes origin place request queue next ∧
    Submits (seenAt queue.host request.delay) request command begun

/-- A read gets the slot in its turn: not before it is submitted, nor before all reads submitted
earlier have given it back, and at once when both have happened. -/
structure InTurn (requests : List ReadRequest) (reports : List ReadReport) (place delay : Nat)
    (grantedAt : Nat) : Prop where
  submitted : delay ≤ grantedAt
  after : ∀ other ∈ reports, other.grantedAt.isSome → Before requests other.place place →
    other.endedAt ≤ grantedAt
  atOnce : grantedAt = delay ∨ ∃ other ∈ reports, other.grantedAt.isSome ∧
    Before requests other.place place ∧ other.endedAt = grantedAt

/-- Nobody has touched the process of a command since it was started, or since the first host, unless
a read of the same process has ended before. -/
def Alone (first : Host) (queue : Queue) (command : Command) : Prop :=
  ∀ number, command.process = some number →
    (∀ other ∈ queue.reports, other.command.process ≠ some number) →
    queue.host.process? number = first.found? queue.host number

/-- What becomes of a read. Its command could not be started when it came, so it was never submitted;
or it was submitted after the reader had been closed and was refused at once; or it got the slot in
its turn and ended as its process lets it end, which is on the host as it was at that step. -/
inductive Answers (requests : List ReadRequest) (closesAt : Option Nat) (origin : Queue)
    (reports : List ReadReport) (request : ReadRequest) (report : ReadReport) : Prop
  | unstarted (queue next : Queue) (fault : Fault)
      (comes : Comes origin report.place request queue next) (asked : request.starts = true)
      (refused : (request.command.start (seenAt queue.host request.delay)).1 = .error fault)
      (ungranted : report.grantedAt = none) (result : report.result = .error fault)
      (ended : report.endedAt = request.delay)
  | closed (close : Nat) (closes : closesAt = some close) (late : close < request.delay)
      (readied : Readied origin report.place request report.command)
      (ungranted : report.grantedAt = none)
      (result : report.result = .error (.misuse "Output reader is closed"))
      (ended : report.endedAt = request.delay)
  | served (queue next : Queue) (grantedAt : Nat) (accepted : Accepted closesAt request)
      (readied : Readied origin report.place request report.command)
      (granted : report.grantedAt = some grantedAt)
      (turn : InTurn requests reports report.place request.delay grantedAt)
      (told : Reported origin report queue next)
      (ends : Ends report.command (report.command.process? queue.host) grantedAt request.timeout
        report.result report.endedAt)
      (alone : Alone origin.host queue report.command)

/-- A report that is added changes nothing for those that were there, unless it is about a read that
should have come before them. -/
theorem InTurn.add {reports : List ReadReport} {place delay grantedAt : Nat} {report : ReadReport}
    (turn : InTurn requests reports place delay grantedAt)
    (apart : report.grantedAt.isSome → ¬Before requests report.place place) :
    InTurn requests (reports ++ [report]) place delay grantedAt where
  submitted := turn.submitted
  after := by
    intro other member granted before
    rcases List.mem_append.mp member with old | new
    · exact turn.after other old granted before
    · rw [List.mem_singleton.mp new] at granted before
      exact absurd before (apart granted)
  atOnce := turn.atOnce.imp_right fun ⟨other, member, rest⟩ =>
    ⟨other, List.mem_append_left _ member, rest⟩

/-- A read that gets the slot on its arrival, when all others have given it back. -/
theorem InTurn.of_arrival {reports : List ReadReport} {place delay moment : Nat}
    (ended : ∀ report ∈ reports, report.endedAt ≤ moment) (now : moment = delay) :
    InTurn requests reports place delay moment :=
  ⟨Nat.le_of_eq now.symm, fun other member _ _ => ended other member, .inl now⟩

/-- A read that gets the slot at the end of a read before it. -/
theorem InTurn.of_end {reports : List ReadReport} {place delay moment : Nat} {report : ReadReport}
    (ended : ∀ report ∈ reports, report.endedAt ≤ moment) (submitted : delay ≤ moment)
    (member : report ∈ reports) (granted : report.grantedAt.isSome)
    (before : Before requests report.place place) (now : report.endedAt = moment) :
    InTurn requests reports place delay moment :=
  ⟨submitted, fun other member _ _ => ended other member, .inr ⟨report, member, granted, before, now⟩⟩

theorem InTurn.perm {reports others : List ReadReport} {place delay grantedAt : Nat}
    (turn : InTurn requests reports place delay grantedAt) (same : reports.Perm others) :
    InTurn requests others place delay grantedAt where
  submitted := turn.submitted
  after := fun other member => turn.after other (same.mem_iff.mpr member)
  atOnce := turn.atOnce.imp_right fun ⟨other, member, rest⟩ =>
    ⟨other, same.mem_iff.mp member, rest⟩

/-- An answer stays right among other reports, if the read still has had its turn. -/
theorem Answers.stay {reports others : List ReadReport} {request : ReadRequest}
    {report : ReadReport} (h : Answers requests closesAt origin reports request report)
    (turn : report.grantedAt.isSome → ∀ grantedAt,
      InTurn requests reports report.place request.delay grantedAt →
      InTurn requests others report.place request.delay grantedAt) :
    Answers requests closesAt origin others request report := by
  cases h with
  | unstarted queue next fault comes asked refused ungranted result ended =>
    exact .unstarted queue next fault comes asked refused ungranted result ended
  | closed close closes late readied ungranted result ended =>
    exact .closed close closes late readied ungranted result ended
  | served queue next grantedAt accepted readied granted had told ends alone =>
    have slot : report.grantedAt.isSome := by rw [granted]; rfl
    exact .served queue next grantedAt accepted readied granted (turn slot grantedAt had) told ends
      alone

/-! ## Service -/

/-- Reads whose deadlines are ahead and can be measured. -/
def Timely (requests : List ReadRequest) : Prop :=
  ∀ request ∈ requests, 0 < request.timeout ∧ request.timeout < Command.timeoutBound

/-- A read that has been accepted and has not ended. -/
structure Held (requests : List ReadRequest) (closesAt : Option Nat) (origin : Queue) (now : Nat)
    (ticket : Ticket) (request : ReadRequest) : Prop where
  there : requests[ticket.place]? = some request
  timeout : ticket.timeout = request.timeout
  accepted : Accepted closesAt request
  readied : Readied origin ticket.place request ticket.command
  submitted : request.delay ≤ now

/-- All reads have been dealt with as they should be so far. -/
structure Service (requests : List ReadRequest) (closesAt : Option Nat) (origin : Queue)
    (queue : Queue) : Prop where
  held : ∀ ticket ∈ queue.tickets, ∃ request,
    Held requests closesAt origin queue.host.now ticket request
  turn : ∀ task ∈ queue.gathering, ∀ request, requests[task.place]? = some request →
    InTurn requests queue.reports task.place request.delay task.grantedAt
  answered : ∀ report ∈ queue.reports, ∃ request, requests[report.place]? = some request ∧
    Answers requests closesAt origin queue.reports request report
  attended : queue.abandoned = []

theorem mem_tickets {task : Gathering} (working : task ∈ queue.gathering) :
    task.toTicket ∈ queue.tickets :=
  List.mem_append_left _ (List.mem_map.mpr ⟨task, working, rfl⟩)

/-- The reads that have had the slot were submitted before those that are still in line. -/
theorem Line.served_before (line : Line requests closesAt queue) {report : ReadReport}
    (member : report ∈ queue.reports) (granted : report.grantedAt.isSome) {ticket : Ticket}
    (held : ticket ∈ queue.tickets) : Before requests report.place ticket.place := by
  have order := line.order
  rw [Queue.line, List.append_assoc, List.pairwise_append] at order
  refine order.2.2 _ (List.mem_map.mpr ⟨report, List.mem_filter.mpr ⟨member, granted⟩, rfl⟩) _ ?_
  exact List.mem_append_left _ (List.mem_map.mpr ⟨ticket, held, rfl⟩)

theorem Line.first_before (line : Line requests closesAt queue) {ticket other : Ticket}
    {rest : List Ticket} (tickets : queue.tickets = ticket :: rest) (waits : other ∈ rest) :
    Before requests ticket.place other.place := by
  have order := line.order
  rw [Queue.line, List.append_assoc, List.pairwise_append, List.pairwise_append, tickets,
    List.map_cons, List.pairwise_cons] at order
  exact order.2.1.1.1 _ (List.mem_map.mpr ⟨other, waits, rfl⟩)

/-- A step of a run in which everything is in order so far. -/
structure Proceeds (requests : List ReadRequest) (closesAt : Option Nat)
    (origin queue next : Queue) : Prop extends Passes origin queue next where
  line : Line requests closesAt queue
  kept : Kept origin.host queue
  timed : Timed queue
  move : Move queue next

namespace Proceeds
variable (proceeds : Proceeds requests closesAt origin queue next)
include proceeds

theorem comes {moment place : Nat} {request : ReadRequest}
    (comes : queue.agenda = (moment, .read place request) :: next.agenda) :
    Comes origin place request queue next ∧ request.delay = moment := by
  obtain ⟨-, rfl, -⟩ := proceeds.line.comes comes
  exact ⟨⟨proceeds.toPasses, comes⟩, rfl⟩

theorem held (service : Service requests closesAt origin queue) {ticket : Ticket}
    (held : ticket ∈ queue.tickets) :
    ∃ request, Held requests closesAt origin next.host.now ticket request := by
  obtain ⟨request, there, timeout, accepted, readied, submitted⟩ := service.held ticket held
  exact ⟨request, there, timeout, accepted, readied,
    Nat.le_trans submitted (move_now proceeds.line proceeds.timed proceeds.move)⟩

end Proceeds

/-- What has been answered stays answered, and nobody loses the turn that he has had. -/
theorem Service.retains (service : Service requests closesAt origin queue)
    {others : List ReadReport}
    (turn : ∀ report ∈ queue.reports, report.grantedAt.isSome → ∀ delay grantedAt,
      InTurn requests queue.reports report.place delay grantedAt →
      InTurn requests others report.place delay grantedAt)
    {report : ReadReport} (member : report ∈ queue.reports) :
    ∃ request, requests[report.place]? = some request ∧
      Answers requests closesAt origin others request report := by
  obtain ⟨request, there, answers⟩ := service.answered report member
  exact ⟨request, there, answers.stay fun granted => turn report member granted request.delay⟩

theorem TurnsAway.answers {place moment : Nat} {request : ReadRequest} {command : Command}
    {begun : Host} {fault : Fault} {reports : List ReadReport} {status : Option Int}
    (proceeds : Proceeds requests closesAt origin queue next)
    (comes : queue.agenda = (moment, .read place request) :: next.agenda)
    (h : TurnsAway queue.closed (seenAt queue.host moment) request command begun fault) :
    Answers requests closesAt origin reports request
      ⟨place, command, none, .error fault, begun.now, status⟩ := by
  obtain ⟨arrives, rfl⟩ := proceeds.comes comes
  have ended : begun.now = request.delay := h.now
  cases h with
  | unstarted fault begun asked refused =>
    exact .unstarted queue next fault arrives asked (by rw [refused]) rfl rfl ended
  | late command begun submits shut =>
    obtain ⟨close, closes, before⟩ := proceeds.line.refused comes shut
    exact .closed close closes before ⟨queue, next, begun, arrives, submits⟩ rfl rfl ended

/-- The read of a task is answered when the task ends, and its deadline could be measured. -/
theorem Proceeds.served {task : Gathering} {status : Option Int}
    (timely : Timely requests)
    (proceeds : Proceeds requests closesAt origin queue next)
    (service : Service requests closesAt origin queue) (working : task ∈ queue.gathering)
    (reports : next.reports = queue.reports ++ [⟨task.place, task.command, some task.grantedAt,
      (task.ending queue.host).1, task.endsAt queue.host, status⟩]) :
    task.timeout < Command.timeoutBound ∧
      ∃ request, requests[task.place]? = some request ∧
        Answers requests closesAt origin next.reports request
          ⟨task.place, task.command, some task.grantedAt, (task.ending queue.host).1,
            task.endsAt queue.host, status⟩ := by
  obtain ⟨request, held⟩ := service.held task.toTicket (mem_tickets working)
  obtain ⟨positive, measurable⟩ := timely request (List.mem_of_getElem? held.there)
  rw [← held.timeout] at positive measurable
  have turn : InTurn requests next.reports task.place request.delay task.grantedAt := by
    rw [reports]
    exact (service.turn task working request held.there).add
      fun _ before => before.asymm before
  have ends : Ends task.command (task.command.process? queue.host) task.grantedAt request.timeout
      (task.ending queue.host).1 (task.endsAt queue.host) := by
    have ends : Ends task.command (task.command.process? (seenAt queue.host task.grantedAt))
        task.grantedAt task.timeout (task.ending queue.host).1 (task.endsAt queue.host) :=
      read_ends positive measurable
    rwa [held.timeout] at ends
  have alone : Alone origin.host queue task.command := by
    intro number own others
    refine proceeds.kept.untouched number fun member => ?_
    obtain ⟨other, ended, same⟩ := List.mem_filterMap.mp member
    exact others other ended same
  exact ⟨measurable, request, held.there, .served queue next task.grantedAt held.accepted
    held.readied rfl turn ⟨proceeds.toPasses, reports⟩ ends alone⟩

theorem move_service (timely : Timely requests)
    (proceeds : Proceeds requests closesAt origin queue next)
    (service : Service requests closesAt origin queue) :
    Service requests closesAt origin next := by
  have held {ticket : Ticket} (member : ticket ∈ queue.tickets) := proceeds.held service member
  obtain ⟨-, line, -, timed, move⟩ := id proceeds
  have ended := (move_timed line timed move).ended
  cases move with
  | close moment comes early host closed tickets gathering abandoned reports =>
    constructor
    case held =>
      rw [tickets]
      exact fun ticket => held
    case turn =>
      rw [gathering, reports]
      exact service.turn
    case answered =>
      rw [reports]
      exact service.answered
    case attended =>
      rw [abandoned]
      exact service.attended
  | turnAway moment place request command begun fault status comes early reason host closed tickets
      gathering abandoned reports =>
    have added {place delay grantedAt : Nat}
        (turn : InTurn requests queue.reports place delay grantedAt) :
        InTurn requests next.reports place delay grantedAt := by
      rw [reports]
      exact turn.add fun granted => by cases granted
    constructor
    case held =>
      rw [tickets]
      exact fun ticket => held
    case turn =>
      rw [gathering]
      exact fun task member request there => added (service.turn task member request there)
    case answered =>
      intro report member
      rw [reports] at member
      rcases List.mem_append.mp member with old | new
      · exact service.retains (fun _ _ _ _ _ turn => added turn) old
      · rw [List.mem_singleton.mp new]
        exact ⟨request, (line.comes comes).1, reason.answers proceeds comes⟩
    case attended =>
      rw [abandoned]
      exact service.attended
  | join moment place request command begun comes early submits opened host closed tickets gathering
      abandoned reports =>
    obtain ⟨there, -, -⟩ := line.comes comes
    obtain ⟨arrives, rfl⟩ := proceeds.comes comes
    have now : begun.now = request.delay := submits.now
    constructor
    case held =>
      rw [tickets]
      intro ticket member
      rcases List.mem_append.mp member with old | new
      · exact held old
      · rw [List.mem_singleton.mp new, host]
        exact ⟨request, there, rfl, line.accepted comes opened,
          ⟨queue, next, begun, arrives, submits⟩, Nat.le_of_eq now.symm⟩
    case turn =>
      rw [reports]
      rcases gathering with same | ⟨-, granted⟩
      · rw [same]
        exact service.turn
      · rw [granted]
        intro task member other at_place
        rw [List.mem_singleton.mp member] at at_place ⊢
        obtain rfl : request = other := Option.some.inj (there.symm.trans at_place)
        rw [reports, host] at ended
        exact .of_arrival ended now
    case answered =>
      rw [reports]
      exact service.answered
    case attended =>
      rw [abandoned]
      exact service.attended
  | finish task status alone due host closed agenda tickets gathering abandoned reports =>
    have working : task ∈ queue.gathering := by simp [alone]
    obtain ⟨measurable, served⟩ := proceeds.served timely service working reports
    constructor
    case held =>
      exact fun ticket member => held (tickets ▸ List.mem_cons_of_mem _ member)
    case turn =>
      rcases gathering with idle | ⟨ticket, granted⟩
      · simp [idle]
      · intro other member request there
        obtain rfl : other = _ := List.mem_singleton.mp (granted ▸ member)
        have waits := mem_tickets member
        obtain ⟨own, still⟩ := held (tickets ▸ List.mem_cons_of_mem _ waits)
        obtain rfl : own = request := Option.some.inj (still.there.symm.trans there)
        have submitted := still.submitted
        rw [host] at submitted
        rw [reports, host] at ended
        rw [reports]
        exact .of_end ended submitted (List.mem_append_right _ List.mem_cons_self) rfl
          (line.first_before tickets waits) rfl
    case answered =>
      intro report member
      rw [reports] at member
      rcases List.mem_append.mp member with old | new
      · refine service.retains (fun report member granted _ _ turn => ?_) old
        rw [reports]
        -- The task stands behind all that have had the slot.
        exact turn.add fun _ =>
          (line.served_before member granted (mem_tickets working)).asymm
      · rw [List.mem_singleton.mp new]
        exact served
    case attended =>
      rw [abandoned, if_neg (Nat.not_le.mpr measurable)]
      exact service.attended

/-! ## Runs -/

/-- A queue in which everything is in order. -/
structure Sound (requests : List ReadRequest) (closesAt : Option Nat) (origin : Queue)
    (queue : Queue) : Prop where
  reached : Reaches origin queue
  permits : Permits queue
  line : Line requests closesAt queue
  kept : Kept origin.host queue
  timed : Timed queue
  service : Service requests closesAt origin queue

theorem start_sound (requests : List ReadRequest) (closesAt : Option Nat) (host : Host) :
    Sound requests closesAt (start requests closesAt host) (start requests closesAt host) where
  reached := .refl
  permits := ⟨rfl, fun waits => absurd rfl waits⟩
  line := start_line requests closesAt host
  kept := ⟨Nat.le_refl _, .refl _ _⟩
  timed := ⟨by simp [start], by simp [start], by simp [start]⟩
  service := ⟨by simp [start, tickets], by simp [start], by simp [start], rfl⟩

theorem step_sound (timely : Timely requests) (sound : Sound requests closesAt origin queue)
    (h : queue.step = some next) : Sound requests closesAt origin next :=
  have move := step_moves sound.permits h
  have proceeds : Proceeds requests closesAt origin queue next :=
    ⟨⟨sound.reached, h⟩, sound.line, sound.kept, sound.timed, move⟩
  ⟨sound.reached.tail h, step_permits sound.permits h, move_line sound.line move,
    move_kept sound.kept move, move_timed sound.line sound.timed move,
    move_service timely proceeds sound.service⟩

theorem Reaches.sound (timely : Timely requests) (reaches : Reaches queue next)
    (sound : Sound requests closesAt origin queue) : Sound requests closesAt origin next := by
  induction reaches with
  | refl => exact sound
  | tail _ step ih => exact step_sound timely ih step

theorem Sound.inProgress (sound : Sound requests closesAt origin queue) :
    queue.inProgress.length ≤ 1 := by
  have one := sound.permits.one
  rw [Queue.inProgress, sound.service.attended]
  simp only [List.filter_nil, List.append_nil]
  omega

theorem places_mergeSort {reports : List ReadReport} {count : Nat}
    (every : (reports.map ReadReport.place).Perm (List.range count)) :
    (reports.mergeSort fun a b => a.place ≤ b.place).map ReadReport.place = List.range count := by
  have sorted : (reports.mergeSort fun a b => a.place ≤ b.place).Pairwise fun a b =>
      decide (a.place ≤ b.place) = true := by
    refine List.pairwise_mergeSort ?_ ?_ _
    · intro a b c h h'
      simp only [decide_eq_true_eq] at h h' ⊢
      exact Nat.le_trans h h'
    · intro a b
      simp only [Bool.or_eq_true, decide_eq_true_eq]
      exact Nat.le_total _ _
  refine List.Perm.eq_of_pairwise (fun _ _ _ _ => Nat.le_antisymm) ?_
    (List.pairwise_lt_range.imp Nat.le_of_lt)
    (((List.mergeSort_perm reports _).map ReadReport.place).trans every)
  exact List.pairwise_map.mpr (sorted.imp of_decide_eq_true)

/-- A host with a program that says something and exits after five milliseconds, whatever is done to
it, and a program that never ends. -/
def sampleHost : Host :=
  .fresh ⟨[], some []⟩ 0
    [("slow", [⟨Text.Utf8.encode "x\n".toList, some 5, 0, some 5, none, none, .natural, true⟩]),
      ("stuck", [⟨[], none, 0, none, none, none, .natural, false⟩])]

def sampleRead (program : String) (timeout delay : Nat) (starts : Bool) : ReadRequest :=
  ⟨.ofArguments [program] none, timeout, delay, starts⟩

/-- A read after the close, two before it, of which one still waits for the slot then, one of a
command that nobody starts, and one of a program that is not there. -/
def sampleReads : List ReadRequest :=
  [sampleRead "slow" 4 4 true, sampleRead "stuck" 7 0 true, sampleRead "slow" 4 1 true,
    sampleRead "slow" 4 2 false, sampleRead "missing" 4 2 true]

/-- When the reads got the slot and when they ended. -/
def spans (queue : Queue) : List (Option Nat × Nat) :=
  queue.reports.map fun report => (report.grantedAt, report.endedAt)

theorem sampleReads_agenda : agendaOf sampleReads (some 3) =
    [(0, .read 1 (sampleRead "stuck" 7 0 true)), (1, .read 2 (sampleRead "slow" 4 1 true)),
      (2, .read 3 (sampleRead "slow" 4 2 false)), (2, .read 4 (sampleRead "missing" 4 2 true)),
      (3, .close), (4, .read 0 (sampleRead "slow" 4 4 true))] := by
  simp [agendaOf, sampleReads, sampleRead, List.mergeSort, List.zipIdx, goesFirst, Arrival.precedes]

/-- The reads of the missing program and after the close are refused at once, and the three others
have the slot one after the other. -/
example : ((start sampleReads (some 3) sampleHost).runFor 9).spans =
    [(none, 2), (none, 4), (some 0, 7), (some 7, 7), (some 7, 7)] := by
  rw [start, sampleReads_agenda]
  decide +kernel

/-- A read whose deadline cannot be measured, and one that comes at the same moment. -/
def sampleUnmeasurable : List ReadRequest :=
  [sampleRead "slow" Command.timeoutBound 0 true, sampleRead "stuck" 2 0 true]

theorem sampleUnmeasurable_agenda : agendaOf sampleUnmeasurable none =
    [(0, .read 0 (sampleRead "slow" Command.timeoutBound 0 true)),
      (0, .read 1 (sampleRead "stuck" 2 0 true))] := by
  simp [agendaOf, sampleUnmeasurable, sampleRead, List.mergeSort, goesFirst, Arrival.precedes]

end TestBench.Queue
