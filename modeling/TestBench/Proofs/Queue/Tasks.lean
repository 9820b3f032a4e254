import TestBench.Proofs.Queue.Line

/-!
The tasks of a reader. Others start and kill processes while a task is at work, but the task does not
end before its time, and a process that no report is about has not been touched.

- `Kept` and `move_kept`: the processes that are as they were when they were started,
- `Submits.persists` and `terminate_persists`: what comes from outside takes no process away,
- `Timed` and `move_timed`: the clock is never behind a report or ahead of the end of a task.
-/
namespace TestBench.Queue
set_option autoImplicit false

variable {queue next : Queue} {first : Host}

/-! ## Processes -/

/-- The processes of the reads that have ended. -/
def endedProcesses (queue : Queue) : List Nat :=
  queue.reports.filterMap fun report => report.command.process

/-- On a host that has more processes than the first one, those of the reads that have ended may have
been touched. -/
structure Kept (first : Host) (queue : Queue) : Prop where
  grown : first.processes.length ≤ queue.host.processes.length
  untouched : Untouched first queue.host queue.endedProcesses

theorem Submits.untouched {host begun : Host} {request : ReadRequest} {command : Command}
    {killed : List Nat} (grown : first.processes.length ≤ host.processes.length)
    (h : Submits host request command begun) (untouched : Untouched first host killed) :
    first.processes.length ≤ begun.processes.length ∧ Untouched first begun killed := by
  cases h with
  | asItIs => exact ⟨grown, untouched⟩
  | started command begun asked begins =>
    refine ⟨?_, untouched.start grown begins⟩
    obtain ⟨-, -, -, behaviour, processes⟩ := Command.start_ok begins
    rw [processes, List.length_append]
    exact Nat.le_trans grown (Nat.le_add_right _ _)

theorem TurnsAway.untouched {closed : Bool} {host begun : Host} {request : ReadRequest}
    {command : Command} {fault : Fault} {killed : List Nat}
    (grown : first.processes.length ≤ host.processes.length)
    (h : TurnsAway closed host request command begun fault)
    (untouched : Untouched first host killed) :
    first.processes.length ≤ begun.processes.length ∧ Untouched first begun killed := by
  cases h with
  | unstarted fault begun asked refused =>
    have same := (Command.start_error refused).1
    exact ⟨same ▸ grown, untouched.of_eq same⟩
  | late command begun submits => exact submits.untouched grown untouched

/-- A command is terminated, and its report is added. -/
theorem kept_report {report : ReadReport} {host : Host} (moment : Nat)
    (grown : first.processes.length ≤ host.processes.length)
    (untouched : Untouched first host queue.endedProcesses)
    (ended : next.host = seenAt (report.command.terminate host).2 moment)
    (reports : next.reports = queue.reports ++ [report]) : Kept first next := by
  have more : next.endedProcesses = queue.endedProcesses ++ report.command.process.toList := by
    rw [endedProcesses, reports, List.filterMap_append]
    cases own : report.command.process <;> simp [endedProcesses, own]
  constructor
  · rw [ended, seenAt, Command.terminate_length]
    exact grown
  · rw [ended, more]
    exact untouched.terminate.of_eq rfl

theorem move_kept (kept : Kept first queue) (h : Move queue next) : Kept first next := by
  cases h with
  | close moment comes early host closed tickets gathering abandoned reports =>
    constructor
    · rw [host]
      exact kept.grown
    · rw [host, endedProcesses, reports]
      exact kept.untouched.of_eq rfl
  | turnAway moment place request command begun fault status comes early reason host closed tickets
      gathering abandoned reports =>
    have untouched : Untouched first (seenAt queue.host moment) _ := kept.untouched.of_eq rfl
    have grown : first.processes.length ≤ (seenAt queue.host moment).processes.length := kept.grown
    obtain ⟨grown, untouched⟩ := reason.untouched grown untouched
    exact kept_report begun.now grown untouched host reports
  | join moment place request command begun comes early submits opened host closed tickets gathering
      abandoned reports =>
    have untouched : Untouched first (seenAt queue.host moment) _ := kept.untouched.of_eq rfl
    have grown : first.processes.length ≤ (seenAt queue.host moment).processes.length := kept.grown
    obtain ⟨grown, untouched⟩ := submits.untouched grown untouched
    constructor
    · rw [host]
      exact grown
    · rw [host, endedProcesses, reports]
      exact untouched
  | finish task status alone due host closed agenda tickets gathering abandoned reports =>
    obtain ⟨moment, waited⟩ := task.command.read_waits task.timeout
      (seenAt queue.host task.grantedAt)
    have processes : (task.ending queue.host).2.processes = queue.host.processes := by
      rw [Gathering.ending, waited]
      rfl
    exact kept_report (task.endsAt queue.host) (processes ▸ kept.grown)
      (kept.untouched.of_eq processes) host reports

/-! ## Time -/

theorem Submits.persists {host begun : Host} {request : ReadRequest} {command : Command}
    (h : Submits host request command begun) (number : Nat) (process : Process)
    (found : host.process? number = some process) : begun.process? number = some process := by
  cases h with
  | asItIs => exact found
  | started command begun asked begins =>
    obtain ⟨-, -, -, behaviour, processes⟩ := Command.start_ok begins
    rw [Host.process?] at found ⊢
    rw [processes]
    exact (List.getElem?_append_left (List.getElem?_eq_some_iff.mp found).1).trans found

theorem TurnsAway.persists {closed : Bool} {host begun : Host} {request : ReadRequest}
    {command : Command} {fault : Fault} (h : TurnsAway closed host request command begun fault)
    (number : Nat) (process : Process) (found : host.process? number = some process) :
    begun.process? number = some process := by
  cases h with
  | unstarted fault begun asked refused =>
    rwa [Host.process?, (Command.start_error refused).1]
  | late command begun submits => exact submits.persists number process found

/-- A command that is terminated takes no process away. -/
theorem terminate_persists {command : Command} {host begun : Host} (moment : Nat)
    (same : ∀ number process, host.process? number = some process →
      begun.process? number = some process) :
    Persist begun.now host (seenAt (command.terminate begun).2 moment) := by
  intro number process found
  have there := same number process found
  by_cases own : command.process = some number
  · rcases command.terminate_processes begun with kept | ⟨other, process, killed⟩
    · refine .inl ?_
      rw [← there, Host.process?, seenAt, kept, Host.process?]
    · obtain rfl : other = number := Option.some.inj (process.symm.trans own)
      refine .inr ?_
      rw [Host.process?] at there
      simp [Host.process?, seenAt, killed, Host.withKilled, there]
  · exact .inl ((Command.terminate_process? own).trans there)

/-- The clock is never behind a report, and never ahead of the end of a task. -/
structure Timed (queue : Queue) : Prop where
  ended : ∀ report ∈ queue.reports, report.endedAt ≤ queue.host.now
  granted : ∀ task ∈ queue.gathering, task.grantedAt ≤ queue.host.now
  ahead : ∀ task ∈ queue.gathering, queue.host.now ≤ task.endsAt queue.host

theorem move_now {requests : List ReadRequest} {closesAt : Option Nat}
    (line : Line requests closesAt queue) (timed : Timed queue) (h : Move queue next) :
    queue.host.now ≤ next.host.now := by
  have ahead {moment : Nat} {arrival : Arrival} {rest : List (Nat × Arrival)}
      (comes : queue.agenda = (moment, arrival) :: rest) : queue.host.now ≤ moment :=
    line.ahead (moment, arrival) (by simp [comes])
  cases h with
  | close moment comes early host => exact host ▸ ahead comes
  | turnAway moment place request command begun fault status comes early reason host =>
    rw [host, seenAt, reason.now]
    exact ahead comes
  | join moment place request command begun comes early submits opened host =>
    rw [host, submits.now]
    exact ahead comes
  | finish task status alone due host => exact host ▸ timed.ahead task (by simp [alone])

/-- A task that begins now has its end before it. -/
theorem begins_now {ticket : Ticket} (granted : queue.gathering = [⟨ticket, queue.host.now⟩]) :
    ∀ task ∈ queue.gathering, task.grantedAt ≤ queue.host.now ∧
      queue.host.now ≤ task.endsAt queue.host := by
  intro task member
  rw [granted] at member
  rw [List.mem_singleton.mp member]
  exact ⟨Nat.le_refl _, le_read_now ticket.command ticket.timeout (seenAt _ queue.host.now)⟩

theorem move_timed {requests : List ReadRequest} {closesAt : Option Nat}
    (line : Line requests closesAt queue) (timed : Timed queue)
    (h : Move queue next) : Timed next := by
  have later := move_now line timed h
  have old : ∀ report ∈ queue.reports, report.endedAt ≤ next.host.now :=
    fun report member => Nat.le_trans (timed.ended report member) later
  have with_one {report : ReadReport} (reports : next.reports = queue.reports ++ [report])
      (now : report.endedAt = next.host.now) :
      ∀ other ∈ next.reports, other.endedAt ≤ next.host.now := by
    intro other member
    rw [reports] at member
    rcases List.mem_append.mp member with before | new
    · exact old other before
    · rw [List.mem_singleton.mp new]
      exact Nat.le_of_eq now
  have granted : ∀ task ∈ queue.gathering, task.grantedAt ≤ next.host.now :=
    fun task member => Nat.le_trans (timed.granted task member) later
  -- What comes from outside at a moment does not move the end of a task before that moment.
  have ahead {moment : Nat} (early : ∀ task ∈ queue.gathering, moment ≤ task.endsAt queue.host)
      (persist : Persist moment queue.host next.host) (now : next.host.now = moment)
      (same : next.gathering = queue.gathering) :
      ∀ task ∈ next.gathering, next.host.now ≤ task.endsAt next.host := by
    intro task member
    have persist : Persist moment (seenAt queue.host task.grantedAt)
        (seenAt next.host task.grantedAt) := persist
    rw [now]
    exact read_persist persist rfl (early task (same ▸ member))
  cases h with
  | close moment comes early host closed tickets gathering abandoned reports =>
    have persist : Persist moment queue.host next.host := .of_eq (by rw [host]; rfl)
    exact ⟨reports ▸ old, gathering ▸ granted, ahead early persist (by rw [host]; rfl) gathering⟩
  | turnAway moment place request command begun fault status comes early reason host closed tickets
      gathering abandoned reports =>
    have now : begun.now = moment := reason.now
    have persist : Persist begun.now queue.host next.host :=
      host ▸ terminate_persists begun.now reason.persists
    exact ⟨with_one reports (by rw [host]; rfl), gathering ▸ granted,
      ahead early (now ▸ persist) (by rw [host]; exact now) gathering⟩
  | join moment place request command begun comes early submits opened host closed tickets gathering
      abandoned reports =>
    rcases gathering with same | ⟨-, new⟩
    · have persist : Persist moment queue.host next.host :=
        fun number process found => .inl (host ▸ submits.persists number process found)
      exact ⟨reports ▸ old, same ▸ granted,
        ahead early persist (by rw [host]; exact submits.now) same⟩
    · rw [← host] at new
      exact ⟨reports ▸ old, fun task member => (begins_now new task member).1,
        fun task member => (begins_now new task member).2⟩
  | finish task status alone due host closed agenda tickets gathering abandoned reports =>
    have now : task.endsAt queue.host = next.host.now := by
      rw [host]
      rfl
    have ended := with_one reports now
    rcases gathering with idle | ⟨ticket, new⟩
    · exact ⟨ended, by simp [idle], by simp [idle]⟩
    · rw [now] at new
      exact ⟨ended, fun task member => (begins_now new task member).1,
        fun task member => (begins_now new task member).2⟩

end TestBench.Queue
