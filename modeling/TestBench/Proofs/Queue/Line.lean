import TestBench.Proofs.Queue.Moves

/-!
The line of a reader. Reads stand in it in the order of their submission, and each leaves it with
one report.

- `Before`: the order of submission,
- `agendaOf_sorted`, `agendaOf_places` and `agendaOf_before`: what comes from outside, in order,
- `Line`: where the reads are that have been accepted, ended or are still to come,
- `move_line`: a move keeps the line in order,
- `Line.accepted` and `Line.refused`: which reads find the reader closed.
-/
namespace TestBench.Queue
set_option autoImplicit false

variable {queue next : Queue} {requests : List ReadRequest} {closesAt : Option Nat}

/-! ## Submission -/

/-- One read is submitted before another: at an earlier moment, or at the same one and earlier in the
list of requests. -/
def Before (requests : List ReadRequest) (first second : Nat) : Prop :=
  ∃ earlier later : ReadRequest, requests[first]? = some earlier ∧
    requests[second]? = some later ∧
    (earlier.delay < later.delay ∨ earlier.delay = later.delay ∧ first < second)

theorem Before.asymm {first second : Nat} (h : Before requests first second) :
    ¬Before requests second first := by
  obtain ⟨a, b, at_first, at_second, before⟩ := h
  rintro ⟨b', a', at_second', at_first', after⟩
  rw [at_first] at at_first'
  rw [at_second] at at_second'
  cases at_first'
  cases at_second'
  omega

def Arrival.place? : Arrival → Option Nat
  | read place _ => some place
  | close => none

/-- The places of the reads that are still to come. -/
def readPlaces (agenda : List (Nat × Arrival)) : List Nat :=
  agenda.filterMap fun item => item.2.place?

/-- What comes at a moment is what was asked for. -/
def Plans (requests : List ReadRequest) (closesAt : Option Nat) (item : Nat × Arrival) : Prop :=
  match item.2 with
  | .read place request => requests[place]? = some request ∧ request.delay = item.1
  | .close => closesAt = some item.1

theorem goesFirst_iff {first second : Nat × Arrival} :
    goesFirst first second = true ↔
      first.1 < second.1 ∨ first.1 = second.1 ∧ first.2.precedes second.2 = true := by
  simp [goesFirst]

theorem agendaOf_sorted (requests : List ReadRequest) (closesAt : Option Nat) :
    (agendaOf requests closesAt).Pairwise fun first second => goesFirst first second = true := by
  refine List.pairwise_mergeSort ?_ ?_ _
  · rintro ⟨first, arrival⟩ ⟨second, arrival'⟩ ⟨third, arrival''⟩ h h'
    rw [goesFirst_iff] at h h' ⊢
    cases arrival <;> cases arrival' <;> cases arrival'' <;> simp [Arrival.precedes] at h h' ⊢ <;>
      omega
  · rintro ⟨first, arrival⟩ ⟨second, arrival'⟩
    rw [Bool.or_eq_true, goesFirst_iff, goesFirst_iff]
    cases arrival <;> cases arrival' <;> simp [Arrival.precedes] <;> omega

theorem mem_agendaOf {item : Nat × Arrival} :
    item ∈ agendaOf requests closesAt ↔ Plans requests closesAt item := by
  obtain ⟨moment, arrival⟩ := item
  rw [agendaOf, List.mem_mergeSort, List.mem_append]
  cases arrival with
  | read place request =>
    simp only [Plans, List.mem_map, Prod.mk.injEq, Arrival.read.injEq, Prod.exists,
      List.mem_zipIdx_iff_getElem?, reduceCtorEq, and_false, exists_false, or_false]
    constructor
    · rintro ⟨_, _, there, rfl, rfl, rfl⟩
      exact ⟨there, rfl⟩
    · rintro ⟨there, rfl⟩
      exact ⟨request, place, there, rfl, rfl, rfl⟩
  | close =>
    simp [Plans, eq_comm]

/-- What is still to come is what was asked for, in another order. -/
theorem agendaOf_filterMap {α : Type} (requests : List ReadRequest) (closesAt : Option Nat)
    {part : Arrival → Option α} (close : part .close = none) :
    ((agendaOf requests closesAt).filterMap fun item => part item.2).Perm
      (requests.zipIdx.filterMap fun item => part (.read item.2 item.1)) := by
  have unsorted := (List.mergeSort_perm ((requests.zipIdx.map fun item =>
    (item.1.delay, Arrival.read item.2 item.1)) ++ closesAt.toList.map fun moment =>
      (moment, Arrival.close)) goesFirst).filterMap fun item => part item.2
  refine unsorted.trans (List.Perm.of_eq ?_)
  have nothing : (closesAt.toList.map fun moment => (moment, Arrival.close)).filterMap
      (fun item => part item.2) = [] := by
    cases closesAt <;> simp [close]
  rw [List.filterMap_append, nothing, List.append_nil, List.filterMap_map]
  rfl

theorem agendaOf_places (requests : List ReadRequest) (closesAt : Option Nat) :
    (readPlaces (agendaOf requests closesAt)).Perm (List.range requests.length) := by
  refine (agendaOf_filterMap requests closesAt rfl).trans (List.Perm.of_eq ?_)
  rw [List.range_eq_range', ← List.zipIdx_map_snd 0 requests, ← List.filterMap_eq_map]
  rfl

theorem agendaOf_before (requests : List ReadRequest) (closesAt : Option Nat) :
    (readPlaces (agendaOf requests closesAt)).Pairwise (Before requests) := by
  have distinct : (readPlaces (agendaOf requests closesAt)).Nodup :=
    (agendaOf_places requests closesAt).nodup_iff.mpr List.nodup_range
  have sorted := agendaOf_sorted requests closesAt
  rw [readPlaces, List.Nodup, List.pairwise_filterMap] at distinct
  rw [readPlaces, List.pairwise_filterMap]
  refine (sorted.and distinct).imp_of_mem ?_
  rintro ⟨moment, arrival⟩ ⟨moment', arrival'⟩ member member' ⟨first, apart⟩ place own place' own'
  have differ := apart place own place' own'
  have plans := mem_agendaOf.mp member
  have plans' := mem_agendaOf.mp member'
  cases arrival with
  | close => cases own
  | read =>
    cases arrival' with
    | close => cases own'
    | read =>
      cases own
      cases own'
      obtain ⟨there, rfl⟩ := plans
      obtain ⟨there', rfl⟩ := plans'
      refine ⟨_, _, there, there', ?_⟩
      rw [goesFirst_iff] at first
      simp only [Arrival.precedes, decide_eq_true_eq] at first
      omega

/-! ## The line -/

theorem Submits.now {host begun : Host} {request : ReadRequest} {command : Command}
    (h : Submits host request command begun) : begun.now = host.now := by
  cases h with
  | asItIs => rfl
  | started command begun asked begins => exact (Command.start_ok begins).2.2.1

theorem TurnsAway.now {closed : Bool} {host begun : Host} {request : ReadRequest}
    {command : Command} {fault : Fault} (h : TurnsAway closed host request command begun fault) :
    begun.now = host.now := by
  cases h with
  | unstarted fault begun asked refused => exact (Command.start_error refused).2
  | late command begun submits => exact submits.now

/-- The places of all reads that have got the slot or may still get it. -/
def line (queue : Queue) : List Nat :=
  (queue.reports.filter fun report => report.grantedAt.isSome).map ReadReport.place
    ++ queue.tickets.map Ticket.place ++ readPlaces queue.agenda

/-- The places of all reads. -/
def places (queue : Queue) : List Nat :=
  queue.reports.map ReadReport.place ++ queue.tickets.map Ticket.place ++ readPlaces queue.agenda

/-- What is still to come comes in order. Every read has one place, and those that are not turned
away stand in the order of submission. -/
structure Line (requests : List ReadRequest) (closesAt : Option Nat) (queue : Queue) : Prop where
  planned : ∀ item ∈ queue.agenda, Plans requests closesAt item
  sorted : queue.agenda.Pairwise fun first second => goesFirst first second = true
  ahead : ∀ item ∈ queue.agenda, queue.host.now ≤ item.1
  shut : queue.closed = true → ∃ moment, closesAt = some moment ∧
    ∀ item ∈ queue.agenda, item.2.place?.isSome → moment < item.1
  opened : queue.closed = false → ∀ moment, closesAt = some moment →
    (moment, .close) ∈ queue.agenda
  order : queue.line.Pairwise (Before requests)
  every : queue.places.Perm (List.range requests.length)

theorem start_line (requests : List ReadRequest) (closesAt : Option Nat) (host : Host) :
    Line requests closesAt (start requests closesAt host) where
  planned := fun _ member => mem_agendaOf.mp member
  sorted := agendaOf_sorted requests closesAt
  ahead := fun _ _ => Nat.zero_le _
  shut := fun closed => by cases closed
  opened := fun _ _ closes => mem_agendaOf.mpr closes
  order := agendaOf_before requests closesAt
  every := agendaOf_places requests closesAt

namespace Line
variable {moment place : Nat} {request : ReadRequest} {rest : List (Nat × Arrival)}

theorem comes (line : Line requests closesAt queue)
    (comes : queue.agenda = (moment, .read place request) :: rest) :
    requests[place]? = some request ∧ request.delay = moment ∧ queue.host.now ≤ moment := by
  have member : (moment, Arrival.read place request) ∈ queue.agenda := by simp [comes]
  exact ⟨(line.planned _ member).1, (line.planned _ member).2, line.ahead _ member⟩

theorem closes_later (line : Line requests closesAt queue)
    (comes : queue.agenda = (moment, .read place request) :: rest) (opened : queue.closed = false)
    {close : Nat} (closes : closesAt = some close) : (close, .close) ∈ rest := by
  have there := line.opened opened close closes
  rw [comes] at there
  rcases List.mem_cons.mp there with same | later
  · cases same
  · exact later

theorem accepted (line : Line requests closesAt queue)
    (comes : queue.agenda = (moment, .read place request) :: rest) (opened : queue.closed = false) :
    ∀ close, closesAt = some close → request.delay ≤ close := by
  intro close closes
  have sorted := line.sorted
  rw [(line.comes comes).2.1]
  rw [comes] at sorted
  have first := goesFirst_iff.mp
    (List.rel_of_pairwise_cons sorted (line.closes_later comes opened closes))
  dsimp only at first
  omega

theorem refused (line : Line requests closesAt queue)
    (comes : queue.agenda = (moment, .read place request) :: rest) (shut : queue.closed = true) :
    ∃ close, closesAt = some close ∧ close < request.delay := by
  obtain ⟨close, closes, before⟩ := line.shut shut
  refine ⟨close, closes, ?_⟩
  rw [(line.comes comes).2.1]
  exact before (moment, .read place request) (by simp [comes]) rfl

/-- The parts of a line that concern what is still to come, after some of it has come. -/
theorem agenda_of_tail {item : Nat × Arrival} (line : Line requests closesAt queue)
    (comes : queue.agenda = item :: rest) :
    (∀ other ∈ rest, Plans requests closesAt other) ∧
      (rest.Pairwise fun first second => goesFirst first second = true) ∧
      ∀ other ∈ rest, item.1 ≤ other.1 := by
  have sorted := line.sorted
  rw [comes] at sorted
  refine ⟨fun other member => line.planned other (by simp [comes, member]), sorted.of_cons,
    fun other member => ?_⟩
  have first := goesFirst_iff.mp (List.rel_of_pairwise_cons sorted member)
  omega

end Line

theorem move_line (line : Line requests closesAt queue) (h : Move queue next) :
    Line requests closesAt next := by
  cases h with
  | close moment comes early host closed tickets gathering abandoned reports =>
    obtain ⟨planned, sorted, later⟩ := line.agenda_of_tail comes
    have closes : closesAt = some moment := line.planned (moment, .close) (by simp [comes])
    constructor
    case planned => exact planned
    case sorted => exact sorted
    case ahead =>
      rw [host]
      exact later
    case shut =>
      intro _
      refine ⟨moment, closes, ?_⟩
      -- At the same moment reads come before the close, so they have come already.
      intro item member isRead
      have sorted := line.sorted
      rw [comes] at sorted
      have first := goesFirst_iff.mp (List.rel_of_pairwise_cons sorted member)
      obtain ⟨other, arrival⟩ := item
      cases arrival with
      | close => cases isRead
      | read => simpa [Arrival.precedes] using first
    case opened =>
      rw [closed]
      exact fun opened => by cases opened
    case order =>
      have order := line.order
      rwa [Queue.line, comes, ← tickets, ← reports] at order
    case every =>
      have every := line.every
      rwa [places, comes, ← tickets, ← reports] at every
  | turnAway moment place request command begun fault status comes early reason host closed tickets
      gathering abandoned reports =>
    obtain ⟨planned, sorted, later⟩ := line.agenda_of_tail comes
    constructor
    case planned => exact planned
    case sorted => exact sorted
    case ahead =>
      rw [host]
      simpa [seenAt, reason.now] using later
    case shut =>
      rw [closed]
      intro shut
      obtain ⟨close, closes, before⟩ := line.shut shut
      exact ⟨close, closes, fun item member => before item (by simp [comes, member])⟩
    case opened =>
      rw [closed]
      exact fun opened close => line.closes_later comes opened
    case order =>
      have order := line.order
      rw [Queue.line, comes, ← tickets] at order
      rw [Queue.line, reports]
      refine order.sublist ?_
      simp [readPlaces, Arrival.place?]
    case every =>
      have every := line.every
      rw [places, comes, ← tickets] at every
      rw [places, reports]
      refine List.Perm.trans ?_ every
      simp only [List.map_append, List.map_cons, List.map_nil, readPlaces, List.filterMap_cons,
        Arrival.place?, List.append_assoc, List.singleton_append]
      exact List.perm_middle.symm.append_left _
  | join moment place request command begun comes early submits opened host closed tickets gathering
      abandoned reports =>
    obtain ⟨planned, sorted, later⟩ := line.agenda_of_tail comes
    constructor
    case planned => exact planned
    case sorted => exact sorted
    case ahead =>
      rw [host, submits.now]
      exact later
    case shut =>
      rw [closed, opened]
      exact fun shut => by cases shut
    case opened =>
      exact fun _ close => line.closes_later comes opened
    case order =>
      have order := line.order
      rw [Queue.line, comes, ← reports] at order
      rw [Queue.line, tickets]
      simpa [readPlaces, Arrival.place?] using order
    case every =>
      have every := line.every
      rw [places, comes, ← reports] at every
      rw [places, tickets]
      simpa [readPlaces, Arrival.place?] using every
  | finish task status alone due host closed agenda tickets gathering abandoned reports =>
    constructor
    case planned =>
      rw [agenda]
      exact line.planned
    case sorted =>
      rw [agenda]
      exact line.sorted
    case ahead =>
      rw [agenda, host]
      intro item member
      cases to_come : queue.agenda with
      | nil => simp [to_come] at member
      | cons first rest =>
        have before := due first (by simp [to_come])
        rw [to_come] at member
        rcases List.mem_cons.mp member with rfl | later
        · exact before
        · exact Nat.le_trans before ((line.agenda_of_tail to_come).2.2 item later)
    case shut =>
      rw [closed, agenda]
      exact line.shut
    case opened =>
      rw [closed, agenda]
      exact line.opened
    case order =>
      have order := line.order
      rw [Queue.line, tickets, ← agenda] at order
      rw [Queue.line, reports]
      simpa using order
    case every =>
      have every := line.every
      rw [places, tickets, ← agenda] at every
      rw [places, reports]
      simpa using every

end TestBench.Queue
