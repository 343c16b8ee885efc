import Subscriber.Proofs.Callers

/-! Everything that callers and the network can do to a shared connection, in any order. Before the work that follows
from it, a step changes the callers in one of a few ways. -/

namespace Subscriber

namespace Link

theorem fail_eq (link : Link) (fault : Fault) : ∃ pending observers failure signals,
    link.fail fault = { link with pending, observers, failure, signals } := by
  cases known : link.failure with
  | none => exact ⟨_, _, _, _, fail_alive known fault⟩
  | some first => exact ⟨_, _, _, _, fail_failed known fault⟩

theorem receiveAll_eq (frames : List Frame) (link : Link) : ∃ pending observers signals,
    link.receiveAll frames = { link with pending, observers, signals } := by
  induction frames generalizing link with
  | nil => exact ⟨_, _, _, rfl⟩
  | cons frame frames ih =>
    obtain ⟨pending, signals, first⟩ := receive_eq link (.ofFrame frame)
    obtain ⟨pending', observers', signals', others⟩ := ih (link.receive (.ofFrame frame))
    refine ⟨pending', observers', signals', Eq.trans others ?_⟩
    rw [first]

/-- Reading leaves alone what is written and what waits to be. -/
theorem read_eq (link : Link) : ∃ inbound reading pending observers failure signals,
    link.read = { link with inbound, reading, pending, observers, failure, signals } := by
  obtain ⟨pending, observers, signals, passed⟩ :=
    receiveAll_eq link.inbound.readAll.frames { link with inbound := link.inbound.readAll.rest }
  cases reading : link.reading with
  | false => exact ⟨_, _, _, _, _, _, by rw [read, if_neg (by simp [reading])]⟩
  | true =>
    cases outcome : link.inbound.readAll.failure with
    | none => exact ⟨_, _, _, _, _, _, (read_complete reading outcome).trans passed⟩
    | some error =>
      obtain ⟨pending', observers', failure', signals', failed⟩ := fail_eq link.passed (.ofError error)
      refine ⟨link.inbound.readAll.rest, false, pending', observers', failure', signals',
        (read_broken reading outcome).trans ?_⟩
      rw [failed, Link.passed, passed]

theorem closed_work (link : Link) : link.work.closed = link.closed := by
  obtain ⟨inbound, reading, pending, observers, failure, signals, read⟩ := read_eq link
  have same : link.read.closed = link.closed := by rw [read]
  exact ((write_writes link.read).trans (wind_writes _)).closed.trans same

private theorem foldl_abandon (calls : List Nat) (link : Link) :
    calls.foldl abandon link = { link with waiting := link.waiting.filter fun request => request.call ∉ calls } := by
  induction calls generalizing link with
  | nil => simp
  | cons call calls ih =>
    rw [List.foldl_cons, ih, abandon]
    simp [List.filter_filter, bne, beq_eq_decide, Bool.and_comm]

end Link

namespace Clients

theorem link_close (clients : Clients) : clients.close.link = { clients.link with
    waiting := clients.link.waiting.filter fun request => request.call ∉ clients.calls
    closed := true, reading := false } := by
  rw [close, Link.foldl_abandon]
  rfl

def Step.request? : Step → Option Request
  | .request call verb targets => some { call, verb, targets }
  | _ => none

def start (connection : Connection) (queueSize : Nat) : Clients := { link := .ofConnection connection queueSize }

def after (clients : Clients) (steps : List Step) : Clients :=
  steps.foldl (fun current step => (current.step step).2) clients

theorem after_concat (clients : Clients) (steps : List Step) (step : Step) :
    clients.after (steps ++ [step]) = ((clients.after steps).step step).2 := by
  rw [after, List.foldl_append]
  rfl

def requests (steps : List Step) : List Request := steps.filterMap Step.request?

theorem requests_concat (steps : List Step) (step : Step) :
    requests (steps ++ [step]) = requests steps ++ step.request?.toList := by
  rw [requests, List.filterMap_append]
  cases step <;> rfl

/-- What becomes of callers in a step, before the work that follows from it. -/
inductive Begins (before : Clients) : Step → Clients → Prop where
  | aside (step : Step) (unasked : step.request? = none ∨ before.link.closed = true) (inbound : Inbound)
      (acceptance : Acceptance) (observers : Observers Fault) :
    Begins before step { before with link := { before.link with
      inbound, outbound := { before.link.outbound with acceptance }, observers } }
  | enters (request : Request) (aimed : request.targets ≠ []) (unclosed : before.link.closed = false)
      (running : before.link.writer ≠ .stopped) (room : before.link.queue.length < before.link.capacity) :
    Begins before (.request request.call request.verb request.targets) { before with
      link := { before.link with queue := before.link.queue ++ [request] }, calls := before.calls ++ [request.call] }
  | waits (request : Request) (aimed : request.targets ≠ []) (unclosed : before.link.closed = false)
      (running : before.link.writer ≠ .stopped) (crowded : before.link.capacity ≤ before.link.queue.length) :
    Begins before (.request request.call request.verb request.targets) { before with
      link := { before.link with waiting := before.link.waiting ++ [request] }, calls := before.calls ++ [request.call] }
  | answered (request : Request) (result : Except Fault Unit)
      (why : request.targets = [] ∨ before.link.writer = .stopped ∧ result = .error before.link.loss) :
    Begins before (.request request.call request.verb request.targets)
      ({ before with calls := before.calls ++ [request.call] }.answer request.call result)
  | leaves (call : Nat) :
    Begins before (.abandon call) { before with link := before.link.abandon call, calls := before.calls.erase call }
  | closes : Begins before .close before.close

private theorem Begins.idle {clients : Clients} {step : Step} (unasked : step.request? = none ∨ clients.link.closed = true) :
    Begins clients step clients :=
  .aside step unasked clients.link.inbound clients.link.outbound.acceptance clients.link.observers

/-- A request with targets takes a place in the queue or in the line of those who wait for one, or is answered at once
because nothing is written any more. -/
theorem request_cases (clients : Clients) {request : Request} (aimed : request.targets ≠ []) :
    let asked := clients.request request.call request.verb request.targets
    let calls := clients.calls ++ [request.call]
    (clients.link.writer ≠ .stopped ∧ clients.link.queue.length < clients.link.capacity ∧
      asked = { clients with link := { clients.link with queue := clients.link.queue ++ [request] }, calls }) ∨
    (clients.link.writer ≠ .stopped ∧ clients.link.capacity ≤ clients.link.queue.length ∧
      asked = { clients with link := { clients.link with waiting := clients.link.waiting ++ [request] }, calls }) ∨
    (clients.link.writer = .stopped ∧
      asked = ({ clients with calls } : Clients).answer request.call (.error clients.link.loss)) := by
  have some : request.targets.isEmpty = false := by simpa using aimed
  unfold Clients.request Link.request
  simp only [some, Bool.false_eq_true, if_false]
  by_cases stopped : clients.link.writer = .stopped
  · exact .inr (.inr ⟨stopped, by simp only [if_pos stopped]⟩)
  by_cases room : clients.link.queue.length < clients.link.capacity
  · exact .inl ⟨stopped, room, by simp only [if_neg stopped, if_pos room]⟩
  · exact .inr (.inl ⟨stopped, Nat.not_lt.mp room, by simp only [if_neg stopped, if_neg room]⟩)

private theorem begins_request (clients : Clients) (request : Request) (unclosed : clients.link.closed = false) :
    Begins clients (.request request.call request.verb request.targets)
      (clients.request request.call request.verb request.targets) := by
  by_cases aimed : request.targets = []
  · have told : clients.request request.call request.verb request.targets =
        ({ clients with calls := clients.calls ++ [request.call] } : Clients).answer request.call (.ok ()) := by
      simp [Clients.request, Link.request, aimed]
    rw [told]
    exact .answered request (.ok ()) (.inl aimed)
  rcases request_cases clients aimed with ⟨running, room, taken⟩ | ⟨running, crowded, taken⟩ | ⟨stopped, told⟩
  · exact taken ▸ .enters request aimed unclosed running room
  · exact taken ▸ .waits request aimed unclosed running crowded
  · exact told ▸ .answered request (.error clients.link.loss) (.inr ⟨stopped, rfl⟩)

theorem begin_request {clients : Clients} (unclosed : clients.link.closed = false) (call : Nat) (verb : Verb)
    (targets : List Bytes) :
    clients.begin (.request call verb targets) = (.nothing, clients.request call verb targets) := by
  unfold begin
  dsimp only
  rw [if_neg (by simp [unclosed])]

theorem begins (clients : Clients) (step : Step) : Begins clients step (clients.begin step).2 := by
  cases step with
  | network event =>
    cases event with
    | arrive arrival => exact .aside _ (.inl rfl) (clients.link.inbound.arrive arrival) clients.link.outbound.acceptance clients.link.observers
    | finish => exact .aside _ (.inl rfl) clients.link.inbound.finish clients.link.outbound.acceptance clients.link.observers
    | accept acceptance => exact .aside _ (.inl rfl) clients.link.inbound acceptance clients.link.observers
  | request call verb targets =>
    unfold begin
    dsimp only
    split
    next closed => exact .idle (.inr closed)
    next unclosed => exact begins_request clients { call, verb, targets } (by simpa using unclosed)
  | abandon call =>
    unfold begin abandon
    dsimp only
    split
    · exact .leaves call
    · exact .idle (.inl rfl)
  | observe kind =>
    obtain ⟨observers, registered⟩ := Link.observe_eq clients.link kind
    unfold begin
    dsimp only
    split
    · exact .idle (.inl rfl)
    · rw [registered]
      exact .aside _ (.inl rfl) clients.link.inbound clients.link.outbound.acceptance observers
  | poll observer =>
    unfold begin
    dsimp only
    split
    · exact .idle (.inl rfl)
    · exact .aside _ (.inl rfl) clients.link.inbound clients.link.outbound.acceptance _
  | drain observer =>
    unfold begin
    dsimp only
    split
    · exact .idle (.inl rfl)
    · exact .aside _ (.inl rfl) clients.link.inbound clients.link.outbound.acceptance _
  | drop observer => exact .aside _ (.inl rfl) clients.link.inbound clients.link.outbound.acceptance _
  | close =>
    unfold begin
    dsimp only
    split
    · exact .idle (.inl rfl)
    · exact .closes

end Clients

end Subscriber
