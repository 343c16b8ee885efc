import Mathlib.Data.Multiset.Defs
import Subscriber.Proofs.Conversations
import Subscriber.Proofs.Heeding
import Subscriber.Proofs.WrittenCommands

/-! One connection with queues of two sizes. Requests are taken up in the same order, so the bytes are the same and so is
what becomes of those that are taken up. Who is told that there is room is not, nor is the order in which calls are given
up when a write fails. -/

namespace Subscriber

namespace Link
open scoped List

/-- The same connection with its requests in other places. -/
def reline (link : Link) (capacity : Nat) (queue waiting : List Request) (signals : List (Signal Fault)) : Link :=
  { link with capacity, queue, waiting, signals }

/-- Two connections that differ in the size of the queue, in which of the requests are in it, and in what has happened. -/
structure Peers (a b : Link) : Prop where
  same : b = a.reline b.capacity b.queue b.waiting b.signals
  line : b.queue ++ b.waiting = a.queue ++ a.waiting

theorem Peers.refl (a : Link) : Peers a a := ⟨rfl, rfl⟩

theorem Peers.trans {a b c : Link} (first : Peers a b) (second : Peers b c) : Peers a c := by
  refine ⟨?_, second.line.trans first.line⟩
  have through := second.same
  rw [first.same] at through
  exact through

theorem Peers.symm {a b : Link} (peers : Peers a b) : Peers b a := by
  refine ⟨?_, peers.line.symm⟩
  rw [peers.same]
  rfl

theorem Peers.relined {a b : Link} (peers : Peers a b) : ∃ capacity queue waiting signals,
    b = a.reline capacity queue waiting signals ∧ queue ++ waiting = a.queue ++ a.waiting :=
  ⟨_, _, _, _, peers.same, peers.line⟩

def given (fault : Fault) (request : Request) : Signal Fault := .answer request.call (.error fault)

section
variable {link : Link} {capacity : Nat} {queue waiting : List Request}

/-! Reading does not look at requests that have not been taken up. -/

private theorem receive_reline (link : Link) (push : Push) : (link.reline capacity queue waiting link.signals).receive push =
    (link.receive push).reline capacity queue waiting (link.receive push).signals := by
  cases push with
  | message message =>
    by_cases nobody : link.observers.liveOf message.kind = 0
    · simp only [receive, reline, nobody, if_true]
    · simp only [receive, reline, nobody, if_false, signal]
  | acknowledgement verb =>
    cases due : link.pending with
    | nil => simp only [receive, acknowledge, reline, due, note, signal]
    | cons front others =>
      by_cases own : front.verb = verb
      · by_cases last : front.remaining ≤ 1
        · simp only [receive, acknowledge, reline, due, own, ne_eq, not_true_eq_false, if_false, last, if_true, answer, signal]
        · simp only [receive, acknowledge, reline, due, own, ne_eq, not_true_eq_false, if_false, last]
      · simp only [receive, acknowledge, reline, due, own, ne_eq, not_false_eq_true, if_true, note, signal]
  | refusal text =>
    cases due : link.pending with
    | nil => simp only [receive, refuse, reline, due, note, signal]
    | cons front others => simp only [receive, refuse, reline, due, answer, signal]
  | _ => rfl

private theorem receiveAll_reline (frames : List Frame) (link : Link) :
    (link.reline capacity queue waiting link.signals).receiveAll frames =
      (link.receiveAll frames).reline capacity queue waiting (link.receiveAll frames).signals := by
  induction frames generalizing link with
  | nil => rfl
  | cons frame frames ih =>
    exact (congrArg (receiveAll · frames) (receive_reline link (.ofFrame frame))).trans (ih _)

private theorem fail_reline (link : Link) (fault : Fault) : (link.reline capacity queue waiting link.signals).fail fault =
    (link.fail fault).reline capacity queue waiting (link.fail fault).signals := by
  cases known : link.failure with
  | none =>
    have alive : (link.reline capacity queue waiting link.signals).failure = none := known
    rw [fail_alive known, fail_alive alive]
    rfl
  | some first =>
    have failed : (link.reline capacity queue waiting link.signals).failure = some first := known
    rw [fail_failed known, fail_failed failed]

private theorem read_reline (link : Link) : (link.reline capacity queue waiting link.signals).read =
    link.read.reline capacity queue waiting link.read.signals := by
  have passed : (link.reline capacity queue waiting link.signals).passed =
      link.passed.reline capacity queue waiting link.passed.signals :=
    receiveAll_reline link.inbound.readAll.frames { link with inbound := link.inbound.readAll.rest }
  cases reading : link.reading with
  | false =>
    have still : (link.reline capacity queue waiting link.signals).reading = false := reading
    rw [read, read, if_neg (by simp [still]), if_neg (by simp [reading])]
  | true =>
    have still : (link.reline capacity queue waiting link.signals).reading = true := reading
    cases outcome : link.inbound.readAll.failure with
    | none =>
      rw [read_complete reading outcome, read_complete still outcome]
      exact passed
    | some error =>
      rw [read_broken reading outcome, read_broken still outcome, passed, fail_reline]
      rfl

end

private theorem send_cases (link : Link) (bytes : Bytes) :
    (∃ writer outbound, writer ≠ .stopped ∧ ∀ capacity queue waiting signals,
      (link.reline capacity queue waiting signals).send bytes =
        ({ link with writer, outbound } : Link).reline capacity queue waiting signals) ∨
    ∃ (outbound : Outbound) (pending : List Pending) (observers : Observers Fault) (failure : Option Fault)
      (ending : List (Signal Fault)) (fault : Fault),
      (∀ call result, .answer call result ∈ ending → ∃ fault, result = .error fault) ∧
      (∀ call, .admitted call ∉ ending) ∧
      ∀ capacity queue waiting signals, (link.reline capacity queue waiting signals).send bytes =
        ({ link with writer := .stopped, outbound, pending, observers, failure } : Link).reline capacity [] []
          (signals ++ (ending ++ (waiting ++ queue).map (given fault))) := by
  unfold send
  dsimp only [reline]
  split
  next outbound _ => exact .inl ⟨.idle, outbound, nofun, fun _ _ _ _ => rfl⟩
  next unsent outbound _ => exact .inl ⟨.sending unsent, outbound, nofun, fun _ _ _ _ => rfl⟩
  next cause outbound _ =>
    refine .inr ⟨outbound, ?_⟩
    cases known : link.failure with
    | none =>
      let told : List (Signal Fault) := .notice (.connectionFailed (.io cause)) ::
        link.pending.map (fun request => .answer request.call (.error (.io cause))) ++
        if link.observers.live = 0 then [] else [.observed]
      refine ⟨[], (link.observers.fail .channel (.io cause)).fail .pattern (.io cause), some (.io cause), told, .io cause,
        fun call result member => ?_, fun call member => ?_, fun capacity queue waiting signals => ?_⟩
      · rcases List.mem_append.mp member with early | last
        · rcases List.mem_cons.mp early with same | answered
          · cases same
          · obtain ⟨request, -, same⟩ := List.mem_map.mp answered
            cases same
            exact ⟨_, rfl⟩
        · split at last <;> simp at last
      · rcases List.mem_append.mp member with early | last
        · simp at early
        · split at last <;> simp at last
      · rw [stopWriting_eq, fail_alive rfl]
        simp only [List.append_assoc, told]
        rfl
    | some first =>
      refine ⟨link.pending, link.observers, some first, [], first, nofun, nofun, fun capacity queue waiting signals => ?_⟩
      rw [stopWriting_eq, fail_failed rfl]
      simp only [loss, List.nil_append]
      rfl

/-- What has happened in a pass: first what was `heard`, then some of the `crowd` were told that there is room, and at last
came the `rest`. -/
def Recounts (crowd : List Nat) (heard rest : List (Signal Fault)) (link : Link) : Prop :=
  ∃ admitted : List Nat, link.signals = heard ++ admitted.map .admitted ++ rest ∧
    admitted ++ link.waiting.map Request.call <+ crowd

/-- The same requests in another order, but for those that waited in front of neither queue. -/
def Reordered (crowd : List Nat) (left right : List Request) : Prop :=
  left ~ right ∧ ∀ kept : Nat → Bool, (∀ call ∈ crowd, kept call = false) →
    (left.map Request.call).filter kept = (right.map Request.call).filter kept

/-- Whoever waits in front of a queue is given up first. -/
theorem reordered_line {crowd : List Nat} {a b : Link} (line : b.queue ++ b.waiting = a.queue ++ a.waiting)
    (mine : a.waiting.map Request.call ⊆ crowd) (yours : b.waiting.map Request.call ⊆ crowd) :
    Reordered crowd (a.waiting ++ a.queue) (b.waiting ++ b.queue) := by
  refine ⟨?_, fun kept spared => ?_⟩
  · calc a.waiting ++ a.queue
      _ ~ a.queue ++ a.waiting := List.perm_append_comm
      _ = b.queue ++ b.waiting := line.symm
      _ ~ b.waiting ++ b.queue := List.perm_append_comm
  · have moved {link : Link} (inside : link.waiting.map Request.call ⊆ crowd) :
        ((link.waiting ++ link.queue).map Request.call).filter kept =
          ((link.queue ++ link.waiting).map Request.call).filter kept := by
      have gone : (link.waiting.map Request.call).filter kept = [] :=
        List.filter_eq_nil_iff.mpr fun call member => by simp [spared call (inside member)]
      simp only [List.map_append, List.filter_append, gone, List.nil_append, List.append_nil]
    rw [moved mine, moved yours, line]

/-- What a pass makes of two peers. Both hear the same, and if a write fails they tell of it in the same way; then each
gives up the calls that are left, in an order of its own. -/
structure Paced (first second a b : Link) : Prop where
  peers : Peers a b
  told : ∃ heard ending fault left right,
    Recounts (first.waiting.map Request.call) heard (ending ++ left.map (given fault)) a ∧
    Recounts (second.waiting.map Request.call) heard (ending ++ right.map (given fault)) b ∧
    Reordered ((first.waiting ++ second.waiting).map Request.call) left right ∧
    (∀ call, .admitted call ∉ heard) ∧ (∀ call, .admitted call ∉ ending) ∧
    (∀ call result, .answer call result ∈ ending → ∃ fault, result = .error fault) ∧
    (a.writer ≠ .stopped ∨ first.writer = .stopped → ending = [] ∧ left = [])

/-- Two peers in the middle of a pass in which no write has failed yet. -/
structure Underway (first second : Link) (heard : List (Signal Fault)) (a b : Link) : Prop where
  peers : Peers a b
  mine : Recounts (first.waiting.map Request.call) heard [] a
  yours : Recounts (second.waiting.map Request.call) heard [] b
  level : a.failure ≠ none → a.signals = heard ∧ b.signals = heard
  silent : ∀ call, .admitted call ∉ heard

section
variable {first second a b link : Link} {heard : List (Signal Fault)}

theorem Underway.paced (underway : Underway first second heard a b) : Paced first second a b := by
  refine ⟨underway.peers, heard, [], .closed, [], [], ?_, ?_, ⟨.refl _, fun _ _ => rfl⟩, underway.silent, nofun, nofun,
    fun _ => ⟨rfl, rfl⟩⟩
  · exact underway.mine
  · exact underway.yours

def Stopped (a b : Link) : Prop := (a.queue = [] ∧ a.writer = .stopped) ∧ b.queue = [] ∧ b.writer = .stopped

theorem Underway.send (underway : Underway first second heard a b) (bytes : Bytes) (running : first.writer ≠ .stopped) :
    Underway first second heard (a.send bytes) (b.send bytes) ∨
      Paced first second (a.send bytes) (b.send bytes) ∧ Stopped (a.send bytes) (b.send bytes) := by
  have same := underway.peers.same
  rcases send_cases a bytes with
    ⟨writer, outbound, goesOn, sent⟩ |
    ⟨outbound, pending, observers, failure, ending, fault, failing, unadmitted, sent⟩
  all_goals
    have mine : a.send bytes = _ := sent a.capacity a.queue a.waiting a.signals
    have yours := sent b.capacity b.queue b.waiting b.signals
    rw [← same] at yours
    rw [mine, yours]
  · exact .inl ⟨⟨rfl, underway.peers.line⟩, underway.mine, underway.yours, underway.level, underway.silent⟩
  · refine .inr ⟨⟨⟨rfl, rfl⟩, heard, ending, fault, a.waiting ++ a.queue, b.waiting ++ b.queue, ?_, ?_, ?_,
      underway.silent, unadmitted, failing, fun either => ?_⟩, ⟨rfl, rfl⟩, rfl, rfl⟩
    · obtain ⟨admitted, signals, entered⟩ := underway.mine
      refine ⟨admitted, ?_, ?_⟩
      · dsimp only [reline]
        rw [signals, List.append_nil]
      · exact (List.append_nil admitted).symm ▸ (List.sublist_append_left _ _).trans entered
    · obtain ⟨admitted, signals, entered⟩ := underway.yours
      refine ⟨admitted, ?_, ?_⟩
      · dsimp only [reline]
        rw [signals, List.append_nil]
      · exact (List.append_nil admitted).symm ▸ (List.sublist_append_left _ _).trans entered
    · rw [List.map_append]
      obtain ⟨admitted, -, room⟩ := underway.mine
      obtain ⟨admitted', -, room'⟩ := underway.yours
      refine reordered_line underway.peers.line ?_ ?_
      · exact List.subset_append_of_subset_left _ ((List.sublist_append_right ..).trans room).subset
      · exact List.subset_append_of_subset_right _ ((List.sublist_append_right ..).trans room').subset
    · exact either.elim (absurd rfl) fun stopped => absurd stopped running

/-- Whoever comes into the queue when a request is taken up is told so, unless the connection has failed. -/
theorem dequeue_entered (link : Link) (queue : List Request) : ∃ entered waiting, link.waiting = entered ++ waiting ∧
    link.dequeue queue = link.reline link.capacity (queue ++ entered) waiting (link.signals ++
      if link.failure.isSome then [] else (entered.map Request.call).map .admitted) := by
  unfold dequeue
  split
  next nobody => exact ⟨[], [], nobody, by simp [reline, nobody]⟩
  next first others crowd =>
    refine ⟨[first], others, crowd, ?_⟩
    dsimp only
    split
    · rw [List.append_nil]
      rfl
    · rfl

private theorem performed_failed {fault : Fault} (failed : link.failure = some fault) (request : Request) (queue : List Request) :
    ∃ entered waiting, link.waiting = entered ++ waiting ∧ (link.dequeue queue).perform request =
      link.reline link.capacity (queue ++ entered) waiting (link.signals ++ [.answer request.call (.error fault)]) := by
  obtain ⟨entered, waiting, crowd, dequeued⟩ := dequeue_entered link queue
  refine ⟨entered, waiting, crowd, ?_⟩
  have still : (link.dequeue queue).failure = some fault := by
    rw [dequeued]
    exact failed
  rw [perform, still, dequeued, failed, Option.isSome_some, if_pos rfl, List.append_nil]
  rfl

private theorem performed_alive (alive : link.failure = none) (request : Request) (queue : List Request) :
    ∃ entered waiting, link.waiting = entered ++ waiting ∧ (link.dequeue queue).perform request =
      send (reline { link with pending := link.pending ++ [request.pending] } link.capacity (queue ++ entered) waiting
        (link.signals ++ (entered.map Request.call).map .admitted))
        (request.verb.command request.targets).frame.encode := by
  obtain ⟨entered, waiting, crowd, dequeued⟩ := dequeue_entered link queue
  refine ⟨entered, waiting, crowd, ?_⟩
  have still : (link.dequeue queue).failure = none := by
    rw [dequeued]
    exact alive
  rw [perform, still, dequeued, alive]
  rfl

private theorem Underway.takeUp (underway : Underway first second heard a b) (running : first.writer ≠ .stopped) {request : Request}
    {mine yours : List Request} (front : a.queue = request :: mine) (front' : b.queue = request :: yours) :
    (∃ heard, Underway first second heard ((a.dequeue mine).perform request) ((b.dequeue yours).perform request)) ∨
      Paced first second ((a.dequeue mine).perform request) ((b.dequeue yours).perform request) ∧
        Stopped ((a.dequeue mine).perform request) ((b.dequeue yours).perform request) := by
  have failure : b.failure = a.failure := (congrArg Link.failure underway.peers.same).trans rfl
  have whole := underway.peers.line
  obtain ⟨admitted, signals, room⟩ := underway.mine
  obtain ⟨admitted', signals', room'⟩ := underway.yours
  rw [List.append_nil] at signals signals'
  have behind {entered waiting entered' waiting' : List Request} (crowd : a.waiting = entered ++ waiting)
      (crowd' : b.waiting = entered' ++ waiting') : yours ++ entered' ++ waiting' = mine ++ entered ++ waiting := by
    rw [front, front', crowd, crowd'] at whole
    simpa using whole
  cases known : a.failure with
  | some fault =>
    obtain ⟨quiet, quiet'⟩ := underway.level (by simp [known])
    obtain ⟨entered, waiting, crowd, taken⟩ := performed_failed known request mine
    obtain ⟨entered', waiting', crowd', taken'⟩ := performed_failed (failure.trans known) request yours
    have line := behind crowd crowd'
    rw [crowd, List.map_append] at room
    rw [crowd', List.map_append] at room'
    have fewer {gone left admitted crowd : List Nat} (room : admitted ++ (gone ++ left) <+ crowd) : left <+ crowd :=
      ((List.sublist_append_right _ _).trans (List.sublist_append_right _ _)).trans room
    rw [taken, taken']
    refine .inl ⟨heard ++ [.answer request.call (.error fault)], ⟨?_, line⟩, ⟨[], ?_, fewer room⟩, ⟨[], ?_, fewer room'⟩,
      fun _ => ⟨?_, ?_⟩, fun call member => ?_⟩
    · rw [underway.peers.same]
      rfl
    · simp [reline, quiet]
    · simp [reline, quiet']
    · simp [reline, quiet]
    · simp [reline, quiet']
    · rcases List.mem_append.mp member with before | last
      · exact underway.silent call before
      · cases List.mem_singleton.mp last
  | none =>
    obtain ⟨entered, waiting, crowd, taken⟩ := performed_alive known request mine
    obtain ⟨entered', waiting', crowd', taken'⟩ := performed_alive (failure.trans known) request yours
    have line := behind crowd crowd'
    rw [crowd, List.map_append, ← List.append_assoc] at room
    rw [crowd', List.map_append, ← List.append_assoc] at room'
    have begun : Underway first second heard
        (reline { a with pending := a.pending ++ [request.pending] } a.capacity (mine ++ entered) waiting
          (a.signals ++ (entered.map Request.call).map .admitted))
        (reline { b with pending := b.pending ++ [request.pending] } b.capacity (yours ++ entered') waiting'
          (b.signals ++ (entered'.map Request.call).map .admitted)) := by
      refine ⟨⟨?_, line⟩, ⟨admitted ++ entered.map Request.call, ?_, room⟩, ⟨admitted' ++ entered'.map Request.call, ?_, room'⟩,
        absurd known, underway.silent⟩
      · rw [underway.peers.same]
        rfl
      · simp [reline, signals]
      · simp [reline, signals']
    rw [taken, taken']
    exact (begun.send _ running).imp_left fun sent => ⟨heard, sent⟩

theorem Peers.empty (peers : Peers a b) (mine : a.Sound) (empty : a.queue = []) : b.queue = [] := by
  have nobody : a.waiting = [] := by
    by_contra crowded
    have filled := mine.full crowded
    rw [empty] at filled
    exact absurd mine.room (Nat.not_lt.mpr filled)
  have whole := peers.line
  rw [empty, nobody] at whole
  exact (List.append_eq_nil_iff.mp whole).1

private theorem Peers.front (peers : Peers a b) (yours : b.Sound) {request : Request} {queue : List Request}
    (front : a.queue = request :: queue) : ∃ queue', b.queue = request :: queue' := by
  have whole := peers.line
  cases other : b.queue with
  | nil => cases front.symm.trans (peers.symm.empty yours other)
  | cons first later =>
    rw [front, other] at whole
    exact ⟨later, by rw [(List.cons.inj whole).1]⟩

private theorem Underway.serve {a b : Link} {heard : List (Signal Fault)} (underway : Underway first second heard a b)
    (mine : a.Sound) (yours : b.Sound) (running : first.writer ≠ .stopped) : Paced first second a.serve b.serve := by
  have writer : b.writer = a.writer := (congrArg Link.writer underway.peers.same).trans rfl
  by_cases done : a.queue = [] ∨ a.writer ≠ .idle
  · have done' : b.queue = [] ∨ b.writer ≠ .idle :=
      done.imp (underway.peers.empty mine) fun busy => writer ▸ busy
    rw [(serve_idle done).1, (serve_idle done').1]
    exact underway.paced
  · obtain ⟨some, idle⟩ := not_or.mp done
    have idle : a.writer = .idle := not_not.mp idle
    obtain ⟨request, queue, front⟩ := List.exists_cons_of_ne_nil some
    obtain ⟨queue', front'⟩ := underway.peers.front yours front
    have shorter := Nat.lt_of_le_of_lt (backlog_perform (a.dequeue queue) request) (backlog_dequeue front)
    rw [serve_step front idle, serve_step front' (writer.trans idle)]
    rcases underway.takeUp running front front' with ⟨heard, taken⟩ | ⟨paced, ⟨none, -⟩, none', -⟩
    · exact taken.serve (mine.takeUp front idle).sound (yours.takeUp front' (writer.trans idle)).sound running
    · rw [(serve_idle (.inl none)).1, (serve_idle (.inl none')).1]
      exact paced
termination_by a.backlog

private theorem Underway.write (underway : Underway first second heard a b) (mine : a.Sound) (yours : b.Sound)
    (begun : a.writer = first.writer) : Paced first second a.write b.write := by
  have writer : b.writer = a.writer := (congrArg Link.writer underway.peers.same).trans rfl
  unfold Link.write
  rw [writer]
  cases known : a.writer with
  | idle => exact underway.serve mine yours (by simp [← begun, known])
  | stopped =>
    have busy : a.queue = [] ∨ a.writer ≠ .idle := .inr (by simp [known])
    have busy' : b.queue = [] ∨ b.writer ≠ .idle := .inr (by simp [writer, known])
    dsimp only
    rw [(serve_idle busy).1, (serve_idle busy').1]
    exact underway.paced
  | sending unsent =>
    have running : first.writer ≠ .stopped := by simp [← begun, known]
    dsimp only
    rcases underway.send unsent running with sent | ⟨paced, ⟨none, -⟩, none', -⟩
    · exact sent.serve (mine.send unsent fun _ => ⟨unsent, known⟩).sound
        (yours.send unsent fun _ => ⟨unsent, writer.trans known⟩).sound running
    · rw [(serve_idle (.inl none)).1, (serve_idle (.inl none')).1]
      exact paced

private theorem Paced.wind (paced : Paced first second a b) : Paced first second a.wind b.wind := by
  obtain ⟨peers, heard, ending, fault, left, right, mine, yours, same, silent, unadmitted, failing, unended⟩ := paced
  obtain ⟨capacity, queue, waiting, signals, rfl, line⟩ := peers.relined
  have ends : Paced first second { a with writer := .stopped, observers := a.observers.close }
      (reline { a with writer := .stopped, observers := a.observers.close } capacity queue waiting signals) :=
    ⟨⟨rfl, line⟩, heard, ending, fault, left, right, mine, yours, same, silent, unadmitted, failing,
      fun either => unended (.inr (either.resolve_left (absurd rfl)))⟩
  unfold Link.wind
  dsimp only [reline] at ends ⊢
  split
  · exact ends
  · exact ends
  · exact ⟨peers, heard, ending, fault, left, right, mine, yours, same, silent, unadmitted, failing, unended⟩

private theorem admitted_fail {call : Nat} {fault : Fault} (admitted : .admitted call ∈ (link.fail fault).signals) :
    .admitted call ∈ link.signals := by
  cases known : link.failure with
  | none =>
    rw [fail_alive known] at admitted
    rcases List.mem_append.mp admitted with early | last
    · exact (List.mem_append.mp early).resolve_right (by simp)
    · split at last <;> simp at last
  | some first => rwa [fail_failed known] at admitted

private theorem admitted_read {call : Nat} (admitted : .admitted call ∈ link.read.signals) : .admitted call ∈ link.signals := by
  have passes (before : .admitted call ∈ link.passed.signals) : .admitted call ∈ link.signals :=
    show .admitted call ∈ Link.signals { link with inbound := link.inbound.readAll.rest } from
      admitted_receiveAll link.inbound.readAll.frames before
  cases reading : link.reading with
  | false => rwa [read, if_neg (by simp [reading])] at admitted
  | true =>
    cases outcome : link.inbound.readAll.failure with
    | none =>
      rw [read_complete reading outcome] at admitted
      exact passes admitted
    | some error =>
      rw [read_broken reading outcome] at admitted
      exact passes (admitted_fail admitted)

theorem Peers.work (peers : Peers a b) (mine : a.Sound) (yours : b.Sound) (fresh : a.signals = []) (fresh' : b.signals = []) :
    Paced a b a.work b.work := by
  obtain ⟨inbound, reading, pending, observers, failure, signals, read⟩ := read_eq a
  have other : b.read = a.read.reline b.capacity b.queue b.waiting a.read.signals := by
    rw [← read_reline, fresh, ← fresh', ← peers.same]
  have queue : a.read.queue = a.queue := by rw [read]
  have waiting : a.read.waiting = a.waiting := by rw [read]
  have writer : a.read.writer = a.writer := by rw [read]
  have silent (call : Nat) : .admitted call ∉ a.read.signals := fun admitted => by
    have before := admitted_read admitted
    rw [fresh] at before
    cases before
  have underway : Underway a b a.read.signals a.read b.read := by
    rw [other]
    refine ⟨⟨rfl, ?_⟩, ⟨[], by simp, ?_⟩, ⟨[], by simp [reline], .refl _⟩, fun _ => ⟨rfl, rfl⟩, silent⟩
    · rw [queue, waiting]
      exact peers.line
    · rw [waiting]
      exact .refl _
  exact (underway.write mine.read.sound yours.read.sound writer).wind

theorem Sound.request (sound : link.Sound) (request : Request) (aimed : request.targets ≠ [])
    (running : link.writer ≠ .stopped) :
    ∃ queue waiting,
      link.request request.call request.verb request.targets = (none, { link with queue, waiting }) ∧
      queue ++ waiting = link.queue ++ link.waiting ++ [request] ∧ Sound { link with queue, waiting } ∧
      waiting.length ≤ link.waiting.length + 1 := by
  have some : request.targets.isEmpty = false := by simpa using aimed
  unfold Link.request
  simp only [some, Bool.false_eq_true, if_false, if_neg running]
  by_cases room : link.queue.length < link.capacity
  · have nobody : link.waiting = [] := by
      by_contra crowded
      exact absurd (sound.full crowded) (Nat.not_le.mpr room)
    refine ⟨link.queue ++ [request], link.waiting, by rw [if_pos room], by simp [nobody], ?_, Nat.le_succ _⟩
    exact { sound with full := absurd nobody, stopped := fun stopped => absurd stopped running }
  · refine ⟨link.queue, link.waiting ++ [request], by rw [if_neg room], (List.append_assoc _ _ _).symm, ?_, by simp⟩
    exact { sound with full := fun _ => Nat.not_lt.mp room, stopped := fun stopped => absurd stopped running }

theorem Peers.request (peers : Peers a b) (mine : a.Sound) (yours : b.Sound) (call : Nat) (verb : Verb) (targets : List Bytes) :
    (b.request call verb targets).1 = (a.request call verb targets).1 ∧
      Peers (a.request call verb targets).2 (b.request call verb targets).2 := by
  have writer : b.writer = a.writer := (congrArg Link.writer peers.same).trans rfl
  have failure : b.failure = a.failure := (congrArg Link.failure peers.same).trans rfl
  by_cases aimed : targets = []
  · simp only [Link.request, aimed, List.isEmpty_nil, if_true]
    exact ⟨trivial, peers⟩
  by_cases stopped : a.writer = .stopped
  · have some : targets.isEmpty = false := by simpa using aimed
    simp only [Link.request, some, Bool.false_eq_true, if_false, writer, stopped, if_true, loss, failure]
    exact ⟨trivial, peers⟩
  · obtain ⟨queue, waiting, asked, line, -⟩ := mine.request { call, verb, targets } aimed stopped
    obtain ⟨queue', waiting', asked', line', -⟩ := yours.request { call, verb, targets } aimed (writer ▸ stopped)
    rw [asked, asked']
    refine ⟨rfl, ?_, line'.trans ((congrArg (· ++ _) peers.line).trans line.symm)⟩
    rw [peers.same]
    rfl

theorem Peers.observed (peers : Peers a b) : b.observers = a.observers := (congrArg Link.observers peers.same).trans rfl

theorem Peers.withObservers (peers : Peers a b) (observers : Observers Fault) :
    Peers { a with observers } { b with observers } := by
  obtain ⟨capacity, queue, waiting, signals, rfl, line⟩ := peers.relined
  exact ⟨rfl, line⟩

theorem Peers.observe (peers : Peers a b) (kind : Message.Kind) :
    (b.observe kind).1 = (a.observe kind).1 ∧ Peers (a.observe kind).2 (b.observe kind).2 := by
  obtain ⟨capacity, queue, waiting, signals, rfl, line⟩ := peers.relined
  rw [observe_new, observe_new]
  exact ⟨rfl, rfl, line⟩

theorem Peers.meet (peers : Peers a b) (event : Connection.Event) : Peers (a.meet event) (b.meet event) := by
  obtain ⟨capacity, queue, waiting, signals, rfl, line⟩ := peers.relined
  cases event <;> exact ⟨rfl, line⟩

theorem Peers.collect (peers : Peers a b) : Peers { a with signals := [] } { b with signals := [] } := by
  obtain ⟨capacity, queue, waiting, signals, rfl, line⟩ := peers.relined
  exact ⟨rfl, line⟩

theorem Sound.requested (sound : link.Sound) (call : Nat) (verb : Verb) (targets : List Bytes) :
    (link.request call verb targets).2.Sound := by
  by_cases aimed : targets = []
  · simpa only [Link.request, aimed, List.isEmpty_nil, if_true] using sound
  by_cases stopped : link.writer = .stopped
  · have some : targets.isEmpty = false := by simpa using aimed
    simpa only [Link.request, some, Bool.false_eq_true, if_false, stopped, if_true] using sound
  · obtain ⟨queue, waiting, asked, -, after, -⟩ := sound.request { call, verb, targets } aimed stopped
    rw [asked]
    exact after

end

end Link

namespace Clients
open scoped List

/-- All that can be seen after a step; the answers that came in the same pass are in no order. -/
structure Glimpse where
  reply : Reply
  finished : Multiset (Nat × Except Fault Unit)
  written : Bytes
  observers : Nat

def glimpse (clients : Clients) (reply : Reply) : Glimpse where
  reply := reply
  finished := clients.finished
  written := clients.link.outbound.accepted
  observers := clients.link.observers.live

def glimpses : Clients → List Step → List Glimpse
  | _, [] => []
  | clients, step :: script =>
    let (reply, after) := clients.step step
    after.glimpse reply :: glimpses after script

structure Told (a b : Clients) : Prop where
  calls : b.calls = a.calls
  finished : b.finished ~ a.finished

section
variable {a b c : Clients}

private theorem Told.trans (first : Told a b) (second : Told b c) : Told a c :=
  ⟨second.calls.trans first.calls, second.finished.trans first.finished⟩

theorem Told.answer (told : Told a b) (call : Nat) (result : Except Fault Unit) :
    Told (a.answer call result) (b.answer call result) := by
  unfold Clients.answer
  rw [told.calls]
  split
  · exact ⟨rfl, told.finished.append_right _⟩
  · exact told

theorem Told.hear (told : Told a b) (signals : List (Signal Fault)) : Told (signals.foldl hear a) (signals.foldl hear b) := by
  induction signals generalizing a b with
  | nil => exact told
  | cons signal signals ih =>
    cases signal with
    | answer call result => exact ih (told.answer call result)
    | _ => exact ih ⟨told.calls, told.finished⟩

private theorem foldl_admitted (calls : List Nat) (clients : Clients) :
    (calls.map Signal.admitted).foldl Clients.hear clients = clients := by
  induction calls with
  | nil => rfl
  | cons call calls ih => exact ih

private theorem answer_comm (clients : Clients) (first second : Nat) (result : Except Fault Unit) :
    Told ((clients.answer first result).answer second result) ((clients.answer second result).answer first result) := by
  by_cases same : first = second
  · subst same
    exact ⟨rfl, .refl _⟩
  · have still (call other : Nat) (different : call ≠ other) :
        (clients.calls.erase other).contains call = clients.calls.contains call := by
      rw [Bool.eq_iff_iff, List.contains_iff_mem, List.contains_iff_mem]
      exact List.mem_erase_of_ne different
    unfold answer
    by_cases early : clients.calls.contains first = true <;> by_cases late : clients.calls.contains second = true
    · rw [if_pos early, if_pos late]
      dsimp only
      rw [if_pos ((still second first (Ne.symm same)).trans late), if_pos ((still first second same).trans early)]
      refine ⟨List.erase_comm .., ?_⟩
      simp only [List.append_assoc]
      exact (List.Perm.swap ..).append_left _
    · rw [if_pos early, if_neg late]
      dsimp only
      rw [if_pos early, if_neg fun waits => late ((still second first (Ne.symm same)).symm.trans waits)]
      exact ⟨rfl, .refl _⟩
    · rw [if_neg early, if_pos late]
      dsimp only
      rw [if_neg fun waits => early ((still first second same).symm.trans waits)]
      exact ⟨rfl, .refl _⟩
    · rw [if_neg early, if_neg late, if_neg early]
      exact ⟨rfl, .refl _⟩

private theorem Told.givenUp (told : Told a b) {left right : List Request} (same : left ~ right) (fault : Fault) :
    Told ((left.map (Link.given fault)).foldl Clients.hear a) ((right.map (Link.given fault)).foldl Clients.hear b) := by
  induction same generalizing a b with
  | nil => exact told
  | cons request _ ih => exact ih (told.answer request.call _)
  | swap first second left =>
    have either := (told.answer second.call (.error fault)).answer first.call (.error fault)
    exact (either.trans (answer_comm b second.call first.call _)).hear _
  | trans _ _ earlier later => exact (earlier told).trans (later ⟨rfl, .refl _⟩)

/-- Callers on two connections that differ in the size of the queue. -/
structure Level (a b : Clients) : Prop extends Told a b where
  peers : a.link.Peers b.link
  mine : a.link.Sound
  yours : b.link.Sound
  fresh : a.link.signals = []
  fresh' : b.link.signals = []

private theorem Level.settle (level : Level a b) : Level a.settle b.settle := by
  have work := level.peers.work level.mine level.yours level.fresh level.fresh'
  obtain ⟨peers, heard, ending, fault, left, right, ⟨admitted, told, -⟩, ⟨admitted', told', -⟩, ⟨same, -⟩, -⟩ := work
  have begun : Told { a with link := { a.link.work with signals := [] } }
      { b with link := { b.link.work with signals := [] } } :=
    ⟨level.calls, level.finished⟩
  have ends : Told a.settle b.settle := by
    change Told (a.link.work.signals.foldl Clients.hear { a with link := { a.link.work with signals := [] } })
      (b.link.work.signals.foldl Clients.hear { b with link := { b.link.work with signals := [] } })
    rw [told, told']
    simp only [List.foldl_append, foldl_admitted]
    exact ((begun.hear heard).hear ending).givenUp same fault
  have sound := level.mine.work.1.sound
  have sound' := level.yours.work.1.sound
  refine ⟨ends, ?_, ?_, ?_, ?_, ?_⟩
  all_goals simp only [link_settle]
  · exact peers.collect
  · exact { sound with }
  · exact { sound' with }

private theorem Level.request (level : Level a b) (call : Nat) (verb : Verb) (targets : List Bytes) :
    Level (a.request call verb targets) (b.request call verb targets) := by
  obtain ⟨same, peers⟩ := level.peers.request level.mine level.yours call verb targets
  have sound := level.mine.requested call verb targets
  have sound' := level.yours.requested call verb targets
  have fresh : (a.link.request call verb targets).2.signals = [] := by
    obtain ⟨queue, waiting, asked⟩ := Link.request_eq a.link call verb targets
    rw [asked]
    exact level.fresh
  have fresh' : (b.link.request call verb targets).2.signals = [] := by
    obtain ⟨queue, waiting, asked⟩ := Link.request_eq b.link call verb targets
    rw [asked]
    exact level.fresh'
  unfold Clients.request
  rcases mine : a.link.request call verb targets with ⟨result, link⟩
  rcases yours : b.link.request call verb targets with ⟨again, other⟩
  rw [mine] at same peers sound fresh
  rw [yours] at same peers sound' fresh'
  cases same
  have waits : Told { a with link, calls := a.calls ++ [call] } { b with link := other, calls := b.calls ++ [call] } :=
    ⟨congrArg (· ++ [call]) level.calls, level.finished⟩
  cases result with
  | none => exact ⟨waits, peers, sound, sound', fresh, fresh'⟩
  | some result =>
    refine ⟨waits.answer call result, ?_, ?_, ?_, ?_, ?_⟩
    all_goals simpa only [link_answer]

/-- What a step does at once it does on both, and returns the same. -/
theorem Level.begin (level : Level a b) (step : Step) (stays : ∀ call, step ≠ .abandon call) (goesOn : step ≠ .close) :
    (b.begin step).1 = (a.begin step).1 ∧ Level (a.begin step).2 (b.begin step).2 := by
  have closed : b.link.closed = a.link.closed := (congrArg Link.closed level.peers.same).trans rfl
  have aside {link other : Link} (peers : link.Peers other) (sound : link.Sound) (sound' : other.Sound)
      (fresh : link.signals = []) (fresh' : other.signals = []) : Level { a with link } { b with link := other } :=
    ⟨⟨level.calls, level.finished⟩, peers, sound, sound', fresh, fresh'⟩
  have seen (observers : Observers Fault) : Level { a with link := { a.link with observers } }
      { b with link := { b.link with observers } } :=
    aside (level.peers.withObservers observers) { level.mine with } { level.yours with } level.fresh level.fresh'
  cases step with
  | network event =>
    refine ⟨rfl, aside (level.peers.meet event) ?_ ?_ ?_ ?_⟩
    all_goals cases event
    all_goals first | exact level.fresh | exact level.fresh' | exact { level.mine with } | exact { level.yours with }
  | request call verb targets =>
    unfold Clients.begin
    dsimp only
    rw [closed]
    split
    · exact ⟨rfl, level⟩
    · exact ⟨rfl, level.request call verb targets⟩
  | observe kind =>
    obtain ⟨same, peers⟩ := level.peers.observe kind
    unfold Clients.begin
    dsimp only
    rw [closed]
    split
    · exact ⟨rfl, level⟩
    · rw [same]
      rw [Link.observe_new, Link.observe_new] at peers ⊢
      exact ⟨rfl, aside peers { level.mine with } { level.yours with } level.fresh level.fresh'⟩
  | poll observer =>
    unfold Clients.begin
    dsimp only
    rw [level.peers.observed]
    split
    · exact ⟨rfl, level⟩
    · exact ⟨rfl, seen _⟩
  | drain observer =>
    unfold Clients.begin
    dsimp only
    rw [level.peers.observed]
    split
    · exact ⟨rfl, level⟩
    · exact ⟨rfl, seen _⟩
  | drop observer =>
    unfold Clients.begin
    dsimp only
    rw [level.peers.observed]
    exact ⟨rfl, seen _⟩
  | abandon call => exact absurd rfl (stays call)
  | close => exact absurd rfl goesOn

private theorem Level.glimpse (level : Level a b) (reply : Reply) : b.glimpse reply = a.glimpse reply := by
  have outbound : b.link.outbound = a.link.outbound := (congrArg Link.outbound level.peers.same).trans rfl
  have finished : (b.finished : Multiset (Nat × Except Fault Unit)) = a.finished := Quotient.sound level.finished
  unfold Clients.glimpse
  rw [finished, outbound, level.peers.observed]

/-- The answers to a whole script do not show how long the queue is. -/
theorem Level.glimpses (level : Level a b) (script : List Step) (stays : ∀ call, .abandon call ∉ script)
    (goesOn : .close ∉ script) : b.glimpses script = a.glimpses script := by
  induction script generalizing a b with
  | nil => rfl
  | cons step script ih =>
    obtain ⟨same, begun⟩ := level.begin step (fun call this => stays call (this ▸ List.mem_cons_self))
      fun this => goesOn (this ▸ List.mem_cons_self)
    have after : Level (a.step step).2 (b.step step).2 := begun.settle
    have reply : (b.step step).1 = (a.step step).1 := same
    have later := ih after (fun call member => stays call (List.mem_cons_of_mem _ member))
      fun member => goesOn (List.mem_cons_of_mem _ member)
    change (b.step step).2.glimpse (b.step step).1 :: glimpses (b.step step).2 script = _
    rw [after.glimpse, reply, later]
    rfl

theorem level_start (connection : Connection) (first second : Nat) :
    Level (.start connection first) (.start connection second) := by
  have sound (size : Nat) : (Link.ofConnection connection size).Sound :=
    ⟨Nat.lt_of_lt_of_le Nat.one_pos (Nat.le_max_right ..), absurd rfl, absurd rfl, nofun⟩
  exact ⟨⟨rfl, .refl _⟩, ⟨rfl, rfl⟩, sound first, sound second, rfl, rfl⟩

end

end Clients

end Subscriber
