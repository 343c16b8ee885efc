import Subscriber.Proofs.ByteStreams
import Subscriber.Proofs.ConformingServer
import Subscriber.Proofs.LinkFailure

/-! Requests in flight and a server that keeps to the protocol. What is pending stays aligned with what the
server has read and not answered, so the answers of the server meet the requests they are meant for. -/

namespace Subscriber

def Writer.unsent : Writer → Bytes
  | .sending bytes => bytes
  | .idle | .stopped => []

/-- A reply that meets no request, or one of another verb. -/
def Notice.Misplaced : Notice → Prop
  | .unsolicitedAcknowledgement _ | .acknowledgementOutOfOrder _ _ | .unmatchedRefusal _ => True
  | _ => False

def Signal.answer? {ε : Type} : Signal ε → Option (Nat × Except ε Unit)
  | .answer call result => some (call, result)
  | _ => none

def Request.pending (request : Request) : Pending :=
  { call := request.call, verb := request.verb, remaining := request.targets.length }

/-- What is pending when the server has still to answer these requests and has acknowledged so many
targets of the first. -/
def outstanding (acknowledged : Nat) : List Request → List Pending
  | [] => []
  | request :: later =>
    { request.pending with remaining := request.targets.length - acknowledged } :: later.map Request.pending

theorem outstanding_zero (requests : List Request) : outstanding 0 requests = requests.map Request.pending := by
  cases requests <;> rfl

private theorem outstanding_append {acknowledged : Nat} {requests : List Request}
    (fresh : requests = [] → acknowledged = 0) (request : Request) :
    outstanding acknowledged (requests ++ [request]) = outstanding acknowledged requests ++ [request.pending] := by
  cases requests with
  | nil => rw [fresh rfl, outstanding_zero]; rfl
  | cons first later => simp [outstanding]

theorem Verb.command_inj {a b : Verb} {first second : List Bytes}
    (same : (a.command first).frame = (b.command second).frame) : a = b ∧ first = second := by
  simp only [Verb.command, Command.frame, Command.ofName, Command.words, List.map_cons, Frame.array.injEq,
    List.cons.injEq, Frame.bulk.injEq, Option.some.injEq] at same
  refine ⟨?_, List.map_injective_iff.mpr (fun _ _ equal => by simpa using equal) same.2⟩
  have names := same.1
  cases a <;> cases b <;> first | rfl | exact absurd names (by decide)

namespace Link

/-- How a connection stands to its server while all goes well. Of the requests in line, `answered` have
their answers, `unanswered` have been taken up to be written, and the others wait; `before` are the answers
that callers have heard. -/
structure Serves (line answered unanswered : List Request) (server : Server)
    (before : List (Nat × Except Fault Unit)) (link : Link) : Prop where
  alive : link.failure = none
  reading : link.reading = true
  unclosed : link.closed = false
  running : link.writer ≠ .stopped
  order : line = answered ++ unanswered ++ link.queue ++ link.waiting
  full : link.waiting ≠ [] → link.capacity ≤ link.queue.length
  aimed : ∀ request ∈ line, request.targets ≠ []
  sent : link.outbound.accepted ++ link.writer.unsent =
    Frame.encodeItems ((answered ++ unanswered).map Request.frame)
  level : answered.length = server.given.length
  pending : link.pending = outstanding server.acknowledged unanswered
  started : ∀ request ∈ unanswered.head?, server.acknowledged < request.targets.length
  untouched : unanswered = [] → server.acknowledged = 0
  told : before ++ link.signals.filterMap Signal.answer? = (answered.map Request.call).zip server.given
  quiet : ∀ notice, .notice notice ∈ link.signals → ¬ notice.Misplaced

namespace Serves
variable {line answered unanswered : List Request} {server : Server} {before : List (Nat × Except Fault Unit)} {link : Link}

/-- Signals that answer nobody and report nothing misplaced do not matter, and neither do observers. -/
theorem signalled (serves : link.Serves line answered unanswered server before) (observers : Observers Fault)
    (more : List (Signal Fault)) (silent : more.filterMap Signal.answer? = [])
    (quiet : ∀ notice, .notice notice ∈ more → ¬ notice.Misplaced) :
    Serves line answered unanswered server before { link with observers, signals := link.signals ++ more } := by
  refine { serves with told := ?_, quiet := ?_ }
  · rw [List.filterMap_append, silent, List.append_nil]
    exact serves.told
  · intro notice member
    rcases List.mem_append.mp member with earlier | new
    · exact serves.quiet notice earlier
    · exact quiet notice new

private theorem next_request (serves : link.Serves line answered unanswered server before) {verb : Verb} {targets : List Bytes}
    (next : ((answered ++ unanswered).map Request.frame)[server.given.length]? = some (verb.command targets).frame) :
    ∃ request later, unanswered = request :: later ∧ request.verb = verb ∧ request.targets = targets := by
  rw [← serves.level, List.map_append, List.getElem?_append_right (by simp)] at next
  cases unanswered with
  | nil => simp at next
  | cons request later =>
    simp only [List.length_map, Nat.sub_self, List.map_cons, List.getElem?_cons_zero, Option.some.injEq] at next
    obtain ⟨verbs, targets⟩ := Verb.command_inj next
    exact ⟨request, later, rfl, verbs, targets⟩

theorem answer {request : Request} {later : List Request}
    (serves : link.Serves line answered (request :: later) server before) (result : Except Fault Unit) :
    Serves line (answered ++ [request]) later { given := server.given ++ [result] } before
      ({ link with pending := later.map Request.pending }.answer request.call result) := by
  have moved : answered ++ [request] ++ later = answered ++ request :: later := by simp
  refine { serves with
    order := ?_, sent := ?_, level := ?_, pending := ?_, started := ?_, untouched := ?_, told := ?_, quiet := ?_ }
  · rw [moved]
    exact serves.order
  · rw [moved]
    exact serves.sent
  · simp [serves.level]
  · exact (outstanding_zero later).symm
  · intro next member
    have inLine : next ∈ line := by
      rw [serves.order]
      simp [List.mem_of_mem_head? member]
    exact List.length_pos_iff.mpr (serves.aimed next inLine)
  · exact fun _ => rfl
  · simp only [Link.answer, Link.signal, List.filterMap_append, List.map_append]
    rw [← List.append_assoc, serves.told, List.zip_append (by simp [serves.level])]
    rfl
  · intro notice member
    rcases List.mem_append.mp member with earlier | new
    · exact serves.quiet notice earlier
    · cases List.mem_singleton.mp new

/-- An acknowledgement counts for the oldest request, which has its answer when none is missing. -/
theorem acknowledge {request : Request} {later : List Request}
    (serves : link.Serves line answered (request :: later) server before) :
    (server.acknowledged + 1 < request.targets.length →
      Serves line answered (request :: later) { server with acknowledged := server.acknowledged + 1 } before
        (link.acknowledge request.verb)) ∧
    (server.acknowledged + 1 = request.targets.length →
      Serves line (answered ++ [request]) later { given := server.given ++ [.ok ()] } before
        (link.acknowledge request.verb)) := by
  have due : link.pending =
      { request.pending with remaining := request.targets.length - server.acknowledged } ::
        later.map Request.pending := serves.pending
  constructor
  · intro more
    have several : ¬ request.targets.length - server.acknowledged ≤ 1 := by omega
    have counted : link.acknowledge request.verb =
        { link with pending := outstanding (server.acknowledged + 1) (request :: later) } := by
      simp only [Link.acknowledge, due, Request.pending, ne_eq, not_true_eq_false, if_false, if_neg several, outstanding,
        Nat.sub_sub]
    rw [counted]
    refine { serves with pending := rfl, started := ?_, untouched := nofun }
    intro first member
    cases member
    exact more
  · intro last
    have single : request.targets.length - server.acknowledged ≤ 1 := by omega
    have popped : link.acknowledge request.verb =
        { link with pending := later.map Request.pending }.answer request.call (.ok ()) := by
      simp only [Link.acknowledge, due, Request.pending, ne_eq, not_true_eq_false, if_false, if_pos single]
    rw [popped]
    exact serves.answer (.ok ())

private theorem refuse {request : Request} {later : List Request} (text : String)
    (serves : link.Serves line answered (request :: later) server before) :
    Serves line (answered ++ [request]) later { given := server.given ++ [.error (.server text)] } before
      (link.refuse text) := by
  have due : link.pending =
      { request.pending with remaining := request.targets.length - server.acknowledged } ::
        later.map Request.pending := serves.pending
  have popped : link.refuse text =
      { link with pending := later.map Request.pending }.answer request.call (.error (.server text)) := by
    simp only [Link.refuse, due, Request.pending]
  rw [popped]
  exact serves.answer _

/-- Whatever the server may say next, it stays in step with the connection. -/
theorem receive {remark : Remark} {after : Server} (serves : link.Serves line answered unanswered server before)
    (spoken : Server.Utters ((answered ++ unanswered).map Request.frame) server remark after) :
    ∃ answered' unanswered', answered' ++ unanswered' = answered ++ unanswered ∧
      Serves line answered' unanswered' after before (link.receive remark.push) := by
  have message (message : Message) :
      Serves line answered unanswered server before (link.receive (.message message)) := by
    unfold Link.receive
    dsimp only
    split
    · simpa using serves.signalled (link.observers.deliver message) [] rfl nofun
    · exact serves.signalled (link.observers.deliver message) [.observed] rfl (by simp)
  cases spoken with
  | message => exact ⟨answered, unanswered, rfl, message _⟩
  | patternMessage => exact ⟨answered, unanswered, rfl, message _⟩
  | pong =>
    exact ⟨answered, unanswered, rfl, serves.signalled link.observers [.notice .pong] rfl (by simp [Notice.Misplaced])⟩
  | acknowledges next more =>
    obtain ⟨request, later, rfl, rfl, rfl⟩ := serves.next_request next
    exact ⟨answered, request :: later, rfl, serves.acknowledge.1 more⟩
  | completes next last =>
    obtain ⟨request, later, rfl, rfl, rfl⟩ := serves.next_request next
    exact ⟨answered ++ [request], later, by simp, serves.acknowledge.2 last⟩
  | refuses next untouched oneLine =>
    obtain ⟨request, later, rfl, -, -⟩ := serves.next_request next
    exact ⟨answered ++ [request], later, by simp, serves.refuse _⟩

private theorem receiveAll {transcript : List (Remark × Server)} (serves : link.Serves line answered unanswered server before)
    (conforms : Server.Conforms ((answered ++ unanswered).map Request.frame) server transcript) :
    ∃ answered' unanswered', answered' ++ unanswered' = answered ++ unanswered ∧
      Serves line answered' unanswered' (server.after transcript) before
        (link.receiveAll (Server.frames transcript)) := by
  induction transcript generalizing answered unanswered server link with
  | nil => exact ⟨answered, unanswered, rfl, serves⟩
  | cons entry transcript ih =>
    obtain ⟨remark, next⟩ := entry
    obtain ⟨done, open', same, heard⟩ := serves.receive conforms.1
    obtain ⟨answered', unanswered', all, last⟩ := ih heard (same ▸ conforms.2)
    refine ⟨answered', unanswered', all.trans same, ?_⟩
    rw [← Remark.ofFrame_frame] at last
    exact last

end Serves

theorem inbound_receive (link : Link) (push : Push) : (link.receive push).inbound = link.inbound := by
  obtain ⟨pending, signals, received⟩ := receive_eq link push
  rw [received]

private theorem inbound_receiveAll (frames : List Frame) (link : Link) :
    (link.receiveAll frames).inbound = link.inbound := by
  induction frames generalizing link with
  | nil => rfl
  | cons frame frames ih => exact (ih _).trans (inbound_receive link _)

/-- The server's bytes, as they arrive: what is unread begins with what the server said next. -/
structure Follows (link : Link) (transcript : List (Remark × Server)) : Prop where
  start : link.inbound.unread <+: Frame.encodeItems (Server.frames transcript)
  faultless : Arrival.Faultless link.inbound.queue
  goesOn : link.inbound.ended = false

/-- Reading takes the remarks whose last byte has arrived, and no others. -/
theorem Serves.read {line answered unanswered : List Request} {server : Server}
    {before : List (Nat × Except Fault Unit)} {link : Link} {transcript : List (Remark × Server)}
    (serves : link.Serves line answered unanswered server before) (follows : link.Follows transcript)
    (conforms : Server.Conforms ((answered ++ unanswered).map Request.frame) server transcript)
    (alive : link.read.failure = none) :
    ∃ past later answered' unanswered', transcript = past ++ later ∧
      answered' ++ unanswered' = answered ++ unanswered ∧
      Serves line answered' unanswered' (server.after past) before link.read ∧
      link.inbound.unread = Frame.encodeItems (Server.frames past) ++ link.read.inbound.unread ∧
      link.read.Follows later ∧
      ∀ entry ∈ later.head?, link.read.inbound.unread.length < entry.1.frame.encode.length := by
  have unfailed := readAll_unfailed serves.reading alive
  obtain ⟨found, last, split, frames, parts, faultless, goesOn, short⟩ :=
    Inbound.readOnto_of_prefix [] conforms.lined follows.start follows.faultless follows.goesOn unfailed
  obtain ⟨past, later, rfl, rfl, rfl⟩ := List.map_eq_append_iff.mp split
  have received : link.read = Link.receiveAll { link with inbound := link.inbound.readAll.rest } (Server.frames past) := by
    rw [read_complete serves.reading unfailed, passed, Inbound.readAll, frames, List.reverse_nil, List.nil_append]
    exact congrArg _ (Server.asRead_frames past)
  have inbound : link.read.inbound = link.inbound.readAll.rest := by
    rw [received]
    exact inbound_receiveAll _ _
  have moved : Serves line answered unanswered server before { link with inbound := link.inbound.readAll.rest } :=
    { serves with }
  obtain ⟨answered', unanswered', same, heard⟩ := moved.receiveAll (Server.conforms_append.mp conforms).1
  rw [← received] at heard
  have start := follows.start
  rw [parts, Server.frames_append, Frame.encodeItems_append] at start
  refine ⟨past, later, answered', unanswered', rfl, same, heard, ?_, ⟨?_, ?_, ?_⟩, ?_⟩
  · rw [inbound]
    exact parts
  · rw [inbound]
    exact (List.prefix_append_right_inj _).mp start
  · rw [inbound]
    exact faultless
  · rw [inbound]
    exact goesOn
  · rw [inbound]
    intro entry member
    exact short _ (by simp [Option.mem_def.mp member])

theorem send_alive {link : Link} {bytes : Bytes} (alive : (link.send bytes).failure = none) :
    ∃ writer outbound, link.send bytes = { link with writer, outbound } ∧ writer ≠ .stopped ∧
      outbound.accepted ++ writer.unsent = link.outbound.accepted ++ bytes := by
  unfold send at alive ⊢
  split at alive
  next outbound sent =>
    have all := (Outbound.send_accepted sent).1 rfl
    exact ⟨.idle, outbound, rfl, nofun, by simpa [Writer.unsent] using all⟩
  next unsent outbound sent =>
    exact ⟨.sending unsent, outbound, rfl, nofun, (Outbound.send_accepted sent).2 unsent rfl⟩
  next cause outbound sent =>
    have failed := failure_fail { link with outbound } (.io cause)
    cases ((stopWriting_writes _).keeps.alive alive).symm.trans failed

/-- Whoever gets the space of the oldest request is told so, and nobody else is told anything. -/
theorem dequeue_eq (link : Link) (queue : List Request) : ∃ queue' waiting admitted,
    link.dequeue queue = { link with
      queue := queue', waiting, signals := link.signals ++ List.map Signal.admitted admitted } ∧
    queue' ++ waiting = queue ++ link.waiting ∧
    (waiting ≠ [] → link.waiting ≠ [] ∧ queue'.length = queue.length + 1) := by
  unfold dequeue
  split
  next empty => exact ⟨queue, [], [], by simp [empty], by simp [empty], by simp⟩
  next first others waiting =>
    dsimp only
    split
    · exact ⟨queue ++ [first], others, [], by simp, by simp [waiting], by simp [waiting]⟩
    · exact ⟨queue ++ [first], others, [first.call], rfl, by simp [waiting], by simp [waiting]⟩

theorem answers_admitted {ε : Type} (calls : List Nat) :
    (calls.map (Signal.admitted : Nat → Signal ε)).filterMap Signal.answer? = [] := by
  rw [List.filterMap_map]
  exact List.filterMap_eq_nil_iff.mpr fun _ _ => rfl

namespace Serves
variable {line answered unanswered : List Request} {server : Server} {before : List (Nat × Except Fault Unit)} {link : Link}

private theorem takeUp {request : Request} {queue : List Request} (serves : link.Serves line answered unanswered server before)
    (front : link.queue = request :: queue) (idle : link.writer = .idle)
    (alive : ((link.dequeue queue).perform request).failure = none) :
    Serves line answered (unanswered ++ [request]) server before ((link.dequeue queue).perform request) := by
  obtain ⟨queue', waiting, admitted, dequeued, order, size⟩ := dequeue_eq link queue
  rw [dequeued] at alive ⊢
  unfold perform at alive ⊢
  simp only [serves.alive] at alive ⊢
  obtain ⟨writer, outbound, sent, running, parts⟩ := send_alive alive
  rw [sent]
  have line' : line = answered ++ (unanswered ++ [request]) ++ queue' ++ waiting := by
    rw [List.append_assoc, order, serves.order, front]
    simp
  have before' := serves.sent
  rw [idle, Writer.unsent, List.append_nil] at before'
  refine { serves.signalled link.observers _ (answers_admitted admitted) (by simp) with
    alive := rfl, running, order := line', full := ?_, sent := ?_, pending := ?_, started := ?_, untouched := ?_ }
  · intro crowded
    have filled := serves.full (size crowded).1
    rw [front, List.length_cons] at filled
    exact (size crowded).2 ▸ filled
  · have frames : (answered ++ (unanswered ++ [request])).map Request.frame =
        (answered ++ unanswered).map Request.frame ++ [request.frame] := by simp
    rw [parts, before', frames, Frame.encodeItems_append, Frame.encodeItems, Frame.encodeItems, List.append_nil]
    rfl
  · rw [outstanding_append serves.untouched, ← serves.pending]
    rfl
  · intro first member
    cases unanswered with
    | nil =>
      cases member
      rw [serves.untouched rfl]
      exact List.length_pos_iff.mpr (serves.aimed request (by rw [serves.order, front]; simp))
    | cons oldest later => exact serves.started first member
  · intro empty
    simp at empty

private theorem serve {unanswered : List Request} {link : Link} (serves : link.Serves line answered unanswered server before)
    (alive : link.serve.failure = none) :
    ∃ unanswered', unanswered <+: unanswered' ∧ Serves line answered unanswered' server before link.serve := by
  unfold Link.serve at alive ⊢
  split at alive
  · exact ⟨unanswered, List.prefix_refl _, serves⟩
  next request queue front =>
    split at alive
    next idle =>
      have shorter := Nat.lt_of_le_of_lt (backlog_perform (link.dequeue queue) request) (backlog_dequeue front)
      have taken := serves.takeUp front idle ((serve_writes _).keeps.alive alive)
      obtain ⟨unanswered', longer, done⟩ := taken.serve alive
      rw [if_pos idle]
      exact ⟨unanswered', (List.prefix_append _ _).trans longer, done⟩
    next busy =>
      rw [if_neg busy]
      exact ⟨unanswered, List.prefix_refl _, serves⟩
termination_by link.backlog

private theorem write (serves : link.Serves line answered unanswered server before) (alive : link.write.failure = none) :
    ∃ unanswered', unanswered <+: unanswered' ∧ Serves line answered unanswered' server before link.write := by
  unfold Link.write at alive ⊢
  split at alive
  next unsent sending =>
    obtain ⟨writer, outbound, sent, running, parts⟩ := send_alive ((serve_writes _).keeps.alive alive)
    have moved : Serves line answered unanswered server before (link.send unsent) := by
      rw [sent]
      refine { serves with running, sent := ?_ }
      rw [parts, ← serves.sent, sending]
      rfl
    exact moved.serve alive
  · exact serves.serve alive

private theorem wind (serves : link.Serves line answered unanswered server before) : link.wind = link := by
  unfold Link.wind
  rw [serves.unclosed]

theorem request (serves : link.Serves line answered unanswered server before) (request : Request)
    (aimed : request.targets ≠ []) : ∃ queue waiting,
      link.request request.call request.verb request.targets = (none, { link with queue, waiting }) ∧
      Serves (line ++ [request]) answered unanswered server before { link with queue, waiting } := by
  have some : request.targets.isEmpty = false := by simpa using aimed
  have aimed' : ∀ other ∈ line ++ [request], other.targets ≠ [] := by
    intro other member
    rcases List.mem_append.mp member with earlier | last
    · exact serves.aimed other earlier
    · exact List.mem_singleton.mp last ▸ aimed
  simp only [Link.request, some, Bool.false_eq_true, if_false, if_neg serves.running]
  by_cases room : link.queue.length < link.capacity
  · have nobody : link.waiting = [] := by
      by_cases crowded : link.waiting = []
      · exact crowded
      · exact absurd (serves.full crowded) (Nat.not_le.mpr room)
    refine ⟨link.queue ++ [request], link.waiting, by rw [if_pos room], ?_⟩
    refine { serves with order := ?_, full := fun crowded => absurd nobody crowded, aimed := aimed' }
    rw [serves.order, nobody]
    simp
  · refine ⟨link.queue, link.waiting ++ [request], by rw [if_neg room], ?_⟩
    refine { serves with order := ?_, full := fun _ => Nat.not_lt.mp room, aimed := aimed' }
    rw [serves.order]
    simp

theorem giveUp (serves : link.Serves line answered unanswered server before) (call : Nat) :
    Serves (answered ++ unanswered ++ link.queue ++ link.waiting.filter (·.call != call)) answered unanswered server
      before (link.abandon call) := by
  refine { serves with order := rfl, full := fun crowded => serves.full fun empty => crowded ?_, aimed := ?_ }
  · rw [Link.abandon, empty]
    rfl
  · intro request member
    refine serves.aimed request ?_
    rw [serves.order]
    exact (List.filter_sublist.append_left _).subset member

theorem abandon (serves : link.Serves line answered unanswered server before)
    (distinct : (line.map Request.call).Nodup) (call : Nat) :
    Serves (if link.waiting.any (·.call == call) then line.filter (·.call != call) else line) answered unanswered server
      before (link.abandon call) := by
  have left : (if link.waiting.any (·.call == call) then line.filter (·.call != call) else line) =
      answered ++ unanswered ++ link.queue ++ link.waiting.filter (·.call != call) := by
    split
    next inWaiting =>
      obtain ⟨given, waits, same⟩ := List.any_eq_true.mp inWaiting
      have others : (answered ++ unanswered ++ link.queue).filter (·.call != call) =
          answered ++ unanswered ++ link.queue := by
        rw [serves.order, List.map_append] at distinct
        refine List.filter_eq_self.mpr fun request member => bne_iff_ne.mpr fun equal => ?_
        exact (List.nodup_append.mp distinct).2.2 _ (List.mem_map_of_mem member) _ (List.mem_map_of_mem waits)
          (equal.trans (beq_iff_eq.mp same).symm)
      rw [serves.order, List.filter_append, others]
    next outside =>
      have nobody : link.waiting.filter (·.call != call) = link.waiting := by
        refine List.filter_eq_self.mpr fun request member => bne_iff_ne.mpr fun same => ?_
        exact outside (List.any_eq_true.mpr ⟨request, member, beq_iff_eq.mpr same⟩)
      rw [nobody, serves.order]
  exact left ▸ serves.giveUp call

/-- Everything that can be done without waiting, as long as nothing fails. -/
theorem work {transcript : List (Remark × Server)} (serves : link.Serves line answered unanswered server before)
    (follows : link.Follows transcript)
    (conforms : Server.Conforms ((answered ++ unanswered).map Request.frame) server transcript)
    (alive : link.work.failure = none) :
    ∃ past later answered' unanswered', transcript = past ++ later ∧
      answered ++ unanswered <+: answered' ++ unanswered' ∧
      Serves line answered' unanswered' (server.after past) before link.work ∧
      link.inbound.unread = Frame.encodeItems (Server.frames past) ++ link.work.inbound.unread ∧
      link.work.Follows later ∧
      ∀ entry ∈ later.head?, link.work.inbound.unread.length < entry.1.frame.encode.length := by
  have written : link.read.write.failure = none := (wind_writes _).keeps.alive alive
  have readWell : link.read.failure = none := (write_writes _).keeps.alive written
  obtain ⟨past, later, answered', opened, rfl, same, heard, parts, follows', short⟩ :=
    serves.read follows conforms readWell
  obtain ⟨unanswered', longer, done⟩ := heard.write written
  have inbound : link.work.inbound = link.read.inbound := ((write_writes _).trans (wind_writes _)).inbound
  have idle : link.work = link.read.write := done.wind
  refine ⟨past, later, answered', unanswered', rfl, ?_, idle ▸ done, ?_, ⟨?_, ?_, ?_⟩, ?_⟩
  · rw [← same]
    exact (List.prefix_append_right_inj _).mpr longer
  all_goals rw [inbound]
  · exact parts
  · exact follows'.start
  · exact follows'.faultless
  · exact follows'.goesOn
  · exact short

end Serves

end Link

end Subscriber
