import Subscriber.Proofs.Pipelining

/-! Conversations with a server that keeps to the protocol and refuses nothing. Whoever makes the requests and whoever
gives them up: what one pass of a connection answers are the oldest requests, in the order in which they were made. -/

namespace Subscriber

def Remark.Grants : Remark → Prop
  | .refusal _ => False
  | .message .. | .patternMessage .. | .pong _ | .acknowledgement .. => True

/-- Who refuses nothing says yes to everything. -/
theorem Server.Conforms.granted {commands : List Frame} {server : Server} {transcript : List (Remark × Server)}
    (conforms : Conforms commands server transcript) (grants : ∀ entry ∈ transcript, entry.1.Grants) :
    ∃ count, (server.after transcript).given = server.given ++ List.replicate count (.ok ()) := by
  induction transcript generalizing server with
  | nil => exact ⟨0, (List.append_nil _).symm⟩
  | cons entry transcript ih =>
    obtain ⟨remark, next⟩ := entry
    obtain ⟨spoken, rest⟩ := conforms
    have willing : remark.Grants := grants (remark, next) List.mem_cons_self
    obtain ⟨count, given⟩ := ih rest fun other member => grants other (List.mem_cons_of_mem _ member)
    change ∃ count, (next.after transcript).given = _
    rw [given]
    cases spoken with
    | completes => exact ⟨count + 1, by simp [List.replicate_succ]⟩
    | refuses => exact willing.elim
    | _ => exact ⟨count, rfl⟩

namespace Link

theorem unread_arrive (link : Link) (piece : Bytes) :
    (link.meet (.arrive (.piece piece))).inbound.unread = link.inbound.unread ++ piece := by
  change Inbound.unread { link.inbound with queue := link.inbound.queue ++ [.piece piece] } = _
  simp only [Inbound.unread, Arrival.bytes_append, Arrival.bytes, List.append_nil, List.append_assoc]

section
variable {link : Link} {future : List (Remark × Server)}

theorem Follows.arrive (follows : link.Follows future) {piece : Bytes}
    (genuine : link.inbound.unread ++ piece <+: Frame.encodeItems (Server.frames future)) :
    (link.meet (.arrive (.piece piece))).Follows future := by
  refine ⟨unread_arrive link piece ▸ genuine, fun cause member => ?_, follows.goesOn⟩
  rcases List.mem_append.mp member with earlier | last
  · exact follows.faultless cause earlier
  · cases List.mem_singleton.mp last

theorem Follows.said (follows : link.Follows future) (entry : Remark × Server) : link.Follows (future ++ [entry]) := by
  refine ⟨?_, follows.faultless, follows.goesOn⟩
  rw [Server.frames_append, Frame.encodeItems_append]
  exact follows.start.trans (List.prefix_append _ _)

end

/-- The server finds in the bytes written to it the first of the commands taken up, and nothing else. -/
theorem Serves.heard {line answered unanswered : List Request} {server : Server} {before : List (Nat × Except Fault Unit)}
    {link : Link} (serves : link.Serves line answered unanswered server before) (limit : Nat) :
    ({ limit, buffer := link.outbound.accepted } : Decoder).drain.frames <+: (answered ++ unanswered).map Request.frame := by
  let reader : Decoder := { limit, buffer := link.outbound.accepted }
  have start : reader.buffer <+: Frame.encodeItems ((answered ++ unanswered).map Request.frame) := ⟨_, serves.sent⟩
  obtain ⟨whole, later, parts, found, -⟩ := Decoder.drainOnto_of_prefix [] (Request.lined_frames _) start
  have commands : whole.map Frame.asRead = whole := by
    have all := Request.asRead_frames (answered ++ unanswered)
    rw [parts, List.map_append] at all
    exact List.append_inj_left all (by simp)
  refine ⟨later, ?_⟩
  rw [parts, Decoder.drain, found, commands]
  rfl

section
variable {call : Nat} {link : Link}

private theorem admitted_receive {push : Push} (admitted : .admitted call ∈ (link.receive push).signals) :
    .admitted call ∈ link.signals := by
  have more {others : List (Signal Fault)} (silent : .admitted call ∉ others) (member : .admitted call ∈ link.signals ++ others) :
      .admitted call ∈ link.signals := (List.mem_append.mp member).resolve_right silent
  cases push with
  | message message =>
    unfold receive at admitted
    dsimp only at admitted
    split at admitted
    · exact admitted
    · exact more (by simp) admitted
  | acknowledgement verb =>
    unfold receive acknowledge at admitted
    dsimp only at admitted
    split at admitted
    · exact more (by simp) admitted
    · split at admitted
      · exact more (by simp) admitted
      · split at admitted
        · exact more (by simp) admitted
        · exact admitted
  | refusal text =>
    unfold receive refuse at admitted
    dsimp only at admitted
    split at admitted <;> exact more (by simp) admitted
  | _ => exact more (by simp) admitted

theorem admitted_receiveAll (frames : List Frame) (admitted : .admitted call ∈ (link.receiveAll frames).signals) :
    .admitted call ∈ link.signals := by
  induction frames generalizing link with
  | nil => exact admitted
  | cons frame frames ih => exact admitted_receive (ih admitted)

/-- Writing tells those who are let in, and nobody else of anything, as long as it does not fail. -/
theorem signals_serve {link : Link} (alive : link.serve.failure = none) :
    ∃ admitted, link.serve.signals = link.signals ++ List.map Signal.admitted admitted := by
  unfold serve at alive ⊢
  split at alive
  · exact ⟨[], by simp⟩
  next request queue front =>
    have shorter := Nat.lt_of_le_of_lt (backlog_perform (link.dequeue queue) request) (backlog_dequeue front)
    split at alive
    next idle =>
      obtain ⟨later, told⟩ := signals_serve alive
      obtain ⟨queue', waiting, admitted, dequeued, -⟩ := dequeue_eq link queue
      have performed := (serve_writes _).keeps.alive alive
      rw [if_pos idle, told]
      unfold perform at performed ⊢
      cases known : (link.dequeue queue).failure with
      | some fault =>
        rw [known] at performed
        cases known.symm.trans performed
      | none =>
        rw [known] at performed
        obtain ⟨writer, outbound, sent, -⟩ := send_alive performed
        refine ⟨admitted ++ later, ?_⟩
        dsimp only
        rw [sent, dequeued, List.map_append, List.append_assoc]
    next busy => exact ⟨[], by rw [if_neg busy]; simp⟩
termination_by link.backlog

private theorem signals_write (alive : link.write.failure = none) :
    ∃ admitted, link.write.signals = link.signals ++ List.map Signal.admitted admitted := by
  unfold write at alive ⊢
  split at alive
  next unsent _ =>
    obtain ⟨admitted, told⟩ := signals_serve alive
    obtain ⟨writer, outbound, sent, -⟩ := send_alive ((serve_writes _).keeps.alive alive)
    rw [sent] at told
    exact ⟨admitted, by rw [sent, told]⟩
  · exact signals_serve alive

end

/-- A connection and its server between two passes: `answered` requests have their answers and `unanswered` ones have
been taken up; of what the server has said, `past` has been read and `future` has not. -/
structure Converses (line answered unanswered : List Request) (past future : List (Remark × Server)) (fed : Bytes)
    (link : Link) : Prop where
  serves : link.Serves line answered unanswered (Server.after {} past)
    ((answered.map Request.call).zip (Server.after {} past).given)
  collected : link.signals = []
  follows : link.Follows future
  fed : fed = Frame.encodeItems (Server.frames past) ++ link.inbound.unread
  conforms : Server.Conforms ((answered ++ unanswered).map Request.frame) (Server.after {} past) future
  grants : ∀ entry ∈ future, entry.1.Grants

theorem converses_start (queueSize : Nat) : (ofConnection {} queueSize).Converses [] [] [] [] [] [] := by
  refine ⟨?_, rfl, ⟨List.nil_prefix, nofun, rfl⟩, rfl, trivial, nofun⟩
  exact ⟨rfl, rfl, rfl, nofun, rfl, nofun, nofun, rfl, rfl, rfl, nofun, fun _ => rfl, rfl, nofun⟩

private theorem zip_granted (requests : List Request) :
    (requests.map Request.call).zip (List.replicate requests.length (.ok () : Except Fault Unit)) =
      requests.map fun request => (request.call, .ok ()) := by
  induction requests with
  | nil => rfl
  | cons request requests ih => exact congrArg _ ih

namespace Converses
variable {line answered unanswered : List Request} {past future : List (Remark × Server)} {fed : Bytes} {link : Link}

theorem observed (converses : link.Converses line answered unanswered past future fed) (observers : Observers Fault) :
    Converses line answered unanswered past future fed { link with observers } :=
  have serves := converses.serves
  have follows := converses.follows
  { converses with serves := { serves with }, follows := { follows with } }

theorem accept (converses : link.Converses line answered unanswered past future fed) (acceptance : Acceptance) :
    Converses line answered unanswered past future fed (link.meet (.accept acceptance)) :=
  have serves := converses.serves
  have follows := converses.follows
  { converses with serves := { serves with }, follows := { follows with } }

theorem deliver (converses : link.Converses line answered unanswered past future fed) {piece : Bytes}
    (genuine : fed ++ piece <+: Frame.encodeItems (Server.frames (past ++ future))) :
    Converses line answered unanswered past future (fed ++ piece) (link.meet (.arrive (.piece piece))) := by
  have serves := converses.serves
  refine { converses with serves := { serves with }, follows := converses.follows.arrive ?_, fed := ?_ }
  · rw [converses.fed, Server.frames_append, Frame.encodeItems_append, List.append_assoc] at genuine
    exact (List.prefix_append_right_inj _).mp genuine
  · rw [unread_arrive, converses.fed, List.append_assoc]

theorem request (converses : link.Converses line answered unanswered past future fed) (request : Request)
    (aimed : request.targets ≠ []) : ∃ queue waiting,
      link.request request.call request.verb request.targets = (none, { link with queue, waiting }) ∧
      queue ++ waiting = link.queue ++ link.waiting ++ [request] ∧
      Converses (line ++ [request]) answered unanswered past future fed { link with queue, waiting } := by
  obtain ⟨queue, waiting, requested, serves⟩ := converses.serves.request request aimed
  have follows := converses.follows
  refine ⟨queue, waiting, requested, ?_, { converses with serves, follows := { follows with } }⟩
  have order := serves.order
  simp only [converses.serves.order, List.append_assoc, List.append_cancel_left_eq] at order
  rw [← order, List.append_assoc]

theorem giveUp (converses : link.Converses line answered unanswered past future fed) (call : Nat) :
    Converses (answered ++ unanswered ++ link.queue ++ link.waiting.filter (·.call != call)) answered unanswered past
      future fed (link.abandon call) :=
  have follows := converses.follows
  { converses with serves := converses.serves.giveUp call, follows := { follows with } }

theorem say (converses : link.Converses line answered unanswered past future fed) {limit : Nat} {remark : Remark}
    {after : Server} (grants : remark.Grants)
    (spoken : Server.Utters ({ limit, buffer := link.outbound.accepted } : Decoder).drain.frames
      (Server.after {} (past ++ future)) remark after) :
    Converses line answered unanswered past (future ++ [(remark, after)]) fed link := by
  refine { converses with follows := converses.follows.said _, conforms := ?_, grants := fun entry member => ?_ }
  · rw [Server.conforms_append, ← Server.after_append]
    exact ⟨converses.conforms, spoken.more (converses.serves.heard limit), trivial⟩
  · rcases List.mem_append.mp member with earlier | last
    · exact converses.grants entry earlier
    · exact List.mem_singleton.mp last ▸ grants

/-- What one pass comes to. The oldest requests have been granted, in the order in which they were made, and only then
have others been let in. -/
theorem work (converses : link.Converses line answered unanswered past future fed) (alive : link.work.failure = none) :
    ∃ newly opened heard later told admitted, future = heard ++ later ∧
      unanswered ++ link.queue ++ link.waiting = newly ++ (opened ++ link.work.queue ++ link.work.waiting) ∧
      Converses line (answered ++ newly) opened (past ++ heard) later fed { link.work with signals := [] } ∧
      link.work.signals = told ++ List.map Signal.admitted admitted ∧
      told.filterMap Signal.answer? = (newly.map fun request => (request.call, .ok ())) ∧
      ∀ call, .admitted call ∉ told := by
  obtain ⟨heard, later, answered', opened, rfl, longer, done, parts, follows, -⟩ :=
    converses.serves.work converses.follows converses.conforms alive
  obtain ⟨conformed, conforms⟩ := Server.conforms_append.mp converses.conforms
  obtain ⟨count, given⟩ := conformed.granted fun entry member => converses.grants entry (List.mem_append_left _ member)
  rw [← Server.after_append] at given done conforms
  -- Answers go down the line: those that have been given stay in front.
  obtain ⟨newly, rfl⟩ : answered <+: answered' := by
    refine List.prefix_of_prefix_length_le ((List.prefix_append answered unanswered).trans longer)
      (List.prefix_append answered' opened) ?_
    rw [done.level, given, List.length_append, converses.serves.level]
    exact Nat.le_add_right _ _
  have many : newly.length = count := by
    have level := done.level
    rw [given, List.length_append, List.length_append, List.length_replicate, converses.serves.level] at level
    exact Nat.add_left_cancel level
  have opened' : link.read.write.closed = false := (wind_writes _).closed.symm.trans done.unclosed
  have wound : link.work = link.read.write := by
    change link.read.write.wind = _
    rw [wind, opened']
  have written : link.read.write.failure = none := wound ▸ alive
  have readWell : link.read.failure = none := (write_writes _).keeps.alive written
  obtain ⟨admitted, signals⟩ := signals_write written
  rw [← wound] at signals
  have answers : link.read.signals.filterMap Signal.answer? = newly.map fun request => (request.call, .ok ()) := by
    have told := done.told
    rw [signals, List.filterMap_append, answers_admitted, List.append_nil, given, List.map_append,
      List.zip_append (by simp [converses.serves.level])] at told
    rw [List.append_cancel_left told, ← many, zip_granted]
  refine ⟨newly, opened, heard, later, link.read.signals, admitted, rfl, ?_, ?_, signals, answers, fun call member => ?_⟩
  · have order := done.order
    simp only [converses.serves.order, List.append_assoc, List.append_cancel_left_eq] at order
    simp only [List.append_assoc, order]
  · refine ⟨{ done with told := List.append_nil _, quiet := fun _ => nofun }, rfl,
      ⟨follows.start, follows.faultless, follows.goesOn⟩, ?_, ?_, ?_⟩
    · rw [converses.fed, parts, Server.frames_append, Frame.encodeItems_append, List.append_assoc]
    · exact conforms.more (longer.map Request.frame)
    · exact fun entry member => converses.grants entry (List.mem_append_right _ member)
  · rw [read_complete converses.serves.reading (readAll_unfailed converses.serves.reading readWell)] at member
    have before := admitted_receiveAll _ member
    rw [show Link.signals { link with inbound := link.inbound.readAll.rest } = [] from converses.collected] at before
    cases before

end Converses

end Link

end Subscriber
