import Subscriber.Proofs.Pipelining
import Subscriber.Proofs.WrittenCommands

/-! A connection on which all goes well and nothing is half done. Requests are written as soon as they are taken up, and
whatever the server says is read at once, so that one pass over the connection is a few equations. -/

namespace Subscriber

/-- What can be read on a connection as it comes. -/
structure Remark.Legible (remark : Remark) : Prop where
  lined : remark.frame.Lined
  within : Frame.Within Frame.defaultLimit [remark.frame]

def Remark.bytes (remarks : List Remark) : Bytes := Frame.encodeItems (remarks.map Remark.frame)

private theorem Remark.lined_frames {remarks : List Remark} (legible : ∀ remark ∈ remarks, remark.Legible) :
    Frame.LinedItems (remarks.map Remark.frame) := by
  induction remarks with
  | nil => trivial
  | cons remark remarks ih =>
    obtain ⟨first, later⟩ := List.forall_mem_cons.mp legible
    exact ⟨first.lined, ih later⟩

private theorem Remark.within_frames {remarks : List Remark} (legible : ∀ remark ∈ remarks, remark.Legible) :
    Frame.Within Frame.defaultLimit (remarks.map Remark.frame) := by
  intro frame member
  obtain ⟨remark, inside, rfl⟩ := List.mem_map.mp member
  exact (legible remark inside).within _ List.mem_cons_self

/-- The whole acknowledgement of a command: one for every target, with whatever counts. -/
def Remark.acknowledgements (verb : Verb) (counts : Nat → Int64) (targets : List Bytes) : List Remark :=
  targets.mapIdx fun index target => .acknowledgement verb target (counts index)

theorem Remark.acknowledgements_cons (verb : Verb) (counts : Nat → Int64) (target : Bytes) (targets : List Bytes) :
    acknowledgements verb counts (target :: targets) =
      .acknowledgement verb target (counts 0) :: acknowledgements verb (fun index => counts (index + 1)) targets :=
  List.mapIdx_cons

def Remark.ofMessage : Message → Remark
  | .channel channel payload => .message channel payload
  | .pattern pattern channel payload => .patternMessage pattern channel payload

/-- To the connection these remarks are the answer to the oldest request. -/
def Remark.Answer (remarks : List Remark) (request : Request) (result : Except Fault Unit) : Prop :=
  ∀ (link : Link) (others : List Pending), link.pending = request.pending :: others →
    link.receiveAll (remarks.map Remark.frame) = { link with pending := others }.answer request.call result

theorem Remark.acknowledgements_answer {request : Request} (aimed : request.targets ≠ []) (counts : Nat → Int64) :
    Remark.Answer (acknowledgements request.verb counts request.targets) request (.ok ()) := by
  -- The induction is on the targets that are not acknowledged yet, of which the connection knows the number.
  have counted (targets : List Bytes) (some : targets ≠ []) (counts : Nat → Int64) (link : Link) (others : List Pending)
      (oldest : link.pending = { request.pending with remaining := targets.length } :: others) :
      link.receiveAll ((acknowledgements request.verb counts targets).map Remark.frame) =
        { link with pending := others }.answer request.call (.ok ()) := by
    induction targets generalizing counts link with
    | nil => exact absurd rfl some
    | cons target targets ih =>
      have first : link.receive (.ofFrame (Remark.acknowledgement request.verb target (counts 0)).frame) =
          link.acknowledge request.verb := by
        rw [Remark.ofFrame_frame]
        rfl
      rw [acknowledgements_cons, List.map_cons, Link.receiveAll, List.foldl_cons, first]
      cases targets with
      | nil =>
        have last : link.acknowledge request.verb = { link with pending := others }.answer request.call (.ok ()) := by
          simp [Link.acknowledge, oldest, Request.pending]
        rw [last]
        rfl
      | cons next targets =>
        have more : link.acknowledge request.verb = { link with
            pending := { request.pending with remaining := (next :: targets).length } :: others } := by
          simp [Link.acknowledge, oldest, Request.pending]
        rw [more]
        exact ih (by simp) (fun index => counts (index + 1)) _ rfl
  exact fun link others oldest => counted request.targets aimed counts link others oldest

theorem Remark.refusal_answers (request : Request) (text : Bytes) :
    Remark.Answer [.refusal text] request (.error (.server (Text.lossy text))) := by
  intro link others oldest
  change link.receive (.ofFrame (Remark.refusal text).frame) = _
  rw [Remark.ofFrame_frame]
  change link.refuse (Text.lossy text) = _
  rw [Link.refuse, oldest]
  rfl

private theorem Remark.receive_ofMessage (message : Message) (link : Link) :
    link.receiveAll ([Remark.ofMessage message].map Remark.frame) = { link with
      observers := link.observers.deliver message,
      signals := link.signals ++ if link.observers.liveOf message.kind = 0 then [] else [.observed] } := by
  have told : link.receiveAll ([Remark.ofMessage message].map Remark.frame) = link.receive (.message message) := by
    change link.receive (.ofFrame (Remark.ofMessage message).frame) = _
    rw [Remark.ofFrame_frame]
    cases message <;> rfl
  rw [told, Link.receive]
  split
  · rw [List.append_nil]
  · rfl

namespace Inbound

/-- What has arrived and not been read, on a connection that goes on. -/
structure Holds (inbound : Inbound) (arrived : Bytes) : Prop where
  unread : inbound.unread = arrived
  faultless : Arrival.Faultless inbound.queue
  goesOn : inbound.ended = false
  limit : inbound.decoder.limit = Frame.defaultLimit

private theorem Holds.arrive {inbound : Inbound} {arrived : Bytes} (holds : inbound.Holds arrived) (bytes : Bytes) :
    (inbound.arrive (.piece bytes)).Holds (arrived ++ bytes) := by
  refine ⟨?_, fun cause member => ?_, holds.goesOn, holds.limit⟩
  · have more : Arrival.bytes (inbound.queue ++ [.piece bytes]) = Arrival.bytes inbound.queue ++ bytes := by
      rw [Arrival.bytes_append, Arrival.bytes, Arrival.bytes, List.append_nil]
    rw [← holds.unread, Inbound.unread, Inbound.unread, List.append_assoc, ← more]
    rfl
  · rcases List.mem_append.mp member with earlier | new
    · exact holds.faultless cause earlier
    · cases List.mem_singleton.mp new

/-- Everything that a server has said is read in one pass. -/
theorem Holds.readAll {inbound : Inbound} {remarks : List Remark} (legible : ∀ remark ∈ remarks, remark.Legible)
    (holds : inbound.Holds (Remark.bytes remarks)) :
    inbound.readAll.failure = none ∧ inbound.readAll.frames = remarks.map Remark.frame ∧
      inbound.readAll.rest.Holds [] := by
  have lined := Remark.lined_frames legible
  have start : inbound.unread <+: Frame.encodeItems (remarks.map Remark.frame) := by
    rw [holds.unread]
    exact List.prefix_refl _
  have unfailed := readOnto_unfailed [] lined (holds.limit ▸ Remark.within_frames legible) start holds.faultless holds.goesOn
  obtain ⟨whole, later, split, frames, parts, faultless, goesOn, short⟩ :=
    readOnto_of_prefix [] lined start holds.faultless holds.goesOn unfailed
  have left : (inbound.readOnto []).rest.unread = Frame.encodeItems later := by
    rw [holds.unread, Remark.bytes, split, Frame.encodeItems_append] at parts
    exact (List.append_cancel_left parts).symm
  -- Of what is left there would be a whole frame, if there were any.
  have none : later = [] := by
    cases later with
    | nil => rfl
    | cons frame others =>
      have size := short frame rfl
      rw [left, Frame.encodeItems, List.length_append] at size
      exact absurd size (Nat.not_lt.mpr (Nat.le_add_right _ _))
  subst none
  rw [List.append_nil] at split
  refine ⟨unfailed, ?_, left, faultless, goesOn, (limit_readOnto [] inbound).trans holds.limit⟩
  rw [Inbound.readAll, frames, ← split, List.reverse_nil, List.nil_append, List.map_map]
  exact List.map_congr_left fun remark _ => remark.asRead_frame

end Inbound

namespace Link

/-- A connection between two passes. `sent` has been written, `unanswered` are the requests that wait for an answer, `queue`
are those that wait to be written, and `arrived` waits to be read. -/
structure Poised (sent : Bytes) (unanswered queue : List Request) (arrived : Bytes) (link : Link) : Prop where
  alive : link.failure = none
  reading : link.reading = true
  unclosed : link.closed = false
  idle : link.writer = .idle
  outbound : link.outbound = { acceptance := .everything, accepted := sent }
  queued : link.queue = queue
  nobody : link.waiting = []
  room : 0 < link.capacity
  pending : link.pending = unanswered.map Request.pending
  collected : link.signals = []
  inbound : link.inbound.Holds arrived

section
variable {sent arrived : Bytes} {unanswered queue : List Request} {link : Link}

theorem poised_start (queueSize : Nat) : (ofConnection {} queueSize).Poised [] [] [] [] :=
  ⟨rfl, rfl, rfl, rfl, rfl, rfl, rfl, Nat.lt_of_lt_of_le Nat.zero_lt_one (Nat.le_max_right _ _), rfl, rfl, rfl,
    (fun _ member => by cases member), rfl, rfl⟩

theorem Poised.observed (poised : link.Poised sent unanswered queue arrived) (observers : Observers Fault) :
    Poised sent unanswered queue arrived { link with observers } := { poised with }

theorem Poised.request (poised : link.Poised sent unanswered [] arrived) (request : Request) (aimed : request.targets ≠ []) :
    link.request request.call request.verb request.targets = (none, { link with queue := [request] }) := by
  have some : request.targets.isEmpty = false := by simpa using aimed
  have running : link.writer ≠ .stopped := by rw [poised.idle]; exact fun same => by cases same
  have room : link.queue.length < link.capacity := by rw [poised.queued]; exact poised.room
  rw [Link.request, some, if_neg (by simp), if_neg running, if_pos room, poised.queued]
  rfl

theorem Poised.arrive (poised : link.Poised sent unanswered queue arrived) (bytes : Bytes) :
    (link.meet (.arrive (.piece bytes))).Poised sent unanswered queue (arrived ++ bytes) :=
  { poised with inbound := poised.inbound.arrive bytes }

theorem Poised.read {remarks : List Remark} (poised : link.Poised sent unanswered queue (Remark.bytes remarks))
    (legible : ∀ remark ∈ remarks, remark.Legible) :
    ∃ inbound : Inbound, inbound.Holds [] ∧
      link.read = Link.receiveAll { link with inbound } (remarks.map Remark.frame) := by
  obtain ⟨unfailed, frames, holds⟩ := poised.inbound.readAll legible
  exact ⟨_, holds, by rw [read_complete poised.reading unfailed, passed, frames]⟩

private theorem send_everything (accepted bytes : Bytes) :
    ({ acceptance := .everything, accepted } : Outbound).send bytes =
      (.done, { acceptance := .everything, accepted := accepted ++ bytes }) := by
  have nothing (accepted : Bytes) : ({ acceptance := .everything, accepted } : Outbound).send [] =
      (.done, { acceptance := .everything, accepted }) := by
    rw [Outbound.send]
    rfl
  by_cases empty : bytes.length = 0
  · rw [List.length_eq_zero_iff.mp empty, List.append_nil, nothing]
  · rw [Outbound.send, dif_neg empty]
    split
    next waits => cases waits
    next fails => cases fails
    next count takes =>
      cases takes
      rw [List.take_length, List.drop_length]
      exact nothing _

theorem rests (idle : link.writer = .idle) (queued : link.queue = []) (unclosed : link.closed = false) :
    link.write.wind = link := by
  have written : link.write = link := by
    rw [write, idle]
    exact (serve_idle (.inl queued)).1
  rw [written, wind, unclosed]

private theorem Poised.writes {request : Request} (poised : link.Poised sent unanswered [request] arrived) :
    link.write.wind = { link with
      queue := [], pending := link.pending ++ [request.pending],
      outbound := { acceptance := .everything, accepted := sent ++ request.frame.encode } } := by
  have taken : (link.dequeue []).perform request = { link with
      queue := [], pending := link.pending ++ [request.pending],
      outbound := { acceptance := .everything, accepted := sent ++ request.frame.encode } } := by
    rw [dequeue, poised.nobody]
    dsimp only
    rw [perform, poised.alive]
    dsimp only
    rw [send, poised.outbound, send_everything, poised.idle]
    rfl
  have written : link.write = (link.dequeue []).perform request := by
    rw [write, poised.idle]
    dsimp only
    rw [serve_step poised.queued poised.idle, taken]
    exact (serve_idle (.inl rfl)).1
  rw [written, taken, wind, poised.unclosed]

theorem Poised.sends {request : Request} (poised : link.Poised sent unanswered [request] []) :
    ∃ after, link.work.collect = ([], after) ∧ after.Poised (sent ++ request.frame.encode) (unanswered ++ [request]) [] [] ∧
      after.observers = link.observers := by
  have quiet : ∀ remark ∈ ([] : List Remark), remark.Legible := fun _ member => by cases member
  obtain ⟨inbound, holds, read⟩ := poised.read quiet
  have still : Poised sent unanswered [request] [] { link with inbound } := { poised with inbound := holds }
  let after : Link := { link with
    inbound, queue := [], pending := link.pending ++ [request.pending],
    outbound := { acceptance := .everything, accepted := sent ++ request.frame.encode } }
  have worked : link.work = after := by
    rw [work, read]
    exact still.writes
  refine ⟨{ after with signals := [] }, ?_, ?_, rfl⟩
  · rw [worked, collect]
    exact congrArg (·, _) poised.collected
  · refine { poised with outbound := rfl, queued := rfl, pending := ?_, collected := rfl, inbound := holds }
    rw [List.map_append, ← poised.pending]
    rfl

/-- A pass in which the oldest request is answered. -/
theorem Poised.hears {request : Request} {remarks : List Remark} {result : Except Fault Unit}
    (poised : link.Poised sent (request :: unanswered) [] (Remark.bytes remarks))
    (legible : ∀ remark ∈ remarks, remark.Legible) (answer : Remark.Answer remarks request result) :
    ∃ after, link.work.collect = ([.answer request.call result], after) ∧ after.Poised sent unanswered [] [] ∧
      after.observers = link.observers := by
  obtain ⟨inbound, holds, read⟩ := poised.read legible
  have answered := answer { link with inbound } (unanswered.map Request.pending) poised.pending
  let after : Link :=
    Link.answer { link with inbound, pending := unanswered.map Request.pending } request.call result
  have worked : link.work = after := by
    rw [work, read, answered]
    exact rests poised.idle poised.queued poised.unclosed
  refine ⟨{ after with signals := [] }, ?_, ?_, rfl⟩
  · rw [worked, collect]
    exact congrArg (fun earlier => (earlier ++ [.answer request.call result], _)) poised.collected
  · exact { poised with pending := rfl, collected := rfl, inbound := holds }

/-- A pass in which a message comes in. -/
theorem Poised.delivers {message : Message}
    (poised : link.Poised sent unanswered [] (Remark.bytes [Remark.ofMessage message]))
    (legible : (Remark.ofMessage message).Legible) :
    ∃ after, link.work.collect = (if link.observers.liveOf message.kind = 0 then [] else [.observed], after) ∧
      after.Poised sent unanswered [] [] ∧ after.observers = link.observers.deliver message := by
  have alone : ∀ remark ∈ [Remark.ofMessage message], remark.Legible :=
    fun remark member => List.mem_singleton.mp member ▸ legible
  obtain ⟨inbound, holds, read⟩ := poised.read alone
  let told : List (Signal Fault) := if link.observers.liveOf message.kind = 0 then [] else [.observed]
  let after : Link := { link with
    inbound, observers := link.observers.deliver message, signals := link.signals ++ told }
  have worked : link.work = after := by
    rw [work, read, Remark.receive_ofMessage]
    exact rests poised.idle poised.queued poised.unclosed
  refine ⟨{ after with signals := [] }, ?_, ?_, rfl⟩
  · rw [worked, collect]
    exact congrArg (fun earlier => (earlier ++ told, _)) poised.collected
  · exact { poised with collected := rfl, inbound := holds }

end

end Link

end Subscriber
