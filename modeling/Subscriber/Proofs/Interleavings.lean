import Subscriber.Proofs.Attending

/-! The two tasks of a shared connection, its callers and the network, taking turns in any order. A turn is as short as
nothing can come in between: one frame is taken up, or one request, some bytes are sent, a failure is recorded, what waits
behind a failed write is given up, or one signal is heard. What is done between two steps of a script is one such order. -/

namespace Subscriber

namespace Link

/-- The reader takes up the next frame, or the failure that it meets. -/
def readOne (link : Link) : Link :=
  if link.reading then
    match link.inbound.readFrame with
    | (.frame frame, inbound) => { link with inbound }.receive (.ofFrame frame)
    | (.failed error, inbound) => { { link with inbound }.fail (.ofError error) with reading := false }
    | (.pending, inbound) => { link with inbound }
  else link

def takeUp (link : Link) (request : Request) : Link :=
  match link.failure with
  | some fault => link.answer request.call (.error fault)
  | none => { link with
      pending := link.pending ++ [request.pending]
      writer := .sending (request.verb.command request.targets).frame.encode }

/-- The writer goes on. A write that fails has broken it; it stops in its next turn. -/
def writeOne (link : Link) (broken : Bool) : Link × Bool :=
  if broken then (link.stopWriting, false)
  else
    match link.writer, link.queue with
    | .sending unsent, _ =>
      match link.outbound.send unsent with
      | (.done, outbound) => ({ link with outbound, writer := .idle }, false)
      | (.blocked unsent, outbound) => ({ link with outbound, writer := .sending unsent }, false)
      | (.failed cause, outbound) => ({ link with outbound }.fail (.io cause), true)
    | .idle, request :: queue => ((link.dequeue queue).takeUp request, false)
    | _, _ => (link.wind, false)

end Link

namespace Inbound

private theorem readOnto_eq (read : List Frame) (inbound : Inbound) :
    inbound.readOnto read = { inbound.readAll with frames := read.reverse ++ inbound.readAll.frames } := by
  unfold readAll
  rw [readOnto_step read, readOnto_step []]
  split
  · simp
  · simp
  next frame rest found =>
    have lighter := readFrame_lighter found
    rw [readOnto_eq (frame :: read) rest, readOnto_eq [frame] rest]
    simp
termination_by inbound.weight

private theorem readAll_frame {inbound rest : Inbound} {frame : Frame} (found : inbound.readFrame = (.frame frame, rest)) :
    inbound.readAll = { rest.readAll with frames := frame :: rest.readAll.frames } := by
  rw [readAll, readOnto_step, found]
  exact readOnto_eq [frame] rest

end Inbound

namespace Link

private theorem receive_inbound (link : Link) (push : Push) (inbound : Inbound) :
    ({ link with inbound } : Link).receive push = { link.receive push with inbound } := by
  cases push with
  | message message =>
    unfold receive
    dsimp only
    split <;> rfl
  | acknowledgement verb =>
    obtain ⟨_, _, _, _, _, _, _, pending, _, _, _, _⟩ := link
    cases pending with
    | nil => rfl
    | cons front others =>
      simp only [receive, acknowledge]
      split
      · rfl
      · split <;> rfl
  | refusal text =>
    obtain ⟨_, _, _, _, _, _, _, pending, _, _, _, _⟩ := link
    cases pending <;> rfl
  | _ => rfl

private theorem read_frame {link : Link} {frame : Frame} {rest : Inbound} (reading : link.reading = true)
    (found : link.inbound.readFrame = (.frame frame, rest)) : link.read = link.readOne.read := by
  have turn : link.readOne = { link with inbound := rest }.receive (.ofFrame frame) := by
    rw [readOne, if_pos reading, found]
  have inbound : link.readOne.inbound = rest := by rw [turn, inbound_receive]
  have still : link.readOne.reading = true := by
    obtain ⟨pending, signals, received⟩ := receive_eq { link with inbound := rest } (.ofFrame frame)
    rw [turn, received]
    exact reading
  have passed : link.passed = link.readOne.passed := by
    rw [Link.passed, Link.passed, Inbound.readAll_frame found, inbound, turn]
    have moved (final : Inbound) : ({ link with inbound := final } : Link).receive (.ofFrame frame) =
        { ({ link with inbound := rest } : Link).receive (.ofFrame frame) with inbound := final } :=
      receive_inbound { link with inbound := rest } _ final
    rw [← moved]
    rfl
  cases outcome : rest.readAll.failure with
  | none =>
    rw [read_complete reading (by rw [Inbound.readAll_frame found]; exact outcome),
      read_complete still (by rw [inbound]; exact outcome), passed]
  | some error =>
    rw [read_broken reading (by rw [Inbound.readAll_frame found]; exact outcome),
      read_broken still (by rw [inbound]; exact outcome), passed]

theorem takeUp_alive {link : Link} (alive : link.failure = none) (request : Request) : link.takeUp request = { link with
    pending := link.pending ++ [request.pending]
    writer := .sending (request.verb.command request.targets).frame.encode } := by
  unfold takeUp
  split
  next failed => cases alive.symm.trans failed
  · rfl

theorem takeUp_failed {link : Link} {fault : Fault} (failed : link.failure = some fault) (request : Request) :
    link.takeUp request = link.answer request.call (.error fault) := by
  rw [takeUp, failed]

private theorem perform_alive {link : Link} (alive : link.failure = none) (request : Request) : link.perform request =
    { link with pending := link.pending ++ [request.pending] }.send (request.verb.command request.targets).frame.encode := by
  unfold perform
  split
  next failed => cases alive.symm.trans failed
  · rfl

private theorem fail_writer (link : Link) (writer : Writer) (fault : Fault) :
    ({ link with writer } : Link).fail fault = { link.fail fault with writer } := by
  rcases Option.eq_none_or_eq_some link.failure with alive | ⟨first, failed⟩
  · exact (@fail_alive { link with writer } alive fault).trans (by rw [fail_alive alive])
  · exact (@fail_failed { link with writer } _ failed fault).trans (by rw [fail_failed failed])

private theorem send_writer (link : Link) (writer : Writer) (bytes : Bytes) :
    ({ link with writer } : Link).send bytes = link.send bytes := by
  unfold send
  dsimp only
  cases link.outbound.send bytes with
  | mk outcome outbound =>
    cases outcome with
    | done => rfl
    | blocked unsent => rfl
    | failed cause =>
      have failing := fail_writer { link with outbound } writer (.io cause)
      dsimp only at failing ⊢
      rw [failing, stopWriting_eq, stopWriting_eq]
      rfl

end Link

namespace Clients

/-- How things stand between two turns. -/
structure Moment where
  clients : Clients
  /-- Whether a write has failed and the writer has not stopped yet. -/
  broken : Bool := false

inductive Move where
  | begin (step : Step)
  | read
  | write
  | hear

def Move.step? : Move → Option Step
  | .begin step => some step
  | _ => none

namespace Moment

def link (moment : Moment) : Link := moment.clients.link

def hear (clients : Clients) : Clients :=
  match clients.link.signals with
  | [] => clients
  | signal :: signals => { clients with link := { clients.link with signals } }.hear signal

def move (moment : Moment) : Move → Moment
  | .begin step => { moment with clients := (moment.clients.begin step).2 }
  | .read => { moment with clients := { moment.clients with link := moment.link.readOne } }
  | .write =>
    let (link, broken) := moment.link.writeOne moment.broken
    { clients := { moment.clients with link }, broken }
  | .hear => { moment with clients := hear moment.clients }

def after (moment : Moment) (moves : List Move) : Moment := moves.foldl move moment

theorem after_append (moment : Moment) (first last : List Move) :
    moment.after (first ++ last) = (moment.after first).after last := List.foldl_append

private theorem hear_link (clients : Clients) (link : Link) (signal : Signal Fault) :
    Clients.hear { clients with link } signal = { clients.hear signal with link } := by
  cases signal with
  | answer call result =>
    simp only [Clients.hear, answer]
    split <;> rfl
  | _ => rfl

/-- What comes of turns of the two tasks and of callers who hear of something. -/
def Works (before after : Moment) : Prop := ∃ moves, before.after moves = after ∧ moves.filterMap Move.step? = []

section
variable {a b c : Moment} {clients : Clients} {link : Link}

theorem Works.refl (moment : Moment) : Works moment moment := ⟨[], rfl, rfl⟩

theorem Works.trans (first : Works a b) (second : Works b c) : Works a c := by
  obtain ⟨moves, rfl, unasked⟩ := first
  obtain ⟨more, rfl, unasked'⟩ := second
  exact ⟨moves ++ more, after_append _ _ _, by rw [List.filterMap_append, unasked, unasked']; rfl⟩

theorem Works.one (move : Move) (unasked : move.step? = none) : Works a (a.move move) :=
  ⟨[move], rfl, by rw [List.filterMap_cons, unasked]; rfl⟩

def onLink (clients : Clients) (link : Link) (broken : Bool) : Moment := { clients := { clients with link }, broken }

private theorem read_works (clients : Clients) (link : Link) (broken : Bool) :
    Works (onLink clients link broken) (onLink clients link.read broken) := by
  have turn : Works (onLink clients link broken) (onLink clients link.readOne broken) := .one .read rfl
  cases reading : link.reading with
  | false =>
    have idle : link.read = link := by rw [Link.read, if_neg (by simp [reading])]
    rw [idle]
    exact .refl _
  | true =>
    cases found : link.inbound.readFrame with
    | mk incoming rest =>
      cases incoming with
      | pending =>
        have all : link.inbound.readAll = { frames := [], failure := none, rest } := by
          rw [Inbound.readAll, Inbound.readOnto_step, found]
          rfl
        have same : link.read = link.readOne := by
          rw [Link.read_complete reading (by rw [all]), Link.passed, all, Link.readOne, if_pos reading, found]
          rfl
        rw [same]
        exact turn
      | failed error =>
        have all : link.inbound.readAll = { frames := [], failure := some error, rest } := by
          rw [Inbound.readAll, Inbound.readOnto_step, found]
          rfl
        have same : link.read = link.readOne := by
          rw [Link.read_broken reading (by rw [all]), Link.passed, all, Link.readOne, if_pos reading, found]
          rfl
        rw [same]
        exact turn
      | frame frame =>
        have inbound : link.readOne.inbound = rest := by
          rw [Link.readOne, if_pos reading, found]
          exact Link.inbound_receive _ _
        have lighter : link.readOne.inbound.weight < link.inbound.weight := inbound ▸ Inbound.readFrame_lighter found
        rw [Link.read_frame reading found]
        exact turn.trans (read_works clients link.readOne broken)
termination_by link.inbound.weight

theorem send_works (clients : Clients) {link : Link} {bytes : Bytes} (sending : link.writer = .sending bytes) :
    Works (onLink clients link false) (onLink clients (link.send bytes) false) := by
  have turn : Works (onLink clients link false) (onLink clients (link.writeOne false).1 (link.writeOne false).2) :=
    .one .write rfl
  cases sent : link.outbound.send bytes with
  | mk outcome outbound =>
    cases outcome with
    | done =>
      have wrote : link.writeOne false = (link.send bytes, false) := by
        simp [Link.writeOne, sending, Link.send, sent]
      rw [wrote] at turn
      exact turn
    | blocked unsent =>
      have wrote : link.writeOne false = (link.send bytes, false) := by
        simp [Link.writeOne, sending, Link.send, sent]
      rw [wrote] at turn
      exact turn
    | failed cause =>
      have wrote : link.writeOne false = ({ link with outbound }.fail (.io cause), true) := by
        simp [Link.writeOne, sending, sent]
      have stops : link.send bytes = ({ link with outbound }.fail (.io cause)).stopWriting := by
        simp [Link.send, sent]
      rw [wrote] at turn
      rw [stops]
      exact turn.trans (.one .write rfl)

private theorem perform_works (clients : Clients) {link : Link} {request : Request} {queue : List Request}
    (idle : link.writer = .idle) (front : link.queue = request :: queue) :
    Works (onLink clients link false) (onLink clients ((link.dequeue queue).perform request) false) := by
  have taken : Works (onLink clients link false) (onLink clients ((link.dequeue queue).takeUp request) false) := by
    have wrote : link.writeOne false = ((link.dequeue queue).takeUp request, false) := by
      simp [Link.writeOne, idle, front]
    have turn : Works (onLink clients link false) (onLink clients (link.writeOne false).1 (link.writeOne false).2) :=
      .one .write rfl
    rw [wrote] at turn
    exact turn
  cases known : (link.dequeue queue).failure with
  | some fault =>
    have same : (link.dequeue queue).perform request = (link.dequeue queue).takeUp request := by
      rw [Link.takeUp_failed known, Link.perform, known]
    rw [same]
    exact taken
  | none =>
    have same : (link.dequeue queue).perform request =
        ((link.dequeue queue).takeUp request).send (request.verb.command request.targets).frame.encode := by
      rw [Link.takeUp_alive known, Link.perform_alive known]
      exact (Link.send_writer _ _ _).symm
    rw [same]
    exact taken.trans (send_works clients (by rw [Link.takeUp_alive known]))

private theorem serve_works (clients : Clients) (link : Link) :
    Works (onLink clients link false) (onLink clients link.serve false) := by
  fun_induction Link.serve link with
  | case1 => exact .refl _
  | case2 link request queue front idle ih => exact (perform_works clients idle front).trans ih
  | case3 => exact .refl _

private theorem write_works (clients : Clients) (link : Link) :
    Works (onLink clients link false) (onLink clients link.write.wind false) := by
  have written : Works (onLink clients link false) (onLink clients link.write false) := by
    unfold Link.write
    split
    next unsent sending => exact (send_works clients sending).trans (serve_works clients _)
    · exact serve_works clients link
  refine written.trans ?_
  have rests := Link.rests_write link
  generalize link.write = last at rests ⊢
  have turn : Works (onLink clients last false) (onLink clients (last.writeOne false).1 (last.writeOne false).2) :=
    .one .write rfl
  cases state : last.writer with
  | idle =>
    have wrote : last.writeOne false = (last.wind, false) := by simp [Link.writeOne, state, rests.served state]
    rw [wrote] at turn
    exact turn
  | stopped =>
    have wrote : last.writeOne false = (last.wind, false) := by simp [Link.writeOne, state]
    rw [wrote] at turn
    exact turn
  | sending unsent =>
    have still : last.wind = last := by
      rw [Link.wind, state]
      cases last.closed <;> rfl
    rw [still]
    exact .refl _

private theorem hear_works (signals : List (Signal Fault)) (clients : Clients) (broken : Bool)
    (told : clients.link.signals = signals) :
    Works { clients, broken }
      { clients := signals.foldl Clients.hear { clients with link := { clients.link with signals := [] } }, broken } := by
  induction signals generalizing clients with
  | nil =>
    have same : ({ clients with link := { clients.link with signals := [] } } : Clients) = clients := by rw [← told]
    rw [List.foldl_nil, same]
    exact .refl _
  | cons signal signals ih =>
    have heard : Moment.hear clients = Clients.hear { clients with link := { clients.link with signals } } signal := by
      rw [Moment.hear, told]
    have link : (Moment.hear clients).link = { clients.link with signals } := by
      rw [heard]
      exact link_foldl_hear [signal] _
    have rest := ih (Moment.hear clients) (by rw [link])
    have first : Works { clients, broken } { clients := Moment.hear clients, broken } := .one .hear rfl
    refine first.trans ?_
    have same : ({ Moment.hear clients with link := { (Moment.hear clients).link with signals := [] } } : Clients) =
        Clients.hear { clients with link := { clients.link with signals := [] } } signal := by
      rw [link, heard, hear_link]
      exact (hear_link clients _ signal).symm
    rw [same] at rest
    exact rest

/-- All that is done behind one step is done in some order of turns. -/
theorem settle_works (clients : Clients) : Works { clients } { clients := clients.settle } :=
  ((read_works clients clients.link false).trans (write_works clients clients.link.read)).trans
    (hear_works _ { clients with link := clients.link.work } false rfl)

end

/-- What a script comes to is reached turn by turn. -/
theorem script_works (clients : Clients) (steps : List Step) :
    ∃ moves, ({ clients } : Moment).after moves = { clients := clients.after steps } ∧ moves.filterMap Move.step? = steps := by
  induction steps generalizing clients with
  | nil => exact ⟨[], rfl, rfl⟩
  | cons step steps ih =>
    obtain ⟨work, worked, unasked⟩ := settle_works (clients.begin step).2
    obtain ⟨moves, reached, asked⟩ := ih (clients.step step).2
    refine ⟨.begin step :: (work ++ moves), ?_, ?_⟩
    · refine (after_append { clients := (clients.begin step).2 } work moves).trans ?_
      rw [worked]
      exact reached
    · rw [List.filterMap_cons, List.filterMap_append, unasked, asked]
      rfl

end Moment

end Clients

end Subscriber
