import Subscriber.Proofs.FanOut
import Subscriber.Proofs.Histories
import Subscriber.Proofs.Observing

/-! The pump of a session over a connection. In each turn it takes what waits with its observers, in the order
in which the two sides are asked, and gives it to every stream; when it comes upon the failure of the
connection it hands that on and is gone. -/

namespace Subscriber
open Merge (lane pick takes)

/-- A pump reads two observers, none of which has been cut off or has come to its end. -/
structure Pump.Whole (pump : Pump) : Prop where
  apart : pump.channels ≠ pump.patterns
  channels : pump.channelsCut = false
  patterns : pump.patternsCut = false
  left : pump.merge.leftEnded = false
  right : pump.merge.rightEnded = false

def Pump.turned (pump : Pump) : Pump := { pump with merge := { pump.merge with turn := pump.merge.turn.other } }

theorem Pump.Whole.turned {pump : Pump} (whole : pump.Whole) : pump.turned.Whole :=
  ⟨whole.apart, whole.channels, whole.patterns, whole.left, whole.right⟩

namespace Merge
variable {σ α : Type} {ask : Side → σ → Poll α × σ} {merge : Merge} {source after : σ}

theorem poll_first (left : merge.leftEnded = false) (right : merge.rightEnded = false) {value : α}
    (found : ask merge.turn source = (.ready value, after)) :
    merge.poll ask source = (.ready value, { merge with turn := merge.turn.other }, after) := by
  unfold poll
  rw [left, right]
  dsimp only
  rw [found]

theorem poll_second (left : merge.leftEnded = false) (right : merge.rightEnded = false) {between : σ} {answer : Poll α}
    (idle : ask merge.turn source = (.pending, between)) (found : ask merge.turn.other between = (answer, after))
    (going : answer ≠ .ended) : merge.poll ask source = (answer, { merge with turn := merge.turn.other }, after) := by
  unfold poll
  rw [left, right]
  dsimp only
  rw [idle]
  dsimp only
  rw [found]
  cases answer with
  | ended => exact absurd rfl going
  | _ => rfl

end Merge

def Pump.observer (pump : Pump) : Message.Kind → Nat
  | .channel => pump.channels
  | .pattern => pump.patterns

theorem Message.Kind.of_side (side : Side) : ∃ kind : Message.Kind, kind.side = side := by
  cases side
  · exact ⟨.channel, rfl⟩
  · exact ⟨.pattern, rfl⟩

namespace Pump
variable {pump : Pump} {waiting : List Message} {failure : Option Fault}

theorem find_holding (whole : pump.Whole) {observers : Observers Fault}
    (held : observers.members = Pump.holding waiting failure (some pump)) (kind : Message.Kind) :
    observers.find? (pump.observer kind) = some (.holding (pump.observer kind) kind waiting failure) := by
  unfold Observers.find?
  rw [held]
  cases kind with
  | channel => simp [holding, observer, Observer.holding]
  | pattern => simp [holding, observer, Observer.holding, whole.apart]

private theorem holding_erase (whole : pump.Whole) {kind : Message.Kind} {message : Message} {later : List Message}
    (front : lane kind.side waiting = message :: later) :
    ((Pump.holding waiting failure (some pump)).map fun other =>
      if other.id = pump.observer kind then
        { other with queued := later.map .ok ++ failure.toList.map .error } else other) =
      Pump.holding (waiting.erase message) failure (some pump) := by
  have own : message.kind.side = kind.side := (Merge.mem_lane.mp (front ▸ List.mem_cons_self)).2
  have taken := Merge.lane_erase_same front
  have kept : lane kind.side.other (waiting.erase message) = lane kind.side.other waiting :=
    Merge.lane_erase_other (own ▸ kind.side.ne_other)
  cases kind with
  | channel =>
    have other : lane Message.Kind.pattern.side (waiting.erase message) = lane Message.Kind.pattern.side waiting := kept
    simp [holding, observer, Observer.holding, whole.apart.symm, taken, other]
  | pattern =>
    have other : lane Message.Kind.channel.side (waiting.erase message) = lane Message.Kind.channel.side waiting := kept
    simp [holding, observer, Observer.holding, whole.apart, taken, other]

end Pump

namespace Activity

section
variable {link : Link} {pump : Pump} {waiting : List Message}

theorem askSide_kind (whole : pump.Whole) (link : Link) (kind : Message.Kind) :
    askSide pump kind.side link = ((link.observers.poll (pump.observer kind)).1.mapFault Fault.toError,
      { link with observers := (link.observers.poll (pump.observer kind)).2 }) := by
  cases kind with
  | channel =>
    simp only [askSide, Message.Kind.side, whole.channels]
    rfl
  | pattern =>
    simp only [askSide, Message.Kind.side, whole.patterns]
    rfl

private theorem askSide_first (kind : Message.Kind) {message : Message} {later : List Message} (whole : pump.Whole)
    (held : link.observers.members = Pump.holding waiting link.failure (some pump))
    (front : lane kind.side waiting = message :: later) :
    askSide pump kind.side link = (.ready (.ok message), { link with
      observers := { link.observers with members := Pump.holding (waiting.erase message) link.failure (some pump) } }) := by
  rw [askSide_kind whole, ← Pump.holding_erase whole front, Observers.poll, Pump.find_holding whole held, held]
  simp only [Observer.holding, front, List.map_cons, List.cons_append]
  rfl

theorem askSide_idle (kind : Message.Kind) (whole : pump.Whole)
    (held : link.observers.members = Pump.holding waiting link.failure (some pump))
    (empty : lane kind.side waiting = []) (alive : link.failure = none) :
    askSide pump kind.side link = (.pending, link) := by
  have found := Pump.find_holding whole held kind
  rw [alive] at found
  rw [askSide_kind whole, Observers.poll, found]
  simp only [Observer.holding, empty]
  rfl

private theorem askSide_failed (kind : Message.Kind) {fault : Fault} (whole : pump.Whole)
    (held : link.observers.members = Pump.holding waiting link.failure (some pump))
    (empty : lane kind.side waiting = []) (failed : link.failure = some fault) :
    ∃ observers, askSide pump kind.side link = (.ready (.error fault.toError), { link with observers }) ∧
      ∀ observer ∈ observers.members, observer.id = pump.channels ∨ observer.id = pump.patterns := by
  have found := Pump.find_holding whole held kind
  rw [failed] at found
  rw [askSide_kind whole, Observers.poll, found]
  simp only [Observer.holding, empty]
  refine ⟨_, rfl, fun found member => ?_⟩
  obtain ⟨old, inside, rfl⟩ := List.mem_map.mp member
  rw [held] at inside
  have known := Pump.mem_holding inside
  split <;> exact known

end

section
variable {a : Activity Link} {pump : Pump} {waiting : List Message}

theorem pollPump_eq {ask : Side → Link → Poll (Except Error Message) × Link} {item : Poll (Except Error Message)}
    {link : Link} (polled : pump.merge.poll ask a.transport =
      (item, { pump.merge with turn := pump.merge.turn.other }, link)) :
    a.pollPump pump ask = (item, { a with transport := link, pump := some pump.turned }) := by
  unfold pollPump
  rw [polled]
  rfl

theorem pollPump_first (whole : pump.Whole)
    (held : a.transport.observers.members = Pump.holding waiting a.transport.failure (some pump)) {message : Message}
    (picked : pick a.transport.failure.isSome pump.merge.turn waiting = some message) :
    ∃ observers, a.pollPump pump (askSide pump) = (.ready (.ok message),
        { a with transport := { a.transport with observers }, pump := some pump.turned }) ∧
      observers.members = Pump.holding (waiting.erase message) a.transport.failure (some pump) := by
  obtain ⟨kind, asked⟩ := Message.Kind.of_side pump.merge.turn
  obtain ⟨second, other⟩ := Message.Kind.of_side pump.merge.turn.other
  let observers : Observers Fault :=
    { a.transport.observers with members := Pump.holding (waiting.erase message) a.transport.failure (some pump) }
  refine ⟨observers, pollPump_eq ?_, rfl⟩
  unfold pick at picked
  split at picked
  next later front =>
    cases picked
    have found := askSide_first kind whole held (asked ▸ front)
    exact Merge.poll_first whole.left whole.right (asked ▸ found)
  next empty =>
    split at picked
    · cases picked
    next going =>
      have alive : a.transport.failure = none := by simpa using going
      have idle := askSide_idle kind whole held (asked ▸ empty) alive
      have front : lane second.side waiting = message :: waiting.tail := by
        rw [other, Merge.lane_all empty]
        exact List.eq_cons_of_mem_head? picked
      have found := askSide_first second whole held front
      exact Merge.poll_second whole.left whole.right (asked ▸ idle) (other ▸ found) nofun

theorem pollPump_idle (whole : pump.Whole)
    (held : a.transport.observers.members = Pump.holding [] a.transport.failure (some pump))
    (alive : a.transport.failure = none) :
    a.pollPump pump (askSide pump) = (.pending, { a with pump := some pump.turned }) := by
  obtain ⟨kind, asked⟩ := Message.Kind.of_side pump.merge.turn
  obtain ⟨second, other⟩ := Message.Kind.of_side pump.merge.turn.other
  apply pollPump_eq
  have idle := askSide_idle kind whole held rfl alive
  have again := askSide_idle second whole held rfl alive
  exact Merge.poll_second whole.left whole.right (asked ▸ idle) (other ▸ again) nofun

private theorem pollPump_failed (whole : pump.Whole)
    (held : a.transport.observers.members = Pump.holding waiting a.transport.failure (some pump)) {fault : Fault}
    (failed : a.transport.failure = some fault) (empty : lane pump.merge.turn waiting = []) :
    ∃ observers, a.pollPump pump (askSide pump) = (.ready (.error fault.toError),
        { a with transport := { a.transport with observers }, pump := some pump.turned }) ∧
      ∀ observer ∈ observers.members, observer.id = pump.channels ∨ observer.id = pump.patterns := by
  obtain ⟨kind, asked⟩ := Message.Kind.of_side pump.merge.turn
  obtain ⟨observers, found, own⟩ := askSide_failed kind whole held (asked ▸ empty) failed
  exact ⟨observers, pollPump_eq (Merge.poll_first whole.left whole.right (asked ▸ found)), own⟩

theorem stopPump_alone (piped : a.pump = some pump)
    (own : ∀ observer ∈ a.transport.observers.members, observer.id = pump.channels ∨ observer.id = pump.patterns) :
    ∃ observers ready, a.stopPump = { a with transport := { a.transport with observers }, pump := none, ready } ∧
      observers.members = [] := by
  unfold stopPump
  rw [piped]
  refine ⟨(a.transport.observers.release pump.channels).release pump.patterns, _, rfl, ?_⟩
  unfold Observers.release
  apply List.filter_eq_nil_iff.mpr
  intro observer member
  obtain ⟨inside, different⟩ := List.mem_filter.mp member
  rcases own observer inside with same | same
  · exact absurd same (bne_iff_ne.mp different)
  · simp [same]

/-- The pump goes on behind its turn: it has passed on what it took. -/
structure Ongoing (before : Activity Link) (pump : Pump) (taken left : List Message) (after : Activity Link) : Prop where
  piped : ∃ merge, after.pump = some { pump with merge } ∧ Pump.Whole { pump with merge }
  transport : ∃ observers, after.transport = { before.transport with observers } ∧
    observers.members = Pump.holding left before.transport.failure (some pump)
  fanout : after.session.fanout = before.session.fanout.deliverAll taken
  awake : left ≠ [] ∨ before.transport.failure.isSome = true → .pump ∈ after.ready

/-- The pump has passed on what it took and the failure, and is gone. -/
structure Broken (before : Activity Link) (taken : List Message) (after : Activity Link) : Prop where
  pump : after.pump = none
  transport : ∃ observers, after.transport = { before.transport with observers } ∧ observers.members = []
  fanout : ∃ fault, before.transport.failure = some fault ∧
    after.session.fanout = (before.session.fanout.deliverAll taken).interrupt (.upstream fault.toError)

/-- What one turn of the pump comes to. -/
theorem runPump_takes (budget : Nat) (piped : a.pump = some pump) (whole : pump.Whole)
    (aligned : a.session.fanout.pump = some pump.generation)
    (held : a.transport.observers.members = Pump.holding waiting a.transport.failure (some pump)) :
    Ongoing a pump (takes a.transport.failure.isSome budget pump.merge.turn waiting).1
        (takes a.transport.failure.isSome budget pump.merge.turn waiting).2 (a.runPump budget) ∨
      (takes a.transport.failure.isSome budget pump.merge.turn waiting).1.length < budget ∧
        Broken a (takes a.transport.failure.isSome budget pump.merge.turn waiting).1 (a.runPump budget) := by
  -- Every poll passes the turn on and takes one message, so the pump and what waits change with the budget.
  induction budget generalizing a pump waiting with
  | zero =>
    left
    have polled : a.pollPump pump askNothing = (.pending, { a with pump := some pump.turned }) :=
      pollPump_eq (Merge.poll_second whole.left whole.right rfl rfl nofun)
    have turn : a.runPump 0 = Activity.wake { a with pump := some pump.turned } .pump := by
      rw [runPump, piped]
      exact congrArg (fun answer => Activity.wake answer.2 .pump) polled
    rw [turn]
    refine ⟨⟨pump.turned.merge, wake_pump _ _, whole.turned⟩, ⟨_, wake_transport _ _, held⟩, ?_, fun _ => mem_wake _ _⟩
    rw [wake_session]
    rfl
  | succ more ih =>
    cases picked : pick a.transport.failure.isSome pump.merge.turn waiting with
    | some message =>
      obtain ⟨observers, polled, left⟩ := pollPump_first whole held picked
      let next : Activity Link := { a with
        transport := { a.transport with observers }, pump := some pump.turned,
        session := a.session.publish pump.generation (.ok message) }
      have turn : a.runPump (more + 1) = next.runPump more := by
        rw [runPump, piped]
        dsimp only
        rw [polled]
      have given : next.session.fanout = a.session.fanout.deliver (.ok message) :=
        (Session.fanout_publish ..).trans (Fanout.publish_ok aligned message)
      have running : next.session.fanout.pump = some pump.turned.generation := by
        rw [given]
        exact aligned
      have rest := ih (show next.pump = some pump.turned from rfl) whole.turned running left
      rw [turn, Merge.takes_some more picked]
      rcases rest with ongoing | ⟨early, broken⟩
      · left
        refine ⟨ongoing.piped, ongoing.transport, ongoing.fanout.trans ?_, ongoing.awake⟩
        rw [given]
        rfl
      · right
        obtain ⟨fault, failed, interrupted⟩ := broken.fanout
        refine ⟨Nat.succ_lt_succ early, broken.pump, broken.transport, fault, failed, interrupted.trans ?_⟩
        rw [given]
        rfl
    | none =>
      rw [Merge.takes_none _ picked]
      cases known : a.transport.failure with
      | none =>
        rw [known] at picked
        cases Merge.pick_none picked
        left
        have turn : a.runPump (more + 1) = { a with pump := some pump.turned } := by
          rw [runPump, piped]
          dsimp only
          rw [pollPump_idle whole held known]
        rw [turn]
        refine ⟨⟨pump.turned.merge, rfl, whole.turned⟩, ⟨_, rfl, held⟩, rfl, ?_⟩
        rw [known]
        simp
      | some fault =>
        right
        have empty : lane pump.merge.turn waiting = [] := by
          rw [known] at picked
          unfold pick at picked
          split at picked
          · cases picked
          next nothing => exact nothing
        obtain ⟨observers, polled, own⟩ := pollPump_failed whole held known empty
        let last : Activity Link := { a with
          transport := { a.transport with observers }, pump := some pump.turned,
          session := a.session.publish pump.generation (.error (.upstream fault.toError)) }
        have interrupted : last.session.fanout = a.session.fanout.interrupt (.upstream fault.toError) :=
          (Session.fanout_publish ..).trans (Fanout.publish_error aligned _)
        have turn : a.runPump (more + 1) = last.stopPump := by
          rw [runPump, piped]
          dsimp only
          rw [polled]
          change last.adjustPump = last.stopPump
          rw [adjustPump, interrupted]
          rfl
        obtain ⟨none, ready, stopped, alone⟩ := stopPump_alone (show last.pump = some pump.turned from rfl) own
        rw [turn, stopped]
        exact ⟨Nat.succ_pos more, rfl, ⟨none, rfl, alone⟩, fault, known, interrupted⟩

end

end Activity

end Subscriber
