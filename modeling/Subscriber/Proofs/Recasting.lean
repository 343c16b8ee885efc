import Subscriber.Loopback
import Subscriber.Proofs.Delivering

/-! Two sessions side by side, one over a loopback and one over a connection. Their observers hold the same, each in the
terms of its own transport, so their pumps find the same and are started and stopped at the same time. -/

namespace Subscriber

def Observer.recast {ε δ : Type} (f : ε → δ) (observer : Observer ε) : Observer δ :=
  { id := observer.id, kind := observer.kind, queued := observer.queued.map (·.mapError f), live := observer.live }

namespace Observers
variable {ε δ : Type} (f : ε → δ)

def recast (observers : Observers ε) : Observers δ :=
  { next := observers.next, members := observers.members.map (Observer.recast f) }

private theorem recast_register (observers : Observers ε) (kind : Message.Kind) :
    (observers.recast f).register kind = ((observers.register kind).1, (observers.register kind).2.recast f) := by
  simp only [register, recast, List.map_append, List.map_cons, List.map_nil]
  rfl

private theorem recast_release (observers : Observers ε) (id : Nat) :
    (observers.recast f).release id = (observers.release id).recast f := by
  simp only [release, recast, List.filter_map]
  rfl

private theorem recast_deliver (observers : Observers ε) (message : Message) :
    (observers.recast f).deliver message = (observers.deliver message).recast f := by
  simp only [deliver, recast, List.map_map]
  congr 1
  refine List.map_congr_left fun observer _ => ?_
  have same : feeds message.kind (observer.recast f) = feeds message.kind observer := rfl
  simp only [Function.comp, same]
  split
  · simp [Observer.recast, Except.mapError]
  · rfl

private theorem recast_liveOf (observers : Observers ε) (kind : Message.Kind) :
    (observers.recast f).liveOf kind = observers.liveOf kind := by
  simp only [liveOf, recast, List.filter_map, List.length_map]
  rfl

private theorem recast_find? (observers : Observers ε) (id : Nat) :
    (observers.recast f).find? id = (observers.find? id).map (Observer.recast f) := by
  simp only [find?, recast, List.find?_map]
  rfl

private theorem recast_poll (observers : Observers ε) (id : Nat) :
    (observers.recast f).poll id = ((observers.poll id).1.mapFault f, (observers.poll id).2.recast f) := by
  unfold poll
  rw [recast_find?]
  cases observers.find? id with
  | none => rfl
  | some observer =>
    cases queued : observer.queued with
    | nil =>
      simp only [Option.map_some, Observer.recast, queued, List.map_nil]
      split <;> rfl
    | cons item later =>
      simp only [Option.map_some, Observer.recast, queued, List.map_cons, Poll.mapFault, recast, List.map_map]
      congr 2
      refine List.map_congr_left fun other _ => ?_
      simp only [Function.comp, apply_ite (Observer.recast f)]
      rfl

end Observers

namespace Merge
variable {σ τ α : Type} {alike : σ → τ → Prop}

theorem poll_alike {ask : Side → σ → Poll α × σ} {other : Side → τ → Poll α × τ}
    (asked : ∀ side source twin, alike source twin →
      (ask side source).1 = (other side twin).1 ∧ alike (ask side source).2 (other side twin).2)
    (merge : Merge) {source : σ} {twin : τ} (start : alike source twin) :
    (merge.poll ask source).1 = (merge.poll other twin).1 ∧
      (merge.poll ask source).2.1 = (merge.poll other twin).2.1 ∧
      alike (merge.poll ask source).2.2 (merge.poll other twin).2.2 := by
  have last (merge : Merge) (side : Side) {source : σ} {twin : τ} (start : alike source twin) :
      (merge.pollLast ask side source).1 = (merge.pollLast other side twin).1 ∧
        (merge.pollLast ask side source).2.1 = (merge.pollLast other side twin).2.1 ∧
        alike (merge.pollLast ask side source).2.2 (merge.pollLast other side twin).2.2 := by
    obtain ⟨same, after⟩ := asked side source twin start
    unfold pollLast
    rcases mine : ask side source with ⟨answer, next⟩
    rcases yours : other side twin with ⟨reply, follower⟩
    rw [mine, yours] at same after
    cases same
    cases answer <;> exact ⟨rfl, rfl, after⟩
  obtain ⟨same, after⟩ := asked merge.turn source twin start
  unfold poll
  cases merge.leftEnded <;> cases merge.rightEnded
  · dsimp only
    rcases mine : ask merge.turn source with ⟨answer, next⟩
    rcases yours : other merge.turn twin with ⟨reply, follower⟩
    rw [mine, yours] at same after
    cases same
    cases answer with
    | ready value => exact ⟨rfl, rfl, after⟩
    | ended => exact last _ _ after
    | pending =>
      obtain ⟨again, behind⟩ := asked merge.turn.other next follower after
      dsimp only
      rcases second : ask merge.turn.other next with ⟨answer, beyond⟩
      rcases seconds : other merge.turn.other follower with ⟨reply, past⟩
      rw [second, seconds] at again behind
      cases again
      cases answer <;> exact ⟨rfl, rfl, behind⟩
  · exact last _ _ start
  · exact last _ _ start
  · exact ⟨rfl, rfl, start⟩

end Merge

namespace Loopback

/-- A loopback and a connection whose observers hold the same. -/
structure Twins (mock : Loopback) (wire : Link) : Prop where
  observers : mock.observers.recast Refusal.toError = wire.observers.recast Fault.toError
  alive : wire.failure = none

/-- What becomes of the two while observers come, ask and go. -/
structure Observed (mock : Loopback) (wire : Link) (nextMock : Loopback) (nextWire : Link) : Prop where
  twins : Twins nextMock nextWire
  mock : nextMock = { mock with observers := nextMock.observers }
  wire : nextWire = { wire with observers := nextWire.observers }

section
variable {mock nextMock : Loopback} {wire nextWire : Link}

theorem Twins.liveOf (twins : Twins mock wire) (kind : Message.Kind) :
    mock.observers.liveOf kind = wire.observers.liveOf kind := by
  rw [← Observers.recast_liveOf Refusal.toError, twins.observers, Observers.recast_liveOf]

theorem Twins.deliver (twins : Twins mock wire) (message : Message) (alive : nextWire.failure = none)
    (observers : nextWire.observers = wire.observers.deliver message) :
    Twins { mock with observers := mock.observers.deliver message } nextWire := by
  refine ⟨?_, alive⟩
  rw [observers, ← Observers.recast_deliver, ← Observers.recast_deliver, twins.observers]

theorem Twins.observed (twins : Twins mock wire) : Observed mock wire mock wire := ⟨twins, rfl, rfl⟩

private theorem Observed.observe (observed : Observed mock wire nextMock nextWire) (kind : Message.Kind) :
    (Transport.observe nextMock kind).1 = (Transport.observe nextWire kind).1 ∧
      Observed mock wire (Transport.observe nextMock kind).2 (Transport.observe nextWire kind).2 := by
  have registered : Transport.observe nextWire kind = ((nextWire.observers.register kind).1,
      { nextWire with observers := (nextWire.observers.register kind).2 }) := by
    change Link.observe nextWire kind = _
    rw [Link.observe, observed.twins.alive]
  have same := observed.twins.observers
  have mine := Observers.recast_register Refusal.toError nextMock.observers kind
  rw [same, Observers.recast_register] at mine
  rw [registered]
  refine ⟨congrArg Observers.next same, ⟨(congrArg Prod.snd mine).symm, observed.twins.alive⟩, ?_, ?_⟩
  · rw [observed.mock]
    rfl
  · rw [observed.wire]

private theorem Observed.release (observed : Observed mock wire nextMock nextWire) (observer : Nat) :
    Observed mock wire (Transport.release nextMock observer) (Transport.release nextWire observer) := by
  have same := congrArg (Observers.release · observer) observed.twins.observers
  simp only [Observers.recast_release] at same
  refine ⟨⟨same, observed.twins.alive⟩, ?_, ?_⟩
  · rw [observed.mock]
    rfl
  · rw [observed.wire]
    rfl

private theorem Observed.poll (observed : Observed mock wire nextMock nextWire) (observer : Nat) :
    (Transport.poll nextMock observer).1 = (Transport.poll nextWire observer).1 ∧
      Observed mock wire (Transport.poll nextMock observer).2 (Transport.poll nextWire observer).2 := by
  have same := congrArg (Observers.poll · observer) observed.twins.observers
  simp only [Observers.recast_poll, Prod.mk.injEq] at same
  refine ⟨same.1, ⟨same.2, observed.twins.alive⟩, ?_, ?_⟩
  · rw [observed.mock]
    rfl
  · rw [observed.wire]
    rfl

end

end Loopback

namespace Activity
open Loopback (Twins Observed)

/-- Two sessions in the same state, each with its own transport. -/
structure Abreast (mock : Activity Loopback) (wire : Activity Link) : Prop where
  twins : Twins mock.transport wire.transport
  session : wire.session = mock.session
  pump : wire.pump = mock.pump

/-- What becomes of two sessions when the same is done to their pumps and to what these deliver. -/
structure Tended (mock : Activity Loopback) (wire : Activity Link) (tasks : List Task) (nextMock : Activity Loopback)
    (nextWire : Activity Link) : Prop where
  observed : Observed mock.transport wire.transport nextMock.transport nextWire.transport
  session : nextWire.session = nextMock.session
  pump : nextWire.pump = nextMock.pump
  mock : nextMock = { mock with
    transport := nextMock.transport, session := nextMock.session, pump := nextMock.pump, ready := mock.ready ++ tasks }
  wire : nextWire = { wire with
    transport := nextWire.transport, session := nextWire.session, pump := nextWire.pump, ready := wire.ready ++ tasks }

section
variable {mock nextMock : Activity Loopback} {wire nextWire : Activity Link} {tasks : List Task}

theorem Tended.abreast (tended : Tended mock wire tasks nextMock nextWire) : Abreast nextMock nextWire :=
  ⟨tended.observed.twins, tended.session, tended.pump⟩

theorem Abreast.tended (abreast : Abreast mock wire) : Tended mock wire [] mock wire :=
  ⟨abreast.twins.observed, abreast.session, abreast.pump, by rw [List.append_nil], by rw [List.append_nil]⟩

private theorem stopPump_eq {τ : Type} [Transport τ] {a : Activity τ} {pump : Pump} (found : a.pump = some pump)
    (asleep : .pump ∉ a.ready) : a.stopPump = { a with
      transport := Transport.release (Transport.release a.transport pump.channels) pump.patterns, pump := none } := by
  have others : a.ready.filter (· != .pump) = a.ready :=
    List.filter_eq_self.mpr fun task member => bne_iff_ne.mpr fun same => asleep (same ▸ member)
  rw [stopPump, found, others]

private theorem startPump_eq {τ : Type} [Transport τ] {a : Activity τ} (asleep : .pump ∉ a.ready) (generation : Nat) :
    a.startPump generation = { a with
      transport := (Transport.observe (Transport.observe a.transport .channel).2 .pattern).2,
      pump := some {
        generation,
        channels := (Transport.observe a.transport .channel).1,
        patterns := (Transport.observe (Transport.observe a.transport .channel).2 .pattern).1 },
      ready := a.ready ++ [.pump] } := by
  have waking : a.ready.contains .pump = false := by simpa using asleep
  unfold startPump wake
  dsimp only
  rw [waking]
  rfl

private theorem stopPump_tended (abreast : Abreast mock wire) (quiet : .pump ∉ mock.ready) (still : .pump ∉ wire.ready) :
    Tended mock wire [] mock.stopPump wire.stopPump := by
  cases found : mock.pump with
  | none =>
    have mine : mock.stopPump = mock := by rw [stopPump, found]
    have yours : wire.stopPump = wire := by rw [stopPump, abreast.pump, found]
    rw [mine, yours]
    exact abreast.tended
  | some pump =>
    rw [stopPump_eq found quiet, stopPump_eq (abreast.pump.trans found) still]
    refine ⟨?_, abreast.session, rfl, by rw [List.append_nil], by rw [List.append_nil]⟩
    exact (abreast.twins.observed.release pump.channels).release pump.patterns

private theorem startPump_tended (abreast : Abreast mock wire) (quiet : .pump ∉ mock.ready) (still : .pump ∉ wire.ready)
    (generation : Nat) : Tended mock wire [.pump] (mock.startPump generation) (wire.startPump generation) := by
  obtain ⟨channels, first⟩ := abreast.twins.observed.observe .channel
  obtain ⟨patterns, second⟩ := first.observe .pattern
  rw [startPump_eq quiet, startPump_eq still]
  refine ⟨second, abreast.session, ?_, rfl, rfl⟩
  rw [channels, patterns]

theorem Tended.trans {more : List Task} {lastMock : Activity Loopback} {lastWire : Activity Link}
    (first : Tended mock wire tasks nextMock nextWire) (second : Tended nextMock nextWire more lastMock lastWire) :
    Tended mock wire (tasks ++ more) lastMock lastWire := by
  refine ⟨⟨second.observed.twins, ?_, ?_⟩, second.session, second.pump, ?_, ?_⟩
  · rw [second.observed.mock, first.observed.mock]
  · rw [second.observed.wire, first.observed.wire]
  · rw [second.mock, first.mock, List.append_assoc]
  · rw [second.wire, first.wire, List.append_assoc]

/-- What a session wants of its pump it wants on both sides. -/
theorem adjustPump_tended (abreast : Abreast mock wire) (quiet : .pump ∉ mock.ready) (still : .pump ∉ wire.ready) :
    ∃ tasks, (tasks = [] ∨ tasks = [.pump]) ∧ Tended mock wire tasks mock.adjustPump wire.adjustPump := by
  have stopped := stopPump_tended abreast quiet still
  have quietly : .pump ∉ mock.stopPump.ready := by rw [stopped.mock, List.append_nil]; exact quiet
  have stilly : .pump ∉ wire.stopPump.ready := by rw [stopped.wire, List.append_nil]; exact still
  unfold adjustPump
  rw [abreast.session, abreast.pump]
  split
  · exact ⟨[], .inl rfl, stopped⟩
  next generation _ =>
    split
    · exact ⟨[], .inl rfl, abreast.tended⟩
    · exact ⟨[.pump], .inr rfl, stopped.trans (startPump_tended stopped.abreast quietly stilly generation)⟩

private theorem askSide_observed {base : Loopback} {other : Link} (pump : Pump) (side : Side) {mock : Loopback} {wire : Link}
    (observed : Observed base other mock wire) :
    (askSide pump side mock).1 = (askSide pump side wire).1 ∧
      Observed base other (askSide pump side mock).2 (askSide pump side wire).2 := by
  unfold askSide
  cases side
  all_goals
    dsimp only
    split
    · exact ⟨rfl, observed⟩
    · exact observed.poll _

private theorem pollPump_tended (abreast : Abreast mock wire) (pump : Pump) :
    (mock.pollPump pump (askSide pump)).1 = (wire.pollPump pump (askSide pump)).1 ∧
      Tended mock wire [] (mock.pollPump pump (askSide pump)).2 (wire.pollPump pump (askSide pump)).2 := by
  have asked (side : Side) (source : Loopback) (twin : Link) (observed : Observed mock.transport wire.transport source twin) :=
    askSide_observed pump side observed
  obtain ⟨item, merge, after⟩ := Merge.poll_alike asked pump.merge abreast.twins.observed
  refine ⟨item, after, abreast.session, ?_, ?_, ?_⟩
  · unfold pollPump
    dsimp only
    rw [merge]
  · rw [List.append_nil]
    rfl
  · rw [List.append_nil]
    rfl

theorem runPump_idle {τ : Type} [Transport τ] {a next : Activity τ} {pump : Pump} (found : a.pump = some pump)
    (polled : a.pollPump pump (askSide pump) = (.pending, next)) (budget : Nat) : a.runPump (budget + 1) = next := by
  rw [runPump, found]
  dsimp only
  rw [polled]

theorem runPump_message {τ : Type} [Transport τ] {a next : Activity τ} {pump : Pump} {message : Message}
    (found : a.pump = some pump) (polled : a.pollPump pump (askSide pump) = (.ready (.ok message), next)) (budget : Nat) :
    a.runPump (budget + 1) =
      runPump { next with session := next.session.publish pump.generation (.ok message) } budget := by
  rw [runPump, found]
  dsimp only
  rw [polled]

private theorem Tended.publish (tended : Tended mock wire tasks nextMock nextWire) (generation : Nat) (item : Item) :
    Tended mock wire tasks { nextMock with session := nextMock.session.publish generation item }
      { nextWire with session := nextWire.session.publish generation item } := by
  refine ⟨tended.observed, ?_, tended.pump, ?_, ?_⟩
  · rw [tended.session]
  · rw [tended.mock]
  · rw [tended.wire]

/-- A turn of the pump in which everything that waits is taken. -/
theorem runPump_tended {waiting : List Message} {budget : Nat} (enough : waiting.length < budget)
    (abreast : Abreast mock wire) (whole : ∀ pump, wire.pump = some pump → pump.Whole)
    (held : wire.transport.observers.members = Pump.holding waiting wire.transport.failure wire.pump) :
    Tended mock wire [] (mock.runPump budget) (wire.runPump budget) := by
  induction budget generalizing waiting mock wire with
  | zero => exact absurd enough (Nat.not_lt_zero _)
  | succ budget ih =>
    cases found : wire.pump with
    | none =>
      have mine : mock.runPump (budget + 1) = mock := by rw [runPump, ← abreast.pump, found]
      have yours : wire.runPump (budget + 1) = wire := by rw [runPump, found]
      rw [mine, yours]
      exact abreast.tended
    | some pump =>
      obtain ⟨same, polled⟩ := pollPump_tended abreast pump
      have piped : mock.pump = some pump := abreast.pump.symm.trans found
      have own := whole pump found
      have alive := abreast.twins.alive
      rw [found] at held
      rcases mine : mock.pollPump pump (askSide pump) with ⟨item, nextMock⟩
      rw [mine] at same polled
      cases picked : Merge.pick wire.transport.failure.isSome pump.merge.turn waiting with
      | none =>
        rw [alive] at picked
        cases Merge.pick_none picked
        have yours := pollPump_idle own held alive
        rw [yours] at same polled
        cases same
        rw [runPump_idle piped mine, runPump_idle found yours]
        exact polled
      | some message =>
        obtain ⟨observers, yours, left⟩ := pollPump_first own held picked
        rw [yours] at same polled
        cases same
        have fewer : (waiting.erase message).length < budget := by
          have one := List.length_erase_of_mem (Merge.pick_mem picked)
          have some := List.length_pos_of_mem (Merge.pick_mem picked)
          omega
        have given := polled.publish pump.generation (.ok message)
        rw [runPump_message piped mine, runPump_message found yours]
        exact given.trans (ih fewer given.abreast (fun _ same => by cases same; exact own.turned) left)

end

end Activity

end Subscriber
