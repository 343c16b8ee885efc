import Subscriber.Proofs.Asides
import Subscriber.Proofs.Pumping

/-! A session over a connection, from step to step and from turn to turn. Its pump is always the one that its
streams want, and holds what was read and not taken; calls leave all that alone, unless they cancel. -/

namespace Subscriber

/-- The messages that a pump takes in its next turn, and those it leaves. -/
def Pump.takes (pump : Pump) (failed : Bool) (waiting : List Message) : List Message × List Message :=
  Merge.takes failed Activity.pumpTurn pump.merge.turn waiting

namespace Link

theorem observe_holding (link : Link) (kind : Message.Kind) :
    link.observe kind = (link.observers.next, { link with
      observers := {
        next := link.observers.next + 1,
        members := link.observers.members ++ [.holding link.observers.next kind [] link.failure] } }) := by
  unfold observe
  cases known : link.failure with
  | none =>
    rw [show link = { link with failure := none } by rw [← known]]
    rfl
  | some fault =>
    rw [show link = { link with failure := some fault } by rw [← known]]
    rfl

end Link

namespace Activity

section
variable {a b : Activity Link}

/-- What still waits after something has happened. For a new pump nothing does. -/
def kept (before after : Activity Link) (waiting : List Message) : List Message :=
  if after.pump.map (·.generation) = before.pump.map (·.generation) then waiting else []

theorem kept_same {before after : Activity Link} (same : after.pump.map (·.generation) = before.pump.map (·.generation))
    (waiting : List Message) : kept before after waiting = waiting := if_pos same

/-- The state of the delivery, while the pump may not be the one that is wanted. -/
structure Carried (activity : Activity Link) (waiting : List Message) : Prop where
  sound : activity.session.fanout.Sound
  whole : ∀ pump, activity.pump = some pump → pump.Whole
  carries : activity.transport.Carries (.pump ∈ activity.ready) activity.pump waiting
  collected : activity.transport.signals = []

structure Piped (activity : Activity Link) (waiting : List Message) : Prop extends Carried activity waiting where
  aligned : activity.pump.map (·.generation) = activity.session.fanout.pump

theorem Carried.aside {waiting : List Message} (carried : a.Carried waiting) (aside : Aside a b)
    (sound : b.session.fanout.Sound) : b.Carried waiting := by
  refine ⟨sound, ?_, ⟨?_, fun piped busy => Or.inl ?_, ?_⟩, ?_⟩
  · rw [aside.pump]
    exact carried.whole
  · rw [aside.observers, aside.failure, aside.pump]
    exact carried.carries.members
  · rw [aside.pump] at piped
    rw [aside.failure] at busy
    apply aside.awake
    rcases carried.carries.told piped busy with awake | told
    · exact awake
    · rw [carried.collected] at told
      cases told
  · rw [aside.closed]
    exact carried.carries.opened
  · rw [aside.signals]
    exact carried.collected

theorem Piped.aside {waiting : List Message} (piped : a.Piped waiting) (aside : Aside a b)
    (same : b.session.fanout = a.session.fanout) : b.Piped waiting := by
  refine ⟨piped.toCarried.aside aside (same ▸ piped.sound), ?_⟩
  rw [aside.pump, same]
  exact piped.aligned

private theorem stopPump_carried {waiting : List Message} (carried : a.Carried waiting) :
    a.stopPump.Carried [] ∧ a.stopPump.pump = none ∧ a.stopPump.session = a.session := by
  cases piped : a.pump with
  | none =>
    have still : a.stopPump = a := by
      rw [stopPump, piped]
    have members := carried.carries.members
    rw [piped] at members
    rw [still]
    refine ⟨⟨carried.sound, carried.whole, ⟨?_, ?_, carried.carries.opened⟩, carried.collected⟩, piped, rfl⟩
    · rw [piped]
      exact members
    · rw [piped]
      nofun
  | some pump =>
    have own : ∀ observer ∈ a.transport.observers.members, observer.id = pump.channels ∨ observer.id = pump.patterns := by
      rw [carried.carries.members, piped]
      exact fun observer member => Pump.mem_holding member
    obtain ⟨observers, ready, stopped, alone⟩ := stopPump_alone piped own
    rw [stopped]
    exact ⟨⟨carried.sound, nofun, ⟨alone, nofun, carried.carries.opened⟩, carried.collected⟩, rfl, rfl⟩

private theorem startPump_piped (carried : a.Carried []) (stopped : a.pump = none) (generation : Nat)
    (wanted : a.session.fanout.pump = some generation) :
    (a.startPump generation).Piped [] ∧ (a.startPump generation).pump.map (·.generation) = some generation ∧
      (a.startPump generation).session = a.session := by
  let first := a.transport.observers.next
  let observers : Observers Fault := {
    next := first + 2,
    members := Pump.holding [] a.transport.failure (some { generation, channels := first, patterns := first + 1 }) }
  have alone := carried.carries.members
  rw [stopped] at alone
  have started : a.startPump generation =
      Activity.wake { a with
        transport := { a.transport with observers },
        pump := some { generation, channels := first, patterns := first + 1 } } .pump := by
    have observed : Transport.observe a.transport .channel = _ := Link.observe_holding a.transport .channel
    unfold startPump
    rw [observed]
    dsimp only
    have again : Transport.observe { a.transport with observers := {
        next := a.transport.observers.next + 1,
        members := a.transport.observers.members ++
          [Observer.holding a.transport.observers.next .channel [] a.transport.failure] } } .pattern = _ :=
      Link.observe_holding _ .pattern
    rw [again]
    dsimp only
    rw [alone]
    rfl
  have whole : Pump.Whole { generation, channels := first, patterns := first + 1 } :=
    ⟨Nat.ne_of_lt (Nat.lt_succ_self first), rfl, rfl, rfl, rfl⟩
  rw [started]
  refine ⟨⟨⟨?_, ?_, ⟨?_, fun _ _ => Or.inl (mem_wake _ _), ?_⟩, ?_⟩, ?_⟩, ?_, ?_⟩
  · rw [wake_session]
    exact carried.sound
  · rw [wake_pump]
    intro pump same
    cases same
    exact whole
  · rw [wake_transport, wake_pump]
  · rw [wake_transport]
    exact carried.carries.opened
  · rw [wake_transport]
    exact carried.collected
  · rw [wake_pump, wake_session]
    exact wanted.symm
  · rw [wake_pump]
    rfl
  · rw [wake_session]

theorem adjustPump_piped {waiting : List Message} (carried : a.Carried waiting) :
    a.adjustPump.Piped (kept a a.adjustPump waiting) ∧ a.adjustPump.session = a.session := by
  obtain ⟨stopped, gone, same⟩ := stopPump_carried carried
  unfold adjustPump
  split
  next unwanted =>
    refine ⟨⟨?_, ?_⟩, same⟩
    · cases piped : a.pump with
      | none =>
        have still : a.stopPump = a := by
          rw [stopPump, piped]
        rw [still, kept_same rfl]
        exact carried
      | some pump =>
        have new : kept a a.stopPump waiting = [] := if_neg (by rw [gone, piped]; nofun)
        rw [new]
        exact stopped
    · rw [gone, same]
      exact unwanted.symm
  next generation wanted =>
    split
    next current =>
      rw [kept_same rfl]
      refine ⟨⟨carried, ?_⟩, rfl⟩
      obtain ⟨pump, piped, generation⟩ := (Option.any_eq_true _ _).mp current
      rw [piped, wanted]
      exact congrArg some (beq_iff_eq.mp generation)
    next other =>
      obtain ⟨started, new, session⟩ := startPump_piped stopped gone generation (same ▸ wanted)
      -- A new pump has a generation of its own, so what waited for the old one is gone.
      have emptied : kept a (a.stopPump.startPump generation) waiting = [] := by
        apply if_neg
        rw [new]
        intro equal
        apply other
        obtain ⟨pump, piped, current⟩ := Option.map_eq_some_iff.mp equal.symm
        rw [piped]
        exact beq_iff_eq.mpr current
      rw [emptied]
      exact ⟨started, session.trans same⟩

theorem runCall_piped {waiting : List Message} (piped : a.Piped waiting) (call : Nat) :
    (a.runCall call).Piped (kept a (a.runCall call) waiting) ∧
      a.session.fanout.Quits (a.runCall call).session.fanout := by
  obtain ⟨after, detours, adjusted | ⟨still, rfl⟩⟩ := runCall_detours a call
  · obtain ⟨brought, same⟩ := adjustPump_piped (piped.toCarried.aside detours.toAside (detours.quits.sound piped.sound))
    have unchanged : kept a after.adjustPump waiting = kept after after.adjustPump waiting := by
      rw [kept, kept, detours.pump]
    rw [adjusted, unchanged, same]
    exact ⟨brought, detours.quits⟩
  · rw [still, kept_same rfl]
    exact ⟨piped, Or.inl rfl⟩

/-- The turn that reads brings new messages behind those that wait. -/
theorem runBackground_piped {waiting : List Message} (piped : a.Piped waiting) :
    a.runBackground.Piped (waiting ++ a.transport.arriving) ∧ a.runBackground.pump = a.pump ∧
      a.runBackground.session.fanout = a.session.fanout := by
  let link := a.transport.work
  let collected : Activity Link := { a with transport := { link with signals := [] } }
  have turn : a.runBackground = (link.signals.map (·.mapFault Fault.toError)).foldl hear collected := rfl
  obtain ⟨aside, same, told⟩ := foldl_hear_aside (link.signals.map (·.mapFault Fault.toError)) collected
  rw [← turn] at aside same told
  have worked : link.Carries (.pump ∈ a.ready) a.pump (waiting ++ a.transport.arriving) := Link.work_carries piped.carries
  refine ⟨⟨⟨same ▸ piped.sound, ?_, ⟨?_, fun some busy => Or.inl ?_, ?_⟩, aside.signals⟩, ?_⟩, aside.pump, same⟩
  · rw [aside.pump]
    exact piped.whole
  · rw [aside.observers, aside.failure, aside.pump]
    exact worked.members
  · rw [aside.pump] at some
    rw [aside.failure] at busy
    rcases worked.told some busy with awake | signalled
    · exact aside.awake awake
    · exact told (List.mem_map_of_mem (f := (·.mapFault Fault.toError)) signalled) some
  · rw [aside.closed]
    exact worked.opened
  · rw [aside.pump, same]
    exact piped.aligned

/-- A turn of the pump leaves behind what it did not take, or nothing if it came upon the failure. -/
theorem runPump_piped {waiting : List Message} {pump : Pump} (piped : a.Piped waiting) (found : a.pump = some pump)
    (ready : List Task) :
    (Ongoing a pump (pump.takes a.transport.failure.isSome waiting).1 (pump.takes a.transport.failure.isSome waiting).2
        (runPump { a with ready } pumpTurn) ∧
      (runPump { a with ready } pumpTurn).Piped (pump.takes a.transport.failure.isSome waiting).2) ∨
    ((pump.takes a.transport.failure.isSome waiting).1.length < pumpTurn ∧
      Broken a (pump.takes a.transport.failure.isSome waiting).1 (runPump { a with ready } pumpTurn) ∧
      (runPump { a with ready } pumpTurn).Piped []) := by
  have aligned : a.session.fanout.pump = some pump.generation := by
    rw [← piped.aligned, found]
    rfl
  have held := piped.carries.members
  rw [found] at held
  have taken := runPump_takes (a := { a with ready }) pumpTurn found (piped.whole pump found) aligned held
  rcases taken with ongoing | ⟨early, broken⟩
  · left
    obtain ⟨merge, goes, whole⟩ := ongoing.piped
    obtain ⟨observers, same, left⟩ := ongoing.transport
    refine ⟨⟨ongoing.piped, ongoing.transport, ongoing.fanout, ongoing.awake⟩, ⟨⟨?_, ?_, ⟨?_, ?_, ?_⟩, ?_⟩, ?_⟩⟩
    · rw [ongoing.fanout]
      exact piped.sound.deliverAll _
    · rw [goes]
      intro other same
      cases same
      exact whole
    · rw [same, goes]
      exact left
    · rw [same]
      exact fun _ busy => Or.inl (ongoing.awake busy)
    · rw [same]
      exact piped.carries.opened
    · rw [same]
      exact piped.collected
    · rw [goes, ongoing.fanout, Fanout.pump_deliverAll]
      exact aligned.symm
  · right
    obtain ⟨observers, same, alone⟩ := broken.transport
    obtain ⟨fault, failed, interrupted⟩ := broken.fanout
    refine ⟨early, ⟨broken.pump, broken.transport, broken.fanout⟩, ⟨⟨?_, ?_, ⟨?_, ?_, ?_⟩, ?_⟩, ?_⟩⟩
    · rw [interrupted]
      exact (piped.sound.deliverAll _).interrupt _
    · rw [broken.pump]
      nofun
    · rw [broken.pump, same]
      exact alone
    · rw [broken.pump]
      nofun
    · rw [same]
      exact piped.carries.opened
    · rw [same]
      exact piped.collected
    · rw [broken.pump, interrupted]
      rfl

theorem session_piped {waiting : List Message} (piped : a.Piped waiting) (session : Session)
    (sound : session.fanout.Sound) :
    (adjustPump { a with session }).Piped (kept a (adjustPump { a with session }) waiting) ∧
      (adjustPump { a with session }).session = session :=
  adjustPump_piped (a := { a with session }) (piped.toCarried.aside ⟨rfl, rfl, rfl, rfl, rfl, id⟩ sound)

theorem begin_piped {waiting : List Message} (piped : a.Piped waiting) (step : Step Link)
    (uncut : ∀ kind, step ≠ .cut kind) : (a.begin step).2.Piped (kept a (a.begin step).2 waiting) := by
  have aside {b : Activity Link} (moved : Aside a b ∧ b.session.fanout = a.session.fanout) : b.Piped (kept a b waiting) := by
    rw [kept_same (by rw [moved.1.pump])]
    exact piped.aside moved.1 moved.2
  cases step with
  | cut kind => exact absurd rfl (uncut kind)
  | openStream =>
    have opened : Piped { a with session := { a.session with fanout := a.session.fanout.openStream.2 } } waiting :=
      ⟨piped.toCarried.aside ⟨rfl, rfl, rfl, rfl, rfl, id⟩ (Fanout.openStream_sound piped.sound), piped.aligned⟩
    have same : kept a (a.begin .openStream).2 waiting = waiting := kept_same rfl waiting
    rw [same]
    exact opened
  | poll stream =>
    unfold begin
    dsimp only
    split
    · rw [kept_same rfl]
      exact piped
    · exact (session_piped piped _ ((Session.poll_eq _ stream).2 ▸ Fanout.poll_sound piped.sound stream)).1
  | drain stream =>
    unfold begin
    dsimp only
    split
    · rw [kept_same rfl]
      exact piped
    · have sound : (a.session.drain stream).2.2.fanout.Sound :=
        @Session.drainOnto_keeps Fanout.Sound stream (fun _ sound => Fanout.poll_sound sound stream) [] _ a.session
          piped.sound
      exact (session_piped piped _ sound).1
  | drop stream =>
    exact (session_piped piped _ (Session.fanout_drop a.session stream ▸ Fanout.drop_sound piped.sound stream)).1
  | _ => exact aside (begin_aside a _ trivial)

end

def Reply.found : Reply → List Item
  | .item polled => polled.items
  | .items drained last => drained ++ last.items
  | .nothing | .known _ | .stream _ | .noStream => []

def Step.yields (stream : Nat) (reply : Reply) : Step Link → List Item
  | .poll other | .drain other => if other = stream then reply.found else []
  | _ => []

/-- What a step does to one stream, and what it yields to it. -/
inductive Moves (stream : Nat) (before : Fanout) : List Item → Fanout → Prop where
  | spares {after} (spares : before.Spares stream after) : Moves stream before [] after
  | opens {after} (absent : before.stream? stream = none) (opened : after.stream? stream = some .detached) :
    Moves stream before [] after
  | enters {items after} (fresh : before.stream? stream = some .detached) (enters : before.Enters stream items after) :
    Moves stream before items after
  | draws {items after} (joined : before.Joined stream) (draws : before.Orderly stream → before.Draws stream items after) :
    Moves stream before items after
  | leaves {after} (gone : after.stream? stream = none) : Moves stream before [] after

section
variable {a : Activity Link} {waiting : List Message}

private theorem poll_moves (stream : Nat) {attachment : Attachment}
    (present : a.session.fanout.stream? stream = some attachment) :
    Moves stream a.session.fanout (a.session.fanout.poll stream).1.items (a.session.fanout.poll stream).2 := by
  by_cases fresh : attachment = .detached
  · subst fresh
    exact .enters present (Fanout.poll_enters present)
  · have joined : a.session.fanout.Joined stream := ⟨attachment, present, fresh⟩
    exact .draws joined fun orderly => Fanout.poll_draws joined orderly

private theorem drain_moves (stream : Nat) {attachment : Attachment}
    (present : a.session.fanout.stream? stream = some attachment) :
    Moves stream a.session.fanout ((a.session.drain stream).1 ++ (a.session.drain stream).2.1.items)
      (a.session.drain stream).2.2.fanout := by
  by_cases fresh : attachment = .detached
  · subst fresh
    exact .enters present (Session.drain_enters present)
  · have joined : a.session.fanout.Joined stream := ⟨attachment, present, fresh⟩
    refine .draws joined fun orderly => ?_
    obtain ⟨drawn, yielded, draws⟩ :=
      Session.drainOnto_draws [] (a.session.fanout.backlog stream) a.session joined orderly
    unfold Session.drain
    rw [yielded]
    exact draws

theorem begin_moves (piped : a.Piped waiting) (stream : Nat) (step : Step Link) (uncut : ∀ kind, step ≠ .cut kind) :
    Moves stream a.session.fanout (step.yields stream (a.begin step).1) (a.begin step).2.session.fanout := by
  have aside {after : Fanout} (same : after = a.session.fanout) : Moves stream a.session.fanout [] after :=
    .spares (same ▸ .refl stream _)
  have brought (session : Session) (sound : session.fanout.Sound) :
      (adjustPump { a with session }).session.fanout = session.fanout :=
    congrArg Session.fanout (session_piped piped session sound).2
  cases step with
  | cut kind => exact absurd rfl (uncut kind)
  | openStream =>
    change Moves stream a.session.fanout [] a.session.fanout.openStream.2
    by_cases own : stream = a.session.fanout.streams.length
    · subst own
      exact .opens (by simp [Fanout.stream?]) (Fanout.stream?_openStream_self _)
    · exact .spares (Fanout.openStream_spares own)
  | poll other =>
    unfold begin
    dsimp only
    split
    · simpa [Step.yields, Reply.found] using aside rfl
    next attachment present =>
      have polled := Session.poll_eq a.session other
      have sound : (a.session.poll other).2.fanout.Sound := polled.2 ▸ Fanout.poll_sound piped.sound other
      rw [brought _ sound, polled.2]
      by_cases own : other = stream
      · subst own
        simp only [Step.yields, Reply.found, if_true, polled.1]
        exact poll_moves other present
      · simp only [Step.yields, if_neg own]
        exact .spares (Fanout.poll_spares piped.sound (Ne.symm own))
  | drain other =>
    unfold begin
    dsimp only
    split
    · simpa [Step.yields, Reply.found] using aside rfl
    next attachment present =>
      have kept : (a.session.drain other).2.2.fanout.Sound ∧
          (other ≠ stream → a.session.fanout.Spares stream (a.session.drain other).2.2.fanout) :=
        @Session.drainOnto_keeps
          (fun fanout => fanout.Sound ∧ (other ≠ stream → a.session.fanout.Spares stream fanout)) other
          (fun _ kept => ⟨Fanout.poll_sound kept.1 other, fun different =>
            (kept.2 different).trans (Fanout.poll_spares kept.1 different.symm)⟩)
          [] _ a.session ⟨piped.sound, fun _ => .refl stream _⟩
      rw [brought _ kept.1]
      by_cases own : other = stream
      · subst own
        simp only [Step.yields, Reply.found, if_true]
        exact drain_moves other present
      · simp only [Step.yields, if_neg own]
        exact .spares (kept.2 own)
  | drop other =>
    have dropped := Session.fanout_drop a.session other
    have sound : (a.session.drop other).fanout.Sound := dropped ▸ Fanout.drop_sound piped.sound other
    change Moves stream a.session.fanout [] (adjustPump { a with session := a.session.drop other }).session.fanout
    rw [brought _ sound, dropped]
    by_cases own : other = stream
    · subst own
      exact .leaves (Fanout.drop_leaves a.session.fanout other)
    · exact .spares (Fanout.drop_spares piped.sound (Ne.symm own))
  | _ => exact aside (begin_aside a _ trivial).2

end

end Activity

end Subscriber
