import Subscriber.Proofs.Closing
import Subscriber.Proofs.Logging

/-! What the streams of a session hold decides only what is read from them, once nobody is given anything any more. So two
such sessions that differ in nothing else, but for the log, stay like that, whatever is done to both of them. -/

namespace Subscriber

namespace Fanout

/-- The streams that have not been dropped, without what they hold. -/
def bare (fanout : Fanout) : Fanout := { fanout with streams := fanout.streams.map (·.map fun _ => .done) }

/-- Nobody is given anything in either of the two any more, and only what the streams hold tells them apart. -/
structure Unread (a b : Fanout) : Prop where
  silent : a.Silent
  same : b.bare = a.bare

section
variable {a b fanout : Fanout} {stream : Nat}

private theorem Silent.of_bare (silent : a.Silent) (same : b.bare = a.bare) : b.Silent :=
  ⟨(congrArg Fanout.cancelled same).trans silent.cancelled, (congrArg Fanout.consumers same).trans silent.alone,
    (congrArg Fanout.pump same).trans silent.idle⟩

theorem Unread.symm (unread : a.Unread b) : b.Unread a := ⟨unread.silent.of_bare unread.same, unread.same.symm⟩

theorem Unread.trans {c : Fanout} (first : a.Unread b) (second : b.Unread c) : a.Unread c :=
  ⟨first.silent, second.same.trans first.same⟩

private theorem bare_setStream {old : Attachment} (present : fanout.stream? stream = some old) (new : Attachment) :
    (fanout.setStream stream (some new)).bare = fanout.bare := by
  have place : (fanout.streams.map (·.map fun _ => Attachment.done))[stream]? = some (some .done) := by
    rw [List.getElem?_map, Option.join_eq_some_iff.mp present]
    rfl
  obtain ⟨inside, found⟩ := List.getElem?_eq_some_iff.mp place
  have same := List.set_getElem_self inside
  rw [found] at same
  unfold bare setStream
  dsimp only
  rw [List.map_set]
  exact congrArg (fun streams => { fanout with streams }) same

private theorem bare_deliver (fanout : Fanout) (item : Item) : (fanout.deliver item).bare = fanout.bare := by
  have streams : (fanout.deliver item).bare.streams = fanout.bare.streams := by
    unfold bare deliver
    dsimp only
    rw [List.map_map]
    refine List.map_congr_left fun slot _ => ?_
    rw [Function.comp]
    split
    · split <;> rfl
    · rfl
  exact congrArg (fun streams => { fanout with streams }) streams

/-- Whatever its streams have been given, a fan-out ends the same ones. -/
private theorem bare_cancel (fanout : Fanout) :
    fanout.cancel.bare = { fanout.bare with cancelled := true, consumers := [], pump := none } :=
  congrArg (fun ended : Fanout => { ended with cancelled := true, consumers := [], pump := none }) (bare_deliver fanout _)

theorem bare_cancel_publish (fanout : Fanout) (generation : Nat) (item : Item) :
    (fanout.publish generation item).cancel.bare = fanout.cancel.bare := by
  have delivered := congrArg (fun ended : Fanout => { ended with cancelled := true, consumers := [], pump := none })
    (bare_deliver fanout item)
  rw [bare_cancel, bare_cancel]
  unfold publish
  split
  · cases item with
    | ok message => exact delivered
    | error interruption => exact delivered
  · rfl

theorem bare_cancel_finish (fanout : Fanout) (generation : Nat) :
    (fanout.finish generation).cancel.bare = fanout.cancel.bare := by
  rw [bare_cancel, bare_cancel]
  unfold finish
  split <;> rfl

private theorem Silent.bare_poll (silent : fanout.Silent) (stream : Nat) : (fanout.poll stream).2.bare = fanout.bare := by
  have emptied {old : Attachment} (present : fanout.stream? stream = some old) (consumer : Nat) :
      ((fanout.setStream stream (some .done)).detach consumer).bare = fanout.bare := by
    rw [(silent.setStream stream _).detach]
    exact bare_setStream present .done
  unfold Fanout.poll
  split
  · rfl
  · rfl
  next present =>
    rw [if_pos silent.cancelled]
    exact bare_setStream present .done
  next present =>
    split
    · rfl
    · exact emptied present _
  next present => exact bare_setStream present _
  next present => exact emptied present _

private theorem Silent.bare_drop (silent : fanout.Silent) (stream : Nat) :
    (fanout.drop stream).bare = fanout.bare.setStream stream none := by
  have dropped : (fanout.setStream stream none).bare = fanout.bare.setStream stream none :=
    congrArg (fun streams => { fanout with streams }) List.map_set
  unfold Fanout.drop
  split
  · rw [(silent.setStream stream none).detach]
    exact dropped
  · exact dropped

private theorem Unread.cancel (unread : a.Unread b) : a.cancel.Unread b.cancel := by
  refine ⟨⟨rfl, rfl, rfl⟩, ?_⟩
  rw [bare_cancel, bare_cancel, unread.same]

private theorem Unread.openStream (unread : a.Unread b) :
    b.openStream.1 = a.openStream.1 ∧ a.openStream.2.Unread b.openStream.2 := by
  have opened (fanout : Fanout) : fanout.openStream.2.bare = { fanout.bare with streams := fanout.bare.streams ++ [some .done] } :=
    congrArg (fun streams => { fanout with streams }) List.map_append
  have number (fanout : Fanout) : fanout.openStream.1 = fanout.bare.streams.length := (List.length_map _).symm
  refine ⟨?_, ⟨unread.silent.cancelled, unread.silent.alone, unread.silent.idle⟩, ?_⟩
  · rw [number, number, unread.same]
  · rw [opened, opened, unread.same]

private theorem Unread.absent (unread : a.Unread b) (stream : Nat) : b.stream? stream = none ↔ a.stream? stream = none := by
  have seen (fanout : Fanout) : fanout.bare.stream? stream = none ↔ fanout.stream? stream = none := by
    unfold Fanout.stream? bare
    dsimp only
    rw [List.getElem?_map]
    rcases fanout.streams[stream]? with _ | _ | _ <;> simp
  rw [← seen b, unread.same, seen a]

end

end Fanout

namespace Session

/-- Alike; or else, unless they have to be `exact`, only what the streams hold tells the two apart, and the log. -/
def Akin (exact : Bool) : Session → Session → Prop :=
  Resembles fun mine yours => yours = mine ∨ exact = false ∧ mine.Unread yours

section
variable {a b c : Session} {exact : Bool}

theorem Alike.akin (alike : Alike a b) (exact : Bool) : Akin exact a b := by
  obtain ⟨notices, rfl⟩ := alike
  exact ⟨notices, a.fanout, rfl, .inl rfl⟩

/-- Two that resemble each other are alike, or else nobody is given anything in either of them. -/
theorem Akin.either (akin : Akin exact a b) : Alike a b ∨ exact = false ∧ a.fanout.Unread b.fanout := by
  obtain ⟨notices, fanout, rfl, rfl | ⟨free, unread⟩⟩ := akin
  · exact .inl ⟨notices, rfl⟩
  · exact .inr ⟨free, unread⟩

theorem Akin.alike (akin : Akin true a b) : Alike a b := akin.either.resolve_right fun free => by cases free.1

theorem Akin.refl (session : Session) : Akin exact session session := (Alike.refl session).akin exact

theorem Akin.symm (akin : Akin exact a b) : Akin exact b a := by
  obtain ⟨notices, fanout, rfl, rfl | ⟨free, unread⟩⟩ := akin
  · exact ⟨a.notices, a.fanout, rfl, .inl rfl⟩
  · exact ⟨a.notices, a.fanout, rfl, .inr ⟨free, unread.symm⟩⟩

theorem Akin.trans (first : Akin exact a b) (second : Akin exact b c) : Akin exact a c := by
  obtain ⟨_, _, rfl, near⟩ := first
  obtain ⟨notices, fanout, rfl, far⟩ := second
  refine ⟨notices, fanout, rfl, ?_⟩
  rcases near with rfl | ⟨free, unread⟩
  · exact far
  · rcases far with rfl | ⟨-, later⟩
    · exact .inr ⟨free, unread⟩
    · exact .inr ⟨free, unread.trans later⟩

theorem Akin.pump (akin : Akin exact a b) : b.fanout.pump = a.fanout.pump := by
  obtain ⟨notices, fanout, rfl, rfl | ⟨-, unread⟩⟩ := akin
  · rfl
  · have idle := unread.symm.silent.idle
    exact idle.trans unread.silent.idle.symm

theorem Akin.bare (akin : Akin exact a b) : b.fanout.bare = a.fanout.bare := by
  obtain ⟨notices, fanout, rfl, rfl | ⟨-, unread⟩⟩ := akin
  · rfl
  · exact unread.same

private theorem cancels_akin (mine yours : Fanout) (same : yours = mine ∨ exact = false ∧ mine.Unread yours) :
    yours.cancel = mine.cancel ∨ exact = false ∧ mine.cancel.Unread yours.cancel :=
  same.imp (congrArg Fanout.cancel) (And.imp_right Fanout.Unread.cancel)

theorem Akin.start (akin : Akin exact a b) (operation : Operation) :
    (b.start operation).1 = (a.start operation).1 ∧ Akin exact (a.start operation).2 (b.start operation).2 :=
  Resembles.start cancels_akin akin operation

theorem Akin.resume (akin : Akin exact a b) (phase : Phase) (answer : Except Error Unit) :
    (b.resume phase answer).1 = (a.resume phase answer).1 ∧ Akin exact (a.resume phase answer).2 (b.resume phase answer).2 :=
  Resembles.resume cancels_akin akin phase answer

theorem Akin.note (akin : Akin exact a b) (notice other : Notice) : Akin exact (a.note notice) (b.note other) :=
  Resembles.note akin notice other

/-- A session in which nobody is given anything is left as it is by whatever leaves its fan-out as it is, but for the log. -/
private theorem publish_idle (idle : a.fanout.pump = none) (generation : Nat) (item : Item) : a.publish generation item = a := by
  have stale : a.fanout.pump ≠ some generation := by rw [idle]; exact nofun
  have same : a.fanout.publish generation item = a.fanout := if_neg stale
  unfold Session.publish
  dsimp only
  rw [same]
  cases item with
  | ok message => rfl
  | error interruption => exact if_neg stale

private theorem finish_idle (idle : a.fanout.pump = none) (generation : Nat) : a.finish generation = a := by
  have stale : a.fanout.pump ≠ some generation := by rw [idle]; exact nofun
  have same : a.fanout.finish generation = a.fanout := if_neg stale
  unfold Session.finish
  dsimp only
  rw [same]
  exact if_neg stale

theorem Akin.publish (akin : Akin exact a b) (generation : Nat) (item : Item) :
    Akin exact (a.publish generation item) (b.publish generation item) := by
  rcases akin.either with alike | ⟨-, unread⟩
  · exact (alike.publish generation item).akin exact
  · rw [publish_idle unread.silent.idle, publish_idle unread.symm.silent.idle]
    exact akin

theorem Akin.finish (akin : Akin exact a b) (generation : Nat) : Akin exact (a.finish generation) (b.finish generation) := by
  rcases akin.either with alike | ⟨-, unread⟩
  · exact (alike.finish generation).akin exact
  · rw [finish_idle unread.silent.idle, finish_idle unread.symm.silent.idle]
    exact akin

private theorem poll_idle (silent : a.fanout.Silent) (stream : Nat) :
    ∃ fanout, (a.poll stream).2 = { a with fanout } ∧ fanout.bare = a.fanout.bare := by
  have bare := silent.bare_poll stream
  have idle := (silent.of_bare bare).idle
  refine ⟨(a.fanout.poll stream).2, ?_, bare⟩
  unfold Session.poll
  dsimp only
  rw [silent.idle, idle]

/-- What is done to a stream may leave the streams with something else than before, but does nothing else to such a session. -/
private theorem Akin.replace (akin : Akin exact a b) (free : exact = false) {mine yours : Fanout} 
    (unread : mine.Unread yours) : Akin exact { a with fanout := mine } { b with fanout := yours } := by
  obtain ⟨notices, fanout, rfl, -⟩ := akin
  exact ⟨notices, yours, rfl, .inr ⟨free, unread⟩⟩

theorem Akin.poll (akin : Akin exact a b) (stream : Nat) :
    (exact = true → (b.poll stream).1 = (a.poll stream).1) ∧ Akin exact (a.poll stream).2 (b.poll stream).2 := by
  rcases akin.either with alike | ⟨free, unread⟩
  · obtain ⟨same, polled⟩ := alike.poll stream
    exact ⟨fun _ => same, polled.akin exact⟩
  · refine ⟨fun strict => absurd strict (by simp [free]), ?_⟩
    obtain ⟨mine, left, kept⟩ := poll_idle unread.silent stream
    obtain ⟨yours, left', kept'⟩ := poll_idle unread.symm.silent stream
    rw [left, left']
    exact akin.replace free ⟨unread.silent.of_bare kept, kept'.trans (unread.same.trans kept.symm)⟩

private theorem drainOnto_idle (silent : a.fanout.Silent) (items : List Item) (more stream : Nat) :
    ∃ fanout, (a.drainOnto items more stream).2.2 = { a with fanout } ∧ fanout.bare = a.fanout.bare := by
  induction more generalizing items a with
  | zero => exact poll_idle silent stream
  | succ more ih =>
    obtain ⟨fanout, polled, kept⟩ := poll_idle silent stream
    unfold Session.drainOnto
    rcases answer : a.poll stream with ⟨found, after⟩
    rw [answer] at polled
    dsimp only at polled
    subst polled
    cases found with
    | ready item =>
      obtain ⟨later, drained, same⟩ := ih (a := { a with fanout }) (silent.of_bare kept) (item :: items)
      exact ⟨later, drained, same.trans kept⟩
    | pending => exact ⟨fanout, rfl, kept⟩
    | ended => exact ⟨fanout, rfl, kept⟩

theorem Akin.drain (akin : Akin exact a b) (stream : Nat) :
    (exact = true → (b.drain stream).1 = (a.drain stream).1 ∧ (b.drain stream).2.1 = (a.drain stream).2.1) ∧
      Akin exact (a.drain stream).2.2 (b.drain stream).2.2 := by
  rcases akin.either with alike | ⟨free, unread⟩
  · obtain ⟨items, last, drained⟩ := alike.drainOnto [] (a.fanout.backlog stream) stream
    unfold Session.drain
    rw [alike.fanout]
    exact ⟨fun _ => ⟨items, last⟩, drained.akin exact⟩
  · refine ⟨fun strict => absurd strict (by simp [free]), ?_⟩
    obtain ⟨mine, left, kept⟩ := drainOnto_idle unread.silent [] (a.fanout.backlog stream) stream
    obtain ⟨yours, left', kept'⟩ := drainOnto_idle unread.symm.silent [] (b.fanout.backlog stream) stream
    unfold Session.drain
    rw [left, left']
    exact akin.replace free ⟨unread.silent.of_bare kept, kept'.trans (unread.same.trans kept.symm)⟩

private theorem drop_idle (silent : a.fanout.Silent) (stream : Nat) :
    ∃ fanout, a.drop stream = { a with fanout } ∧ fanout.bare = a.fanout.bare.setStream stream none := by
  refine ⟨a.fanout.drop stream, ?_, silent.bare_drop stream⟩
  unfold Session.drop
  dsimp only
  rw [silent.idle]

theorem Akin.drop (akin : Akin exact a b) (stream : Nat) : Akin exact (a.drop stream) (b.drop stream) := by
  rcases akin.either with alike | ⟨free, unread⟩
  · exact (alike.drop stream).akin exact
  · obtain ⟨mine, left, kept⟩ := drop_idle unread.silent stream
    obtain ⟨yours, left', kept'⟩ := drop_idle unread.symm.silent stream
    have silent : mine.Silent := by
      have fields := unread.silent
      exact ⟨(congrArg Fanout.cancelled kept).trans fields.cancelled, (congrArg Fanout.consumers kept).trans fields.alone,
        (congrArg Fanout.pump kept).trans fields.idle⟩
    rw [left, left']
    refine akin.replace free ⟨silent, ?_⟩
    rw [kept, kept', unread.same]

theorem Akin.openStream (akin : Akin exact a b) : b.fanout.openStream.1 = a.fanout.openStream.1 ∧
    Akin exact { a with fanout := a.fanout.openStream.2 } { b with fanout := b.fanout.openStream.2 } := by
  rcases akin.either with alike | ⟨free, unread⟩
  · obtain ⟨notices, rfl⟩ := alike
    exact ⟨rfl, notices, _, rfl, .inl rfl⟩
  · obtain ⟨same, opened⟩ := unread.openStream
    exact ⟨same, akin.replace free opened⟩

theorem Akin.absent (akin : Akin exact a b) (stream : Nat) :
    b.fanout.stream? stream = none ↔ a.fanout.stream? stream = none := by
  rcases akin.either with alike | ⟨-, unread⟩
  · rw [alike.fanout]
  · exact unread.absent stream

end

end Session

end Subscriber
