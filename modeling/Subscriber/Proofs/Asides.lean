import Subscriber.Proofs.Bypassing
import Subscriber.Proofs.FanOut
import Subscriber.Proofs.LinkFailure

/-! What commands leave alone. Calls, the gate before them and the signals that answer them neither touch the
delivery of messages nor put it to sleep; the one thing a call may do to the streams is to cancel them all. -/

namespace Subscriber

namespace Fanout

private theorem deliver_alone {fanout : Fanout} (alone : fanout.consumers = []) (item : Item) : fanout.deliver item = fanout := by
  have idle : (fanout.deliver item).streams = fanout.streams := by
    unfold deliver
    rw [alone]
    refine (List.map_congr_left fun slot _ => ?_).trans (List.map_id _)
    split
    · exact if_neg nofun
    · rfl
  calc
    fanout.deliver item = { fanout with streams := (fanout.deliver item).streams } := rfl
    _ = fanout := by rw [idle]

theorem cancel_cancel (fanout : Fanout) : fanout.cancel.cancel = fanout.cancel := by
  have alone : fanout.cancel.deliver (.error .cancelled) = fanout.cancel := deliver_alone rfl _
  change { fanout.cancel.deliver (.error .cancelled) with cancelled := true, consumers := [], pump := none } = _
  rw [alone]
  rfl

/-- What a call may do to the streams of a session. -/
def Quits (before after : Fanout) : Prop := after = before ∨ after = before.cancel

theorem Quits.trans {a b c : Fanout} (first : Quits a b) (second : Quits b c) : Quits a c := by
  rcases first with rfl | rfl
  · exact second
  · rcases second with rfl | rfl
    · exact Or.inr rfl
    · exact Or.inr (cancel_cancel a)

theorem Quits.sound {before after : Fanout} (quits : Quits before after) (sound : before.Sound) : after.Sound := by
  rcases quits with rfl | rfl
  · exact sound
  · exact ⟨(sound.interrupt .cancelled).numbered, (sound.interrupt .cancelled).apart, fun left => absurd rfl left⟩

end Fanout

namespace Session
open Fanout (Quits)

theorem fanout_hear (session : Session) (phase : Phase) (answer : Except Error Unit) :
    (session.hear phase answer).fanout = session.fanout := by
  unfold hear
  split <;> rfl

theorem fanout_update (session : Session) (kind : Message.Kind) (added : Bool) (names : List Bytes) (sweeping : Bool) :
    (session.update kind added names sweeping).fanout = session.fanout := by
  cases kind <;> rfl

theorem finishCancel_quits (session : Session) (first : Bool) (channels patterns : Except Error Unit) :
    Quits session.fanout (session.finishCancel first channels patterns).2.fanout := by
  unfold finishCancel
  dsimp only
  split <;> exact Or.inr rfl

theorem cancelPatterns_quits (session : Session) (first : Bool) (channels : Except Error Unit) :
    Quits session.fanout (session.cancelPatterns first channels).2.fanout := by
  unfold cancelPatterns
  split
  · exact finishCancel_quits session first channels (.ok ())
  · exact Or.inl rfl

theorem start_quits (session : Session) (operation : Operation) :
    Quits session.fanout (session.start operation).2.fanout := by
  unfold start
  cases operation with
  | add kind targets =>
    dsimp only
    split
    · exact Or.inl rfl
    · split <;> exact Or.inl rfl
  | remove kind targets =>
    dsimp only
    split
    · exact Or.inl rfl
    · unfold remove
      split <;> exact Or.inl rfl
  | removeAll kind =>
    dsimp only [remove]
    split <;> exact Or.inl rfl
  | cancel =>
    dsimp only
    split
    · exact cancelPatterns_quits { session with cancelled := true } _ _
    · exact Or.inl rfl

theorem resume_quits (session : Session) (phase : Phase) (answer : Except Error Unit) :
    Quits session.fanout (session.resume phase answer).2.fanout := by
  have heard := fanout_hear session phase answer
  unfold resume
  dsimp only
  split
  · split
    · exact Or.inl heard
    · exact Or.inl ((fanout_update ..).trans heard)
  · exact Or.inl heard
  · exact Or.inl heard
  · exact Or.inl ((fanout_update ..).trans heard)
  · exact Or.inl heard
  next targets first =>
    have swept :=
      (fanout_update (session.hear (.clearingChannels targets first) (.ok ())) .channel false targets true).trans heard
    exact swept ▸ cancelPatterns_quits _ _ _
  · exact heard ▸ cancelPatterns_quits _ _ _
  next targets first channels =>
    have swept :=
      (fanout_update (session.hear (.clearingPatterns targets first channels) (.ok ())) .pattern false targets
        true).trans heard
    exact swept ▸ finishCancel_quits _ _ _ _
  · exact heard ▸ finishCancel_quits _ _ _ _

theorem quitting (base : Fanout) : Advancing fun session => Quits base session.fanout :=
  ⟨fun session operation quits => quits.trans (start_quits session operation),
    fun session phase answer quits => quits.trans (resume_quits session phase answer)⟩

end Session

/-- What there is of a connection besides the requests. -/
def Link.delivery (link : Link) : Observers Fault × Option Fault × Bool × List (Signal Fault) :=
  (link.observers, link.failure, link.closed, link.signals)

theorem Link.reserved : Activity.Reserved Link.delivery := by
  refine ⟨fun link call verb targets => ?_, fun _ _ => rfl⟩
  obtain ⟨queue, waiting, requested⟩ := Link.request_eq link call verb targets
  change (link.request call verb targets).2.delivery = link.delivery
  rw [requested]
  rfl

namespace Activity

/-- What has to do with commands only. The pump is neither touched nor put to sleep. -/
structure Aside (before after : Activity Link) : Prop where
  pump : after.pump = before.pump
  observers : after.transport.observers = before.transport.observers
  failure : after.transport.failure = before.transport.failure
  closed : after.transport.closed = before.transport.closed
  signals : after.transport.signals = before.transport.signals
  awake : .pump ∈ before.ready → .pump ∈ after.ready

/-- A call besides may cancel the session. -/
structure Detours (before after : Activity Link) : Prop extends Aside before after where
  quits : before.session.fanout.Quits after.session.fanout

section
variable {a b c : Activity Link}

theorem Aside.trans (first : Aside a b) (second : Aside b c) : Aside a c :=
  ⟨second.pump.trans first.pump, second.observers.trans first.observers, second.failure.trans first.failure,
    second.closed.trans first.closed, second.signals.trans first.signals, fun awake => second.awake (first.awake awake)⟩

theorem Aside.wake (aside : Aside a b) (task : Task) : Aside a (b.wake task) :=
  ⟨by simp [aside.pump], by simp [aside.observers], by simp [aside.failure], by simp [aside.closed],
    by simp [aside.signals], fun awake => wake_mono (aside.awake awake) task⟩

theorem Aside.bypass (bypasses : Bypasses Link.delivery a b) : Aside a b where
  pump := bypasses.pump
  observers := congrArg Prod.fst bypasses.transport
  failure := congrArg (·.2.1) bypasses.transport
  closed := congrArg (·.2.2.1) bypasses.transport
  signals := congrArg (·.2.2.2) bypasses.transport
  awake := bypasses.awake

theorem submit_detours (a : Activity Link) (call : Nat) (phase : Phase) : Detours a (a.submit call phase) :=
  ⟨.bypass (submit_bypasses Link.reserved a call phase),
    submit_advances (Session.quitting a.session.fanout) a call phase (.inl rfl)⟩

theorem proceed_detours (a : Activity Link) (call : Nat) (progress : Progress) : Detours a (a.proceed call progress) :=
  ⟨.bypass (proceed_bypasses Link.reserved a call progress),
    proceed_advances (Session.quitting a.session.fanout) a call progress (.inl rfl)⟩

theorem runCall_detours (a : Activity Link) (call : Nat) :
    ∃ after, Detours a after ∧ (a.runCall call = after.adjustPump ∨ a.runCall call = after ∧ after = a) := by
  have moved (session : Session) (progress : Progress) (quits : a.session.fanout.Quits session.fanout) :
      Detours a ({ a with session }.proceed call progress) := by
    have onward := proceed_detours { a with session } call progress
    exact ⟨.trans (b := { a with session }) ⟨rfl, rfl, rfl, rfl, rfl, id⟩ onward.toAside, quits.trans onward.quits⟩
  unfold runCall
  split
  next operation _ => exact ⟨_, moved _ _ (Session.start_quits a.session operation), Or.inl rfl⟩
  next phase _ => exact ⟨_, submit_detours a call phase, Or.inl rfl⟩
  next phase answer _ => exact ⟨_, moved _ _ (Session.resume_quits a.session phase answer), Or.inl rfl⟩
  · exact ⟨a, ⟨⟨rfl, rfl, rfl, rfl, rfl, id⟩, Or.inl rfl⟩, Or.inr ⟨rfl, rfl⟩⟩

theorem Aside.unready {task : Task} (other : task ≠ .pump) (a : Activity Link) :
    Aside a { a with ready := a.ready.erase task } :=
  ⟨rfl, rfl, rfl, rfl, rfl, fun awake => (List.mem_erase_of_ne other.symm).mpr awake⟩

private theorem hear_aside (a : Activity Link) (signal : Signal Error) :
    Aside a (a.hear signal) ∧ (a.hear signal).session.fanout = a.session.fanout := by
  have still : Aside a a := ⟨rfl, rfl, rfl, rfl, rfl, id⟩
  unfold hear
  cases signal with
  | answer call answer =>
    dsimp only
    split
    next phase _ =>
      have answered : Aside a (a.setStage call (.answered phase answer)) := ⟨rfl, rfl, rfl, rfl, rfl, id⟩
      exact ⟨answered.wake (.call call), by rw [wake_session]; rfl⟩
    · exact ⟨still, rfl⟩
  | admitted call =>
    dsimp only
    split
    · exact ⟨still.wake _, by rw [wake_session]⟩
    · exact ⟨still, rfl⟩
  | observed =>
    dsimp only
    split
    · exact ⟨still.wake _, by rw [wake_session]⟩
    · exact ⟨still, rfl⟩
  | notice notice => exact ⟨⟨rfl, rfl, rfl, rfl, rfl, id⟩, rfl⟩

/-- Signals of a connection change what waits for calls, and wake the pump when there is something for it. -/
theorem foldl_hear_aside (signals : List (Signal Error)) (a : Activity Link) :
    Aside a (signals.foldl hear a) ∧ (signals.foldl hear a).session.fanout = a.session.fanout ∧
      (.observed ∈ signals → a.pump.isSome = true → .pump ∈ (signals.foldl hear a).ready) := by
  induction signals generalizing a with
  | nil => exact ⟨⟨rfl, rfl, rfl, rfl, rfl, id⟩, rfl, nofun⟩
  | cons signal signals ih =>
    obtain ⟨aside, same⟩ := hear_aside a signal
    obtain ⟨later, kept, told⟩ := ih (a.hear signal)
    refine ⟨aside.trans later, kept.trans same, fun member piped => ?_⟩
    rcases List.mem_cons.mp member with rfl | behind
    · apply later.awake
      rw [hear, if_pos piped]
      exact mem_wake a .pump
    · exact told behind (by rw [aside.pump]; exact piped)

theorem begin_aside (a : Activity Link) (step : Step Link)
    (other : match step with
      | .call .. | .abandon _ | .setGate _ | .letThrough _ | .letFirstThrough | .transport _ => True
      | _ => False) : Aside a (a.begin step).2 ∧ (a.begin step).2.session.fanout = a.session.fanout := by
  have past {b : Activity Link} (bypasses : Bypasses Link.delivery a b ∧ b.session = a.session) :
      Aside a b ∧ b.session.fanout = a.session.fanout := ⟨.bypass bypasses.1, congrArg Session.fanout bypasses.2⟩
  cases step with
  | transport event =>
    have met : Aside a { a with transport := a.transport.meet event } := by
      cases event <;> exact ⟨rfl, rfl, rfl, rfl, rfl, id⟩
    exact ⟨met.wake .background, congrArg Session.fanout (wake_session _ _)⟩
  | openStream | poll | drain | drop | cut => exact False.elim other
  | _ => exact past (begin_bypasses Link.reserved a _ trivial)

end

end Activity

end Subscriber
