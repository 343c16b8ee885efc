import Mathlib.Data.List.Induction
import Subscriber.Loopback
import Subscriber.Proofs.OwnTurns

/-! Half a cancellation. The flag is raised first and the rest follows when the answers have come, in the same call: if
that call is given up in between, the session says that it is cancelled and goes on as if it were not. -/

namespace Subscriber

namespace Fanout

private theorem cancelled_act (fanout : Fanout) {event : Event} (other : event ≠ .cancel) :
    (fanout.act event).cancelled = fanout.cancelled := by
  have same : (fanout.act event).outline.2 = fanout.outline.2 := by
    cases event with
    | openStream => rfl
    | poll stream => exact congrArg Prod.snd (outline_poll fanout stream)
    | drop stream => exact congrArg Prod.snd (outline_drop fanout stream)
    | publish item => exact congrArg Prod.snd (act_publish fanout item).outline
    | finish => exact congrArg Prod.snd (act_finish fanout).outline
    | late generation found => rw [act_late]
    | cancel => exact absurd rfl other
  exact same

end Fanout

namespace Session
variable {session after : Session} {progress : Progress}

private theorem start_fanout {operation : Operation} (stepped : session.start operation = (progress, after)) :
    after.fanout = session.fanout ∨ operation = .cancel ∧ ∃ result, progress = .finished result := by
  by_cases cancels : operation = .cancel
  · subst cancels
    cases progress with
    | finished result => exact .inr ⟨rfl, result, rfl⟩
    | asking next =>
      refine .inl ?_
      unfold start at stepped
      dsimp only at stepped
      split at stepped
      · rw [cancelPatterns_still stepped]
      · cases stepped
        rfl
  · have still := @start_still session operation cancels
    rw [stepped] at still
    exact .inl (congrArg fanout still)

private theorem resume_fanout {phase : Phase} {answer : Except Error Unit} (stepped : session.resume phase answer = (progress, after)) :
    after.fanout = session.fanout ∨ phase.Clears ∧ ∃ result, progress = .finished result := by
  have heard := fanout_hear session phase answer
  cases phase with
  | adding kind names =>
    refine .inl ?_
    cases answer with
    | ok =>
      simp only [resume] at stepped
      split at stepped
      · cases stepped
        rfl
      · cases stepped
        exact fanout_update ..
    | error error =>
      cases stepped
      exact heard
  | undoing kind names =>
    cases stepped
    exact .inl heard
  | removing kind names sweeping =>
    refine .inl ?_
    cases answer with
    | ok =>
      cases stepped
      exact fanout_update ..
    | error error =>
      cases stepped
      exact heard
  | clearingChannels names first =>
    cases progress with
    | finished result => exact .inr ⟨trivial, result, rfl⟩
    | asking next =>
      refine .inl ?_
      cases answer with
      | ok => exact (congrArg fanout (cancelPatterns_still stepped)).trans (fanout_update ..)
      | error error => exact (congrArg fanout (cancelPatterns_still stepped)).trans heard
  | clearingPatterns names first channels => cases answer <;> (cases stepped; exact .inr ⟨trivial, _, rfl⟩)

/-- Streams still attach to the delivery and are given messages. -/
def Unended (session : Session) : Prop := session.fanout.cancelled = false

/-- How far a call has come in a session whose streams go on. -/
def GoesOn (operation : Operation) (_ : List Deed) : Progress → Session → Prop
  | .asking phase, session => (phase.Clears → operation = .cancel) ∧ session.Unended
  | .finished _, session => operation = .cancel ∨ session.Unended

private theorem path_goesOn (operation : Operation) : Path operation Unended (GoesOn operation) := by
  have kept {session after : Session} (same : after.fanout = session.fanout) (unended : session.Unended) : after.Unended :=
    (congrArg Fanout.cancelled same).trans unended
  refine ⟨fun session unended => ?_, fun deeds phase session answer asked => ?_⟩
  · rcases stepped : session.start operation with ⟨result | next, after⟩
    · rcases start_fanout stepped with same | ⟨cancels, -⟩
      · exact .inr (kept same unended)
      · exact .inl cancels
    · rcases start_fanout stepped with same | ⟨-, result, impossible⟩
      · exact ⟨start_clears stepped, kept same unended⟩
      · cases impossible
  · obtain ⟨only, unended⟩ := asked
    rcases stepped : session.resume phase answer with ⟨result | next, after⟩
    · rcases resume_fanout stepped with same | ⟨clears, -⟩
      · exact .inr (kept same unended)
      · exact .inl (only clears)
    · rcases resume_fanout stepped with same | ⟨-, result, impossible⟩
      · exact ⟨fun clears => only (resume_clears stepped clears), kept same unended⟩
      · cases impossible

/-- The flag is raised by a cancellation and by nothing else. -/
def Raises (operation : Operation) (_ : List Deed) (_ : Progress) (session : Session) : Prop :=
  operation = .cancel ∨ session.cancelled = false

private theorem path_raises (operation : Operation) : Path operation (·.cancelled = false) (Raises operation) := by
  refine ⟨fun session calm => ?_, fun deeds phase session answer asked => ?_⟩
  · by_cases cancels : operation = .cancel
    · exact .inl cancels
    · exact .inr ((congrArg cancelled (start_still cancels)).trans calm)
  · rcases stepped : session.resume phase answer with ⟨progress, after⟩
    exact asked.imp_right fun calm => (resume_cancelled stepped).trans calm

/-- Nothing is left of the session: no names, no delivery and nobody who waits for messages. -/
structure TornDown (session : Session) : Prop where
  channels : session.channels = {}
  patterns : session.patterns = {}
  inactive : session.fanout.isActive = false
  alone : session.fanout.consumers = []

private theorem Closed.tornDown (closed : session.Closed) : session.TornDown := by
  refine ⟨closed.channels, closed.patterns, ?_, closed.silent.alone⟩
  rw [Fanout.isActive, closed.silent.idle]
  rfl

private theorem Unended.activates (unended : session.Unended) (stream : Nat) (detached : session.fanout.stream? stream = some .detached) :
    (session.poll stream).2.fanout.isActive = true := by
  have polled : (session.fanout.poll stream).2 = session.fanout.attach stream := by
    unfold Fanout.poll
    rw [detached]
    dsimp only
    rw [if_neg (by rw [unended]; exact Bool.false_ne_true)]
  rw [(poll_eq session stream).2, polled, Fanout.isActive, Fanout.attach]
  cases running : session.fanout.pump with
  | none => rfl
  | some generation =>
    dsimp only [Fanout.setStream]
    rfl

end Session

namespace Activity
open Session (TornDown Unended GoesOn)

section
variable {τ : Type} [Transport τ] {transport : τ} {list : List (Move τ)}

private theorem followed_goesOn : Followed Unended GoesOn := by
  have acts (fanout : Fanout) (event : Fanout.Event) (other : event ≠ .cancel) (unended : fanout.cancelled = false) :
      (fanout.act event).cancelled = false := (fanout.cancelled_act other).trans unended
  have passive := @Session.passive_acts (fun fanout => fanout.cancelled = false) fun fanout event _ => acts fanout event
  refine ⟨passive, ?_, ?_, Session.path_goesOn, ?_⟩
  · intro session stream unended
    unfold Unended
    rw [(Session.poll_eq session stream).2]
    exact acts session.fanout (.poll stream) nofun unended
  · intro session stream unended
    unfold Unended
    rw [Session.fanout_drop]
    exact acts session.fanout (.drop stream) nofun unended
  · exact fun operation deeds phase session asked unended => ⟨asked.1.1, unended⟩

def Completed (transport : τ) (list : List (Move τ)) : Prop :=
  ∃ call result, .step (.call call .cancel) ∈ list ∧ (call, result) ∈ (moves { transport } list).finished

/-- As long as no cancellation has returned, streams go on. -/
theorem unended_of_incomplete (numbered : Numbered list) (incomplete : ¬ Completed transport list) :
    (moves { transport } list).session.Unended := by
  induction list using List.reverseRecOn with
  | nil => rfl
  | append_singleton list move ih =>
    have before : ¬ Completed transport list := by
      rintro ⟨call, result, started, finished⟩
      exact incomplete ⟨call, result, List.mem_append_left _ started, finished_concat numbered started finished⟩
    rcases followed_goesOn.move numbered.left (ih numbered.left before) move with
      still | ⟨call, operation, _, progress, started, asserted, returned⟩
    · exact still
    · cases progress with
      | asking phase => exact asserted.2
      | finished result =>
        rcases asserted with rfl | still
        · exact absurd ⟨call, result, List.mem_append_left _ started, returned result rfl⟩ incomplete
        · exact still

private theorem followed_raises : Followed (·.cancelled = false) Session.Raises := by
  have recorded (before after : Session) (same : Session.SameRecord before after) (calm : before.cancelled = false) :
      after.cancelled = false := same.cancelled.trans calm
  refine ⟨⟨?_, ?_, ?_, ?_⟩, ?_, ?_, Session.path_raises, ?_⟩
  · exact fun session calm => calm
  · exact fun session generation item => recorded session _ (Session.publish_sameRecord session generation item)
  · exact fun session generation => recorded session _ (Session.finish_sameRecord session generation)
  · exact fun session notice calm => calm
  · exact fun session stream => recorded session _ (Session.poll_sameRecord session stream)
  · exact fun session stream => recorded session _ (Session.drop_sameRecord session stream)
  · exact fun operation deeds phase session _ calm => .inr calm

private theorem cancel_started (numbered : Numbered list) (cancelled : (moves { transport } list).session.cancelled = true) :
    ∃ call, .step (.call call .cancel) ∈ list := by
  induction list using List.reverseRecOn with
  | nil => cases cancelled
  | append_singleton list move ih =>
    cases before : (moves { transport } list).session.cancelled with
    | true =>
      obtain ⟨call, started⟩ := ih numbered.left before
      exact ⟨call, List.mem_append_left _ started⟩
    | false =>
      rcases followed_raises.move numbered.left before move with still | ⟨call, operation, _, progress, started, rfl | still, -⟩
      · rw [cancelled] at still
        cases still
      · exact ⟨call, List.mem_append_left _ started⟩
      · rw [cancelled] at still
        cases still

/-- A cancellation that has returned has torn the session down for good. -/
theorem torn_down_after (numbered : Numbered list) {call : Nat} {result : Except Error Unit}
    (started : .step (.call call .cancel) ∈ list) (finished : (call, result) ∈ (moves { transport } list).finished)
    (later : List (Move τ)) : TornDown (moves { transport } (list ++ later)).session := by
  have cancels := path_holds Session.path_cancels (.const True) Session.lasting_cancels transport trivial numbered started
  rw [moves_append]
  exact (moves_lasting Session.lasting_closed _ later (cancels.ended result finished).2).tornDown

private theorem delivers_on (numbered : Numbered list) (incomplete : ¬ Completed transport list) : ∃ stream,
    ¬ TornDown (moves { transport } (list ++ [.step .openStream, .step (.poll stream)])).session := by
  let opened := (moves { transport } list).move (.step .openStream)
  let stream := (moves { transport } list).session.fanout.streams.length
  have unended : opened.session.Unended := unended_of_incomplete numbered incomplete
  have detached : opened.session.fanout.stream? stream = some .detached :=
    Fanout.stream?_openStream_self (moves { transport } list).session.fanout
  have polled : opened.move (.step (.poll stream)) =
      adjustPump { opened with session := (opened.session.poll stream).2 } := congrArg Prod.snd (begin_poll_some detached)
  refine ⟨stream, fun torn => ?_⟩
  have inactive := torn.inactive
  rw [moves_append] at inactive
  change (opened.move (.step (.poll stream))).session.fanout.isActive = false at inactive
  rw [polled, adjustPump_session, unended.activates stream detached] at inactive
  cases inactive

/-- Torn down, or half torn down. Whatever is interleaved, fails or is given up: a session is torn down, and stays so
whatever comes later, if and only if some cancellation has returned. So, when no call is under way, a session that says it
is cancelled has been torn down if none of its cancellations was given up; whereas one whose cancellations have all been
given up delivers messages to the next stream that is polled. -/
theorem torn_down_iff (transport : τ) (list : List (Move τ)) (numbered : Numbered list) :
    ((∀ later, Numbered (list ++ later) → TornDown (moves { transport } (list ++ later)).session) ↔
      ∃ call result, .step (.call call .cancel) ∈ list ∧ (call, result) ∈ (moves { transport } list).finished) ∧
    ((moves { transport } list).session.cancelled = true → (moves { transport } list).calls = [] →
      (∀ call, .step (.call call .cancel) ∈ list → .step (.abandon call) ∉ list) →
        TornDown (moves { transport } list).session) := by
  refine ⟨⟨fun always => ?_, ?_⟩, fun cancelled idle kept => ?_⟩
  · by_contra incomplete
    obtain ⟨stream, going⟩ := delivers_on numbered incomplete
    refine going (always _ ?_)
    rw [Numbered, List.filterMap_append]
    exact (List.append_nil _).symm ▸ numbered
  · rintro ⟨call, result, started, finished⟩ later -
    exact torn_down_after numbered started finished later
  · obtain ⟨call, started⟩ := cancel_started numbered cancelled
    by_cases returned : ∃ result, (call, result) ∈ (moves { transport } list).finished
    · obtain ⟨result, finished⟩ := returned
      exact List.append_nil list ▸ torn_down_after numbered started finished []
    · obtain ⟨stage, found⟩ := under_way numbered started (kept call started) (not_exists.mp returned)
      have listed := stage?_mem found
      rw [idle] at listed
      cases listed

end

/-- The first cancellation is given up while it waits for leave to send its command, and the session delivers on; the
second returns. -/
theorem torn_down_iff_repeated :
    let quiet : Loopback := {}
    let list : List (Move Loopback) :=
      [.step .openStream, .step (.poll 0), .step (.call 0 (.add .channel [[97]])), .turn (.call 0), .step (.setGate true),
        .step (.call 1 .cancel), .turn (.call 1), .step (.abandon 1), .step (.setGate false)]
    let again : List (Move Loopback) := list ++ [.step (.call 2 .cancel), .turn (.call 2)]
    Numbered again ∧ (moves { transport := quiet } list).session.fanout.isActive = true ∧
      ∀ later, Numbered (again ++ later) → TornDown (moves { transport := quiet } (again ++ later)).session := by
  intro quiet list again
  have numbered : Numbered again := by
    unfold Numbered
    decide +kernel
  have started : .step (.call 2 .cancel) ∈ again := by simp [again]
  have returned : (2, .ok ()) ∈ (moves { transport := quiet } again).finished := by decide +kernel
  exact ⟨numbered, by decide +kernel, (torn_down_iff quiet again numbered).1.mpr ⟨2, .ok (), started, returned⟩⟩

/-- Whoever gives up the only cancellation leaves a session that says it is cancelled, with no call under way, its channel
still tracked and a stream still attended to. -/
theorem abandoned_cancel_leaves_half :
    let script : List (Step Loopback) :=
      [.openStream, .poll 0, .call 2 (.add .channel [[97]]), .setGate true, .call 4 .cancel, .abandon 4]
    let quiet : Activity Loopback := { transport := {} }
    let final := script.foldl (fun activity step => (Activity.step activity step).2) quiet
    final.ready = [] ∧ final.calls = [] ∧ final.session.cancelled = true ∧
      final.session.channels = { names := [[97]] } ∧ final.session.fanout.isActive = true ∧
      final.session.fanout.consumers = [0] := by
  decide +kernel

end Activity

end Subscriber
