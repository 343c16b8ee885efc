import Subscriber.Proofs.Hearing

/-! What a stream of a session gets to see of what arrives, over all steps of the session and all orders of its turns.
The order of arrival is kept, and nothing is lost to a failure, exactly if the turns of the pump were right for it. -/

namespace Subscriber
open Merge (Balanced)

/-- A session over a connection, and the record of one of its streams. -/
structure Watch where
  activity : Activity Link
  /-- The messages that were read and that the pump has not taken, in the order of their arrival. -/
  waiting : List Message := []
  record : Record := {}

namespace Watch

def attends (stream : Nat) (watch : Watch) : Bool := watch.activity.session.fanout.attends stream

/-- A step from outside. A stream that is not there has no record. -/
def act (stream : Nat) (watch : Watch) (step : Activity.Step Link) : Watch :=
  let (reply, activity) := watch.activity.begin step
  let waiting := watch.activity.kept activity watch.waiting
  let joins := !watch.attends stream && activity.session.fanout.attends stream
  let record := { watch.record with
    arrived := if joins then waiting else watch.record.arrived
    yielded := watch.record.yielded ++ step.yields stream reply }
  { activity, waiting, record := if (activity.session.fanout.stream? stream).isSome then record else {} }

def turn (stream : Nat) (watch : Watch) (task : Task) : Watch :=
  let activity := { watch.activity with ready := watch.activity.ready.erase task }.run task
  match task with
  | .call _ => { watch with activity, waiting := watch.activity.kept activity watch.waiting }
  | .background =>
    let new := watch.activity.transport.arriving
    { watch with
      activity, waiting := watch.waiting ++ new,
      record :=
        if watch.attends stream then { watch.record with arrived := watch.record.arrived ++ new } else watch.record }
  | .pump =>
    match watch.activity.pump with
    | none => { watch with activity }
    | some pump =>
      let left := (pump.takes watch.activity.transport.failure.isSome watch.waiting).2
      { watch with
        activity, waiting := watch.activity.kept activity left,
        record :=
          if watch.attends stream then
            { watch.record with turns := watch.record.turns ++ [(pump.merge.turn, watch.waiting)] }
          else watch.record }

/-- Whatever can happen to a session over a connection: steps from outside may come between any two turns, and
turns may be given in any order. Streams of messages are not cut. -/
inductive Reached (stream : Nat) : Watch → Prop where
  | start (connection : Connection) (queueSize : Nat) :
    Reached stream { activity := { transport := .ofConnection connection queueSize } }
  | act {watch} (reached : Reached stream watch) (step : Activity.Step Link) (uncut : ∀ kind, step ≠ .cut kind) :
    Reached stream (watch.act stream step)
  | turn {watch task} (reached : Reached stream watch) (ready : task ∈ watch.activity.ready) :
    Reached stream (watch.turn stream task)

def settle (stream : Nat) : Nat → Watch → Watch
  | 0, watch => watch
  | turns + 1, watch =>
    match watch.activity.ready with
    | [] => watch
    | task :: _ => settle stream turns (watch.turn stream task)

def step (stream : Nat) (watch : Watch) (step : Activity.Step Link) : Watch :=
  settle stream (watch.activity.begin step).2.turns (watch.act stream step)

private theorem activity_turn (stream : Nat) (watch : Watch) (task : Task) : (watch.turn stream task).activity =
    { watch.activity with ready := watch.activity.ready.erase task }.run task := by
  unfold turn
  cases task with
  | call call => rfl
  | background => rfl
  | pump =>
    dsimp only
    split <;> rfl

private theorem activity_settle (stream turns : Nat) (watch : Watch) :
    (settle stream turns watch).activity = Activity.runTasks turns watch.activity := by
  induction turns generalizing watch with
  | zero => rfl
  | succ turns ih =>
    cases wanting : watch.activity.ready with
    | nil => simp only [settle, Activity.runTasks, wanting]
    | cons task ready =>
      simp only [settle, Activity.runTasks, wanting]
      rw [ih, activity_turn, wanting, List.erase_cons_head]

/-- What is watched is the session as it runs. -/
theorem activity_step (stream : Nat) (watch : Watch) (step : Activity.Step Link) :
    (watch.step stream step).activity = (watch.activity.step step).2 := activity_settle stream _ _

private theorem Reached.settle {stream : Nat} {watch : Watch} (reached : Reached stream watch) (turns : Nat) :
    Reached stream (settle stream turns watch) := by
  induction turns generalizing watch with
  | zero => exact reached
  | succ turns ih =>
    cases wanting : watch.activity.ready with
    | nil => simpa only [Watch.settle, wanting] using reached
    | cons task ready =>
      simp only [Watch.settle, wanting]
      exact ih (reached.turn (wanting ▸ List.mem_cons_self))

private theorem Reached.step {stream : Nat} {watch : Watch} (reached : Reached stream watch) (step : Activity.Step Link)
    (uncut : ∀ kind, step ≠ .cut kind) : Reached stream (watch.step stream step) := (reached.act step uncut).settle _

/-- A session whose first stream has been polled once when these bytes arrive in one piece, and is then drained. -/
def fed (text : String) : Watch :=
  let start : Watch := { activity := { transport := .ofConnection {} 1 } }
  let attached := (start.step 0 .openStream).step 0 (.poll 0)
  (attached.step 0 (.transport (.arrive (.piece (Bytes.ofText text))))).step 0 (.drain 0)

theorem reached_fed (text : String) : Reached 0 (fed text) := by
  have start : Reached 0 { activity := { transport := .ofConnection {} 1 } } := .start {} 1
  have opened := start.step .openStream fun _ same => by cases same
  have attached := opened.step (.poll 0) fun _ same => by cases same
  have arrived := attached.step (.transport (.arrive (.piece (Bytes.ofText text)))) fun _ same => by cases same
  exact arrived.step (.drain 0) fun _ same => by cases same

end Watch

namespace Link

theorem steady_failure : Activity.Steady Link.failure :=
  ⟨fun link kind => by rw [show Transport.observe link kind = _ from observe_holding link kind], fun _ _ => rfl,
    fun _ _ => rfl⟩

end Link

namespace Activity

theorem begin_keeps (a : Activity Link) (step : Step Link) : a.transport.Keeps (a.begin step).2.transport := by
  apply Link.Keeps.of_eq
  cases step with
  | openStream => exact (begin_delivers Link.steady_failure a .openStream trivial).transport
  | poll stream => exact (begin_delivers Link.steady_failure a (.poll stream) trivial).transport
  | drain stream => exact (begin_delivers Link.steady_failure a (.drain stream) trivial).transport
  | drop stream => exact (begin_delivers Link.steady_failure a (.drop stream) trivial).transport
  | cut kind => exact (begin_delivers Link.steady_failure a (.cut kind) trivial).transport
  | _ => exact (begin_aside a _ trivial).1.failure

theorem runCall_failure (a : Activity Link) (call : Nat) : (a.runCall call).transport.failure = a.transport.failure := by
  obtain ⟨after, detours, adjusted | ⟨still, rfl⟩⟩ := runCall_detours a call
  · rw [adjusted]
    exact (adjustPump_delivers Link.steady_failure after).transport.trans detours.failure
  · rw [still]

theorem runBackground_keeps (a : Activity Link) : a.transport.Keeps a.runBackground.transport := by
  have told := (foldl_hear_aside (a.transport.work.signals.map (·.mapFault Fault.toError))
    { a with transport := { a.transport.work with signals := [] } }).1.failure
  exact (Link.work_keeps a.transport).trans (.of_eq told)

end Activity

namespace Watch

/-- The pump holds what waits, and the stream stands to it as its record says. -/
structure Sound (stream : Nat) (watch : Watch) : Prop where
  piped : watch.activity.Piped watch.waiting
  heard : Heard stream watch.activity.session.fanout watch.activity.transport.failure watch.waiting watch.record

section
variable {stream : Nat} {watch : Watch}

private theorem Sound.start (connection : Connection) (queueSize : Nat) :
    Sound stream { activity := { transport := .ofConnection connection queueSize } } :=
  ⟨⟨⟨⟨nofun, nofun, fun some => absurd rfl some⟩, nofun, ⟨rfl, nofun, rfl⟩, rfl⟩, rfl⟩, .absent rfl rfl⟩

private theorem Sound.act (sound : Sound stream watch) (step : Activity.Step Link) (uncut : ∀ kind, step ≠ .cut kind) :
    Sound stream (watch.act stream step) := by
  have piped := Activity.begin_piped sound.piped step uncut
  have moves := Activity.begin_moves sound.piped stream step uncut
  refine ⟨piped, ?_⟩
  have unmoved (same : (watch.activity.begin step).2.session.fanout.pump = watch.activity.session.fanout.pump) :
      watch.activity.kept (watch.activity.begin step).2 watch.waiting = watch.waiting :=
    Activity.kept_same (by rw [piped.aligned, same, sound.piped.aligned]) watch.waiting
  exact (sound.heard.moves moves unmoved).spares (.refl stream _) (Activity.begin_keeps watch.activity step) fun _ => rfl

private theorem turn_idle (found : watch.activity.pump = none) : watch.turn stream .pump =
    { watch with activity := { watch.activity with ready := watch.activity.ready.erase .pump } } := by
  let unready : Activity Link := { watch.activity with ready := watch.activity.ready.erase .pump }
  have still : unready.runPump (127 + 1) = unready := by
    rw [Activity.runPump, show unready.pump = none from found]
  unfold turn
  rw [found]
  exact congrArg (fun activity => { watch with activity }) still

private theorem turn_pump {pump : Pump} (found : watch.activity.pump = some pump) (after : Activity Link)
    (turned : Activity.runPump { watch.activity with ready := watch.activity.ready.erase .pump } Activity.pumpTurn =
      after) :
    watch.turn stream .pump = { watch with
      activity := after,
      waiting := watch.activity.kept after (pump.takes watch.activity.transport.failure.isSome watch.waiting).2,
      record :=
        if watch.attends stream then
          { watch.record with turns := watch.record.turns ++ [(pump.merge.turn, watch.waiting)] }
        else watch.record } := by
  subst turned
  unfold turn
  rw [found]
  rfl

private theorem Sound.idle (sound : Sound stream watch) (found : watch.activity.pump = none) :
    Sound stream (watch.turn stream .pump) := by
  have members := sound.piped.carries.members
  have unwanted (piped : watch.activity.pump.isSome = true) : False := by
    rw [found] at piped
    cases piped
  rw [turn_idle found]
  exact ⟨⟨⟨sound.piped.sound, sound.piped.whole,
    ⟨members, fun piped => (unwanted piped).elim, sound.piped.carries.opened⟩, sound.piped.collected⟩,
    sound.piped.aligned⟩, sound.heard⟩

private theorem Sound.pump (sound : Sound stream watch) {pump : Pump} (found : watch.activity.pump = some pump) :
    Sound stream (watch.turn stream .pump) := by
  obtain ⟨after, turned⟩ : ∃ after, Activity.runPump { watch.activity with ready := watch.activity.ready.erase .pump }
    Activity.pumpTurn = after := ⟨_, rfl⟩
  have outcome := Activity.runPump_piped sound.piped found (watch.activity.ready.erase .pump)
  rw [turned] at outcome
  rw [turn_pump found after turned]
  rcases outcome with ⟨ongoing, piped⟩ | ⟨early, broken, piped⟩
  · obtain ⟨merge, goes, -⟩ := ongoing.piped
    obtain ⟨observers, transport, -⟩ := ongoing.transport
    have taken := sound.heard.pumped watch.activity.transport.failure.isSome pump.merge.turn
    rw [Activity.kept_same (by rw [goes, found]; rfl)]
    refine ⟨piped, ?_⟩
    dsimp only
    rw [ongoing.fanout, transport]
    exact taken
  · obtain ⟨observers, transport, -⟩ := broken.transport
    obtain ⟨fault, failed, interrupted⟩ := broken.fanout
    rw [failed] at early interrupted
    have taken := sound.heard.broken failed early []
    have gone (left : List Message) : watch.activity.kept after left = [] := by
      apply if_neg
      rw [broken.pump, found]
      intro same
      cases same
    rw [gone]
    refine ⟨piped, ?_⟩
    dsimp only
    rw [interrupted, transport]
    exact taken

private theorem Sound.turn (sound : Sound stream watch) (task : Task) : Sound stream (watch.turn stream task) := by
  let unready : Activity Link := { watch.activity with ready := watch.activity.ready.erase task }
  cases task with
  | call call =>
    have aside : watch.activity.Aside unready := .unready (fun same : Task.call call = .pump => by cases same) _
    obtain ⟨piped, quits⟩ := Activity.runCall_piped (sound.piped.aside aside rfl) call
    refine ⟨piped, ?_⟩
    have unmoved (same : (unready.runCall call).session.fanout = watch.activity.session.fanout) :
        unready.kept (unready.runCall call) watch.waiting = watch.waiting :=
      Activity.kept_same (by rw [piped.aligned, same]; exact sound.piped.aligned.symm) watch.waiting
    have keeps : watch.activity.transport.Keeps (unready.runCall call).transport :=
      .of_eq (Activity.runCall_failure unready call)
    exact (sound.heard.quits quits unmoved).spares (.refl stream _) keeps fun _ => rfl
  | background =>
    have aside : watch.activity.Aside unready := .unready (fun same : Task.background = .pump => by cases same) _
    obtain ⟨piped, -, same⟩ := Activity.runBackground_piped (sound.piped.aside aside rfl)
    refine ⟨piped, ?_⟩
    have spared : watch.activity.session.fanout.Spares stream unready.runBackground.session.fanout := by
      rw [same]
      exact .refl stream _
    exact (sound.heard.arrives watch.activity.transport.arriving).spares spared
      (Activity.runBackground_keeps unready) fun _ => rfl
  | pump =>
    cases found : watch.activity.pump with
    | none => exact sound.idle found
    | some pump => exact sound.pump found

theorem Reached.sound (reached : Reached stream watch) : Sound stream watch := by
  induction reached with
  | start connection queueSize => exact .start connection queueSize
  | act reached step uncut ih => exact ih.act step uncut
  | turn reached ready ih => exact ih.turn _

/-- What the stream has yielded and what it will yield if it goes on polling. -/
def seen (stream : Nat) (watch : Watch) : List Item :=
  watch.record.yielded ++ watch.activity.session.fanout.queue stream

def messages (items : List Item) : List Message := items.filterMap (·.toOption)

theorem messages_ok (published : List Message) : messages (published.map .ok) = published := by
  simp [messages, List.filterMap_map, Except.toOption]

private theorem messages_ended (published : List Message) (ending : Interruption) :
    messages (published.map .ok ++ [.error ending]) = published := by
  have front := messages_ok published
  unfold messages at front ⊢
  rw [List.filterMap_append, front]
  exact List.append_nil published

/-- The messages of both kinds that a stream yields come in the order in which they arrived exactly if each turn of
the pump found them in step with the sides that it asked. -/
theorem yields_in_order_iff (reached : Reached stream watch) :
    messages (watch.seen stream) <+: watch.record.arrived ↔ watch.record.InStep := by
  have blank (unheard : watch.activity.session.fanout.queue stream = []) (empty : watch.record = {}) :
      messages (watch.seen stream) <+: watch.record.arrived ↔ watch.record.InStep := by
    rw [seen, unheard, empty]
    exact ⟨fun _ _ => nofun, fun _ => List.nil_prefix⟩
  cases reached.sound.heard with
  | absent gone empty => exact blank (by rw [Fanout.queue, gone]; rfl) empty
  | fresh present empty => exact blank (by rw [Fanout.queue, present]; rfl) empty
  | attending published attends saw account ordered disordered =>
    rw [show watch.seen stream = _ from saw, messages_ok]
    exact Heard.order_of_attending ordered disordered
  | cancelled published joined silent saw order quit =>
    rw [show watch.seen stream = _ from saw, messages_ended]
    exact order
  | interrupted published fault side last joined silent saw order failed found lost =>
    rw [show watch.seen stream = _ from saw, messages_ended]
    exact order

/-- Messages of the two kinds alternate, beginning with the kind that is asked first. -/
theorem yields_in_order_alternating :
    ∃ watch, Reached 0 watch ∧ watch.record.arrived = [.pattern [42] [99] [49], .channel [99] [50]] ∧
      messages (watch.seen 0) <+: watch.record.arrived := by
  have reached := reached_fed
    "*4\r\n$8\r\npmessage\r\n$1\r\n*\r\n$1\r\nc\r\n$1\r\n1\r\n*3\r\n$7\r\nmessage\r\n$1\r\nc\r\n$1\r\n2\r\n"
  exact ⟨_, reached, by decide +kernel, (yields_in_order_iff reached).mpr (by decide +kernel)⟩

/-- A pattern message that arrives behind a channel message, in the same piece, is yielded before it. -/
theorem pattern_overtakes_channel :
    ∃ watch, Reached 0 watch ∧
      watch.record.arrived = [.channel [99] [49], .pattern [112, 42] [112, 99] [50]] ∧
      watch.record.yielded = [.ok (.pattern [112, 42] [112, 99] [50]), .ok (.channel [99] [49])] ∧
      ¬ messages (watch.seen 0) <+: watch.record.arrived := by
  have reached := reached_fed
    "*3\r\n$7\r\nmessage\r\n$1\r\nc\r\n$1\r\n1\r\n*4\r\n$8\r\npmessage\r\n$2\r\np*\r\n$2\r\npc\r\n$1\r\n2\r\n"
  exact ⟨_, reached, by decide +kernel, by decide +kernel, by decide +kernel⟩

/-- When a connection has failed and the pump has had its turns, a stream that was not cancelled sees the failure
behind its last message. All messages that arrived are among those before it exactly if the turn that came upon the
failure found as many messages on the side it asked first as on the other, or one more. -/
theorem loses_nothing_iff {fault : Fault} (reached : Reached stream watch)
    (failed : watch.activity.transport.failure = some fault) (rested : .pump ∉ watch.activity.ready)
    (going : watch.activity.session.fanout.cancelled = false) (joined : watch.activity.session.fanout.Joined stream) :
    ∃ yielded side last, watch.seen stream = yielded.map .ok ++ [.error (.upstream fault.toError)] ∧
      watch.record.turns.getLast? = some (side, last) ∧
      (watch.record.arrived.Perm yielded ↔ Balanced side last) := by
  have sound := reached.sound
  cases sound.heard with
  | absent gone empty => exact absurd gone joined.present
  | fresh found empty => exact absurd found joined.attached
  | attending published attends saw account ordered disordered =>
    obtain ⟨generation, wanted⟩ := sound.piped.sound.pump attends
    obtain ⟨pump, piped, -⟩ := Option.map_eq_some_iff.mp (sound.piped.aligned.trans wanted)
    have busy := sound.piped.carries.told (by rw [piped]; rfl) (Or.inr (by rw [failed]; rfl))
    rw [sound.piped.collected] at busy
    rcases busy with awake | told
    · exact absurd awake rested
    · cases told
  | cancelled published entered silent saw order quit => cases going.symm.trans quit
  | interrupted published first side last entered silent saw order known found lost =>
    cases failed.symm.trans known
    exact ⟨published, side, last, saw, found, lost⟩

/-- A pattern message arrives with bytes that are no frame when patterns are asked first: it is yielded, and the
failure behind it. -/
theorem loses_nothing_balanced :
    ∃ watch yielded, Reached 0 watch ∧ watch.activity.transport.failure.isSome = true ∧
      watch.record.arrived = [.pattern [42] [99] [49]] ∧ watch.record.arrived.Perm yielded := by
  have reached := reached_fed "*4\r\n$8\r\npmessage\r\n$1\r\n*\r\n$1\r\nc\r\n$1\r\n1\r\n!\r\n"
  obtain ⟨yielded, side, last, -, found, kept⟩ := loses_nothing_iff reached
    (by decide +kernel : _ = some (.protocol "decode error: unknown frame type: !")) (by decide +kernel) (by decide +kernel)
    (by decide +kernel)
  have turned := found.symm.trans (by decide +kernel : _ = some (Side.right, [.pattern [42] [99] [49]]))
  cases turned
  exact ⟨_, yielded, reached, by decide +kernel, by decide +kernel, kept.mpr (by decide)⟩

/-- A channel message that arrives with bytes that are no frame is never yielded when patterns are asked first. -/
theorem failure_overtakes_channel :
    ∃ watch, Reached 0 watch ∧
      watch.activity.transport.failure = some (.protocol "decode error: unknown frame type: !") ∧
      .pump ∉ watch.activity.ready ∧
      watch.record.arrived = [.channel [99] [49]] ∧
      watch.seen 0 = [.error (.upstream (.protocol "decode error: unknown frame type: !"))] := by
  have reached := reached_fed "*3\r\n$7\r\nmessage\r\n$1\r\nc\r\n$1\r\n1\r\n!\r\n"
  exact ⟨_, reached, by decide +kernel, by decide +kernel, by decide +kernel, by decide +kernel⟩

end

end Watch

end Subscriber
