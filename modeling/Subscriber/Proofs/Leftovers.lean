import Subscriber.Proofs.Accounts
import Subscriber.Proofs.Dialogues
import Subscriber.Proofs.Teardown

/-! What a cancelled session leaves on its server. Whoever gives up a subscription stops the caller and not the request: it
is sent, if it had come as far as the queue, and when it is granted nobody is left to remember it. -/

namespace Subscriber

open Targets (replay)

namespace Dialogue
open Activity (Move Numbered moves)

/-- How session and server stand to each other while all goes well. -/
structure Sound (queueSize : Nat) (settled owed unanswered : List Request) (past future : List (Remark × Server))
    (dialogue : Dialogue) : Prop where
  conversing : dialogue.activity.Conversing none dialogue.line settled owed unanswered past future dialogue.fed
  said : dialogue.said = past ++ future
  asked : ∀ request ∈ dialogue.line, .asks request.verb request.targets ∈
    Activity.deeds request.call { transport := .ofConnection {} queueSize } dialogue.history
  balanced : dialogue.activity.Balanced settled

section
variable {dialogue : Dialogue} {limit queueSize : Nat} {settled owed unanswered : List Request}
  {past future : List (Remark × Server)}

theorem Sound.asked_make (sound : dialogue.Sound queueSize settled owed unanswered past future)
    (moved : dialogue.activity = moves { transport := .ofConnection {} queueSize } dialogue.history) (move : Move Link) :
    ∀ request ∈ (dialogue.make move).line, .asks request.verb request.targets ∈
      Activity.deeds request.call { transport := .ofConnection {} queueSize } (dialogue.make move).history := by
  intro request member
  change _ ∈ Activity.deeds request.call _ (dialogue.history ++ [move])
  rw [Activity.deeds_append, ← moved, List.mem_append]
  refine (sound.conversing.mem_lineUp member).imp (sound.asked request) fun made => ?_
  exact List.mem_append_left _ made

private theorem Sound.unlisted (sound : dialogue.Sound queueSize settled owed unanswered past future) {call : Nat}
    (unstarted : ∀ move ∈ dialogue.history, move.call? ≠ some call) : ∀ request ∈ dialogue.line, request.call ≠ call := by
  rintro request member rfl
  have asked := sound.asked request member
  rw [(Activity.moves_unheard _ unstarted).2.2] at asked
  cases asked

private theorem Sound.settled_line (sound : dialogue.Sound queueSize settled owed unanswered past future) {request : Request}
    (member : request ∈ settled) : request ∈ dialogue.line := by
  rw [sound.conversing.link.serves.order]
  simp [member]

private theorem Sound.step (sound : dialogue.Sound queueSize settled owed unanswered past future)
    (moved : dialogue.activity = moves { transport := .ofConnection {} queueSize } dialogue.history)
    {step : Activity.Step Link} (plain : step.Plain) (numbered : Numbered (dialogue.history ++ [.step step])) :
    (dialogue.make (.step step)).Sound queueSize settled owed unanswered past future := by
  have fresh (call : Nat) (operation : Operation) (same : step = .call call operation) :
      dialogue.activity.stage? call = none ∧ ∀ request ∈ dialogue.line, request.call ≠ call := by
    have unstarted (move : Move Link) (member : move ∈ dialogue.history) : move.call? ≠ some call := fun own =>
      numbered.apart member own List.mem_cons_self (by rw [same]; rfl)
    exact ⟨moved ▸ (Activity.moves_unheard _ unstarted).1, sound.unlisted unstarted⟩
  have unfinished (call : Nat) (stage : Stage) (found : dialogue.activity.stage? call = some stage)
      (result : Except Error Unit) : (call, result) ∉ dialogue.activity.finished := by
    rw [moved] at found ⊢
    exact Activity.unfinished_moves numbered.left found result
  refine ⟨sound.conversing.begin plain fresh unfinished, sound.said, sound.asked_make moved _,
    sound.balanced.move (.step step) nofun (fun call operation same => ?_) unfinished⟩
  obtain ⟨unknown, unlisted⟩ := fresh call operation (Move.step.inj same)
  exact ⟨unknown, fun request member => unlisted request (sound.settled_line member)⟩

private theorem Sound.deliver (sound : dialogue.Sound queueSize settled owed unanswered past future)
    (moved : dialogue.activity = moves { transport := .ofConnection {} queueSize } dialogue.history)
    (numbered : Numbered dialogue.history) {piece : Bytes}
    (genuine : dialogue.fed ++ piece <+: Frame.encodeItems (Server.frames dialogue.said)) :
    (dialogue.deliver piece).Sound queueSize settled owed unanswered past future := by
  rw [sound.said] at genuine
  let arrives : Move Link := .step (.transport (Connection.Event.arrive (.piece piece)))
  refine ⟨sound.conversing.deliver genuine, sound.said, sound.asked_make moved arrives,
    sound.balanced.move arrives nofun (fun _ _ same => by cases Move.step.inj same) fun call stage found result => ?_⟩
  rw [moved] at found ⊢
  exact Activity.unfinished_moves numbered found result

private theorem Sound.turn (sound : dialogue.Sound queueSize settled owed unanswered past future)
    (moved : dialogue.activity = moves { transport := .ofConnection {} queueSize } dialogue.history)
    (numbered : Numbered dialogue.history) {task : Task} {rest : List Task} (front : dialogue.activity.ready = task :: rest)
    (alive : (dialogue.make (.turn task)).activity.transport.failure = none) :
    ∃ done later opened heard unheard, (dialogue.make (.turn task)).Sound queueSize done later opened heard unheard := by
  have aimed (call : Nat) (phase : Phase) (found : dialogue.activity.phase? call = some phase) : phase.targets ≠ [] := by
    rw [moved] at found
    exact Activity.aimed_moves numbered found
  obtain ⟨done, later, opened, heard, unheard, same, turned, settles⟩ := sound.conversing.turn front
    (fun call phase found => aimed call phase (by rw [Activity.phase?, found]; rfl)) alive
  refine ⟨done, later, opened, heard, unheard, turned, sound.said.trans same, sound.asked_make moved _, ?_⟩
  have unfinished (call : Nat) (stage : Stage) (found : dialogue.activity.stage? call = some stage)
      (result : Except Error Unit) : (call, result) ∉ dialogue.activity.finished := by
    rw [moved] at found ⊢
    exact Activity.unfinished_moves numbered found result
  cases task with
  | call call =>
    have distinct : dialogue.activity.session.Distinct := moved ▸ Activity.distinct_moves _ _
    have clearing (phase : Phase) (found : dialogue.activity.phase? call = some phase) :
        dialogue.activity.session.Clearing phase := by
      rw [moved] at found ⊢
      exact Activity.clearing_moves numbered found
    exact sound.balanced.turn sound.conversing settles (front ▸ List.mem_cons_self) distinct clearing (aimed call)
  | background =>
    obtain rfl : done = settled := settles
    exact sound.balanced.move (.turn .background) (fun _ same => by cases same) (fun _ _ same => by cases same) unfinished
  | pump =>
    obtain rfl : done = settled := settles
    exact sound.balanced.move (.turn .pump) (fun _ same => by cases same) (fun _ _ same => by cases same) unfinished

private theorem Reached.sound (reached : Reached limit queueSize dialogue) (alive : dialogue.activity.transport.failure = none) :
    ∃ settled owed unanswered past future, dialogue.Sound queueSize settled owed unanswered past future := by
  induction reached with
  | start =>
    exact ⟨[], [], [], [], [], ⟨Link.converses_start queueSize, Activity.lined_start _⟩, rfl,
      fun _ member => (List.not_mem_nil member).elim, Activity.balanced_start _⟩
  | step reached step plain numbered ih =>
    obtain ⟨settled, owed, unanswered, past, future, sound⟩ := ih ((Activity.move_keeps _ _).alive alive)
    exact ⟨settled, owed, unanswered, past, future, sound.step reached.moved.1 plain numbered⟩
  | turn reached front ih =>
    obtain ⟨settled, owed, unanswered, past, future, sound⟩ := ih ((Activity.move_keeps _ _).alive alive)
    exact sound.turn reached.moved.1 reached.moved.2 front alive
  | @say dialogue reached remark after grants spoken ih =>
    obtain ⟨settled, owed, unanswered, past, future, sound⟩ := ih alive
    have server : dialogue.server = Server.after {} (past ++ future) := congrArg (Server.after {}) sound.said
    rw [server] at spoken
    have said : (dialogue.say remark after).said = past ++ (future ++ [(remark, after)]) := by
      rw [← List.append_assoc, ← sound.said]
      rfl
    exact ⟨settled, owed, unanswered, past, future ++ [(remark, after)],
      ⟨sound.conversing.link.say grants spoken, sound.conversing.calls⟩, said, sound.asked, sound.balanced⟩
  | deliver reached piece genuine ih =>
    obtain ⟨settled, owed, unanswered, past, future, sound⟩ := ih ((Activity.move_keeps _ _).alive alive)
    exact ⟨settled, owed, unanswered, past, future, sound.deliver reached.moved.1 reached.moved.2 genuine⟩

def written (limit : Nat) (dialogue : Dialogue) : List Request := dialogue.line.take (dialogue.heard limit).length

/-- All that has been settled is written; whoever made the others among the written requests is still in line. -/
theorem Sound.written_split (sound : dialogue.Sound queueSize settled owed unanswered past future)
    (acknowledged : dialogue.server.given.length = (dialogue.heard limit).length) :
    (dialogue.written limit).map Request.frame = dialogue.heard limit ∧
      ∃ later, dialogue.written limit = settled ++ later ∧ later ⊆ owed ++ unanswered := by
  have link := sound.conversing.link
  have front : settled ++ owed ++ unanswered <+: dialogue.line := by
    rw [link.serves.order]
    exact (List.prefix_append _ _).trans (List.prefix_append _ _)
  have heard : dialogue.heard limit <+: (settled ++ owed ++ unanswered).map Request.frame := link.serves.heard limit
  have enough : settled.length ≤ (dialogue.heard limit).length := by
    obtain ⟨count, given⟩ := link.conforms.granted link.grants
    rw [← acknowledged, Dialogue.server, sound.said, Server.after_append, given, List.length_append, ← link.serves.level,
      List.length_append]
    omega
  have short : (dialogue.heard limit).length ≤ (settled ++ owed ++ unanswered).length := by
    simpa using heard.length_le
  have written : dialogue.written limit = (settled ++ owed ++ unanswered).take (dialogue.heard limit).length := by
    obtain ⟨behind, parts⟩ := front
    rw [Dialogue.written, ← parts, List.take_append_of_le_length short]
  refine ⟨?_, (owed ++ unanswered).take ((dialogue.heard limit).length - settled.length), ?_, List.take_subset _ _⟩
  · rw [written, List.map_take]
    exact (List.prefix_iff_eq_take.mp heard).symm
  · rw [written, List.append_assoc, List.take_append, List.take_of_length_le enough]

/-- Nobody is left who could take back what is subscribed after a cancellation. -/
theorem Sound.gone (sound : dialogue.Sound queueSize settled owed unanswered past future)
    (idle : dialogue.activity.calls = []) (torn : dialogue.activity.session.TornDown) {later : List Request}
    (remaining : later ⊆ owed ++ unanswered) {kind : Message.Kind} {name : Bytes} {request : Request}
    (last : Request.last? kind name (settled ++ later) = some request) (adds : request.verb = .adding kind) :
    dialogue.activity.Gone request.call := by
  have nobody (call : Nat) : dialogue.activity.stage? call = none := by
    rw [Activity.stage?, idle]
    rfl
  rw [Request.last?_append] at last
  rcases Option.or_eq_some_iff.mp last with late | ⟨-, early⟩
  · have standing {stage : Phase → Stage} (stands : dialogue.activity.StandsAt stage request) :
        dialogue.activity.Gone request.call := by
      rcases stands with gone | ⟨_, _, found⟩
      · exact gone
      · cases (nobody _).symm.trans found
    rcases List.mem_append.mp (remaining (Request.last?_mem late)) with granted | opened
    · exact standing (sound.conversing.calls.granted request granted)
    · refine standing (sound.conversing.calls.asked request ?_)
      exact List.mem_append_left _ (List.mem_append_left _ opened)
  · rcases sound.balanced.accounted kind name request early adds with known | gone | ⟨targets, undoing, -⟩
    · have none : dialogue.activity.session.tracked kind = {} := by
        cases kind with
        | channel => exact torn.channels
        | pattern => exact torn.patterns
      rw [none] at known
      cases known
    · exact gone
    · rw [Activity.phase?, nobody] at undoing
      cases undoing

end

/-- What is left behind. When some cancellation has returned, no call is under way and the server has acknowledged all that
it was sent, a name is still subscribed if and only if the last command that has to do with it is a subscription whose
caller was given up before it returned. So nothing is left if no subscription was given up. -/
theorem left_behind_iff {limit queueSize : Nat} {dialogue : Dialogue} (reached : Reached limit queueSize dialogue)
    (alive : dialogue.activity.transport.failure = none) (idle : dialogue.activity.calls = []) {call : Nat}
    {result : Except Error Unit} (started : .step (.call call .cancel) ∈ dialogue.history)
    (returned : (call, result) ∈ dialogue.activity.finished)
    (acknowledged : dialogue.server.given.length = (dialogue.heard limit).length) :
    (dialogue.written limit).map Request.frame = dialogue.heard limit ∧
    (∀ kind name, name ∈ (replay kind ((dialogue.written limit).map Request.command)).names ↔
      ∃ request, Request.last? kind name (dialogue.written limit) = some request ∧ request.verb = .adding kind ∧
        .step (.abandon request.call) ∈ dialogue.history ∧
        ∀ result, (request.call, result) ∉ dialogue.activity.finished) ∧
    ((∀ call kind names, .step (.call call (.add kind names)) ∈ dialogue.history →
      .step (.abandon call) ∉ dialogue.history) →
        ∀ kind, replay kind ((dialogue.written limit).map Request.command) = {}) := by
  obtain ⟨settled, owed, unanswered, past, future, sound⟩ := reached.sound alive
  obtain ⟨moved, numbered⟩ := reached.moved
  obtain ⟨frames, later, parts, remaining⟩ := sound.written_split acknowledged
  have torn : dialogue.activity.session.TornDown := by
    rw [moved] at returned ⊢
    exact List.append_nil dialogue.history ▸ Activity.torn_down_after numbered started returned []
  have made {request : Request} (member : request ∈ dialogue.written limit) {kind : Message.Kind}
      (adds : request.verb = .adding kind) : .step (.call request.call (.add kind request.targets)) ∈ dialogue.history :=
    Activity.add_started numbered (adds ▸ sound.asked request (List.mem_of_mem_take member))
  have left (kind : Message.Kind) (name : Bytes) :
      name ∈ (replay kind ((dialogue.written limit).map Request.command)).names ↔
        ∃ request, Request.last? kind name (dialogue.written limit) = some request ∧ request.verb = .adding kind ∧
          .step (.abandon request.call) ∈ dialogue.history ∧
          ∀ result, (request.call, result) ∉ dialogue.activity.finished := by
    rw [Request.mem_replay]
    refine exists_congr fun request => and_congr_right fun last => ⟨fun adds => ?_, And.left⟩
    have gone := sound.gone idle torn remaining (parts ▸ last) adds
    refine ⟨adds, ?_, gone.2⟩
    by_contra kept
    have unfinished := gone.2
    rw [moved] at unfinished
    obtain ⟨stage, found⟩ := Activity.under_way numbered (made (Request.last?_mem last) adds) kept unfinished
    rw [← moved] at found
    cases gone.1.symm.trans found
  refine ⟨frames, left, fun kept kind => Targets.eq_empty fun name member => ?_⟩
  obtain ⟨request, last, adds, abandoned, -⟩ := (left kind name).mp member
  exact kept _ _ _ (made (Request.last?_mem last) adds) abandoned

/-- One subscription is given up as soon as its command has been sent, another one is not. The cancellation takes back the
second and leaves the first. -/
theorem left_behind_iff_given_up :
    ∃ dialogue, Reached 1024 16 dialogue ∧ dialogue.activity.calls = [] ∧ (2, .ok ()) ∈ dialogue.activity.finished ∧
      [97] ∈ (replay .channel ((dialogue.written 1024).map Request.command)).names ∧
      [98] ∉ (replay .channel ((dialogue.written 1024).map Request.command)).names := by
  have fresh : Reached 1024 16 { activity := { transport := .ofConnection {} 16 } } := .start
  have first := (fresh.step (.call 0 (.add .channel [[97]])) trivial (by unfold Numbered; decide +kernel)).settle
  have given := (first.step (.abandon 0) trivial (by unfold Numbered; decide +kernel)).settle
  have second := (given.step (.call 1 (.add .channel [[98]])) trivial (by unfold Numbered; decide +kernel)).settle
  have granted := (second.say (.acknowledgement .subscribe [97] 1) _ trivial (.completes
    (by decide +kernel : _ = some (Verb.command .subscribe [[97]]).frame) (by decide +kernel))).say
    (.acknowledgement .subscribe [98] 2) _ trivial (.completes
    (by decide +kernel : _ = some (Verb.command .subscribe [[98]]).frame) (by decide +kernel))
  have heard := (granted.deliver (Bytes.ofText
    "*3\r\n$9\r\nsubscribe\r\n$1\r\na\r\n:1\r\n*3\r\n$9\r\nsubscribe\r\n$1\r\nb\r\n:2\r\n") (by decide +kernel)).settle
  have cancelled := (heard.step (.call 2 .cancel) trivial (by unfold Numbered; decide +kernel)).settle
  have cleared := cancelled.say (.acknowledgement .unsubscribe [98] 1) _ trivial (.completes
    (by decide +kernel : _ = some (Verb.command .unsubscribe [[98]]).frame) (by decide +kernel))
  have last := (cleared.deliver (Bytes.ofText "*3\r\n$11\r\nunsubscribe\r\n$1\r\nb\r\n:1\r\n") (by decide +kernel)).settle
  have begun {dialogue : Dialogue} {move : Move Link} : move ∈ (dialogue.make move).settle.history :=
    history_settle _ (List.mem_append_right _ List.mem_cons_self)
  have stays {dialogue : Dialogue} {move other : Move Link} (member : move ∈ dialogue.history) :
      move ∈ (dialogue.make other).settle.history := history_settle _ (List.mem_append_left _ member)
  have spoken {dialogue : Dialogue} {move : Move Link} {remark : Remark} {after : Server}
      (member : move ∈ dialogue.history) : move ∈ (dialogue.say remark after).history := member
  have hears {dialogue : Dialogue} {move : Move Link} {piece : Bytes} (member : move ∈ dialogue.history) :
      move ∈ (dialogue.deliver piece).settle.history := history_settle _ (List.mem_append_left _ member)
  -- All that is computed of the last state is computed at once.
  obtain ⟨dialogue, reached, cancels, givesUp, alive, idle, returned, unfinished, acknowledged, last, taken⟩ :
      ∃ dialogue, Reached 1024 16 dialogue ∧ .step (.call 2 .cancel) ∈ dialogue.history ∧
        .step (.abandon 0) ∈ dialogue.history ∧ dialogue.activity.transport.failure = none ∧
        dialogue.activity.calls = [] ∧ (2, .ok ()) ∈ dialogue.activity.finished ∧
        0 ∉ dialogue.activity.finished.map Prod.fst ∧ dialogue.server.given.length = (dialogue.heard 1024).length ∧
        Request.last? .channel [97] (dialogue.written 1024) = some ⟨0, .subscribe, [[97]]⟩ ∧
        [98] ∉ (replay .channel ((dialogue.written 1024).map Request.command)).names := by
    refine ⟨_, last, hears (spoken begun), hears (spoken (stays (hears (spoken (spoken (stays begun)))))), ?_⟩
    decide +kernel
  refine ⟨dialogue, reached, idle, returned, ?_, taken⟩
  refine ((left_behind_iff reached alive idle cancels returned acknowledged).2.1 .channel [97]).mpr ?_
  exact ⟨_, last, rfl, givesUp, fun result member => unfinished (List.mem_map_of_mem member)⟩

/-- Whoever gives up a subscription whose command is on its way, and then cancels, leaves the channel subscribed: the server
has acknowledged all that it was sent, the cancellation has returned, and no command is behind the subscription. -/
theorem given_up_subscription_stays :
    let acknowledged := (Remark.acknowledgement .subscribe [97] 1).frame.encode
    let script : List (Activity.Step Link) :=
      [.call 0 (.add .channel [[97]]), .abandon 0, .call 2 .cancel,
        .transport (Connection.Event.arrive (.piece acknowledged))]
    let quiet : Activity Link := { transport := .ofConnection {} 16 }
    let final := script.foldl (fun activity step => (Activity.step activity step).2) quiet
    final.ready = [] ∧ final.calls = [] ∧ final.finished = [(2, .ok ())] ∧ final.session.cancelled = true ∧
      final.transport.failure = none ∧ final.transport.pending = [] ∧
      final.transport.outbound.accepted = (Verb.command .subscribe [[97]]).frame.encode ∧
      replay .channel [(.subscribe, [[97]])] = { names := [[97]] } := by
  decide +kernel

end Dialogue

end Subscriber
