import Subscriber.Loopback
import Subscriber.Proofs.Endings

/-! Cancelling is final. Once a cancellation has returned, whatever else was under way and whatever comes later, the
session tracks nothing, adds nothing and ends all its streams. -/

namespace Subscriber

namespace Activity
open Session (SameRecord Closed Swept Cancels Refused Refuses Adds Quiet)
open Fanout (Left Present Shows yields)

section
variable {τ : Type} [Transport τ]

theorem Numbered.left {earlier later : List (Move τ)} (numbered : Numbered (earlier ++ later)) : Numbered earlier := by
  rw [Numbered, List.filterMap_append] at numbered
  exact (List.nodup_append.mp numbered).1

theorem Numbered.apart {earlier later : List (Move τ)} (numbered : Numbered (earlier ++ later)) {call : Nat}
    {a b : Move τ} (first : a ∈ earlier) (same : a.call? = some call) (second : b ∈ later) : b.call? ≠ some call := by
  rw [Numbered, List.filterMap_append] at numbered
  intro again
  exact (List.nodup_append.mp numbered).2.2 call (List.mem_filterMap.mpr ⟨a, first, same⟩) call
    (List.mem_filterMap.mpr ⟨b, second, again⟩) rfl

/-- What a cancellation leaves behind. -/
structure Over (completed later : Activity τ) : Prop where
  channels : later.session.channels = {}
  patterns : later.session.patterns = {}
  inactive : later.session.fanout.isActive = false
  alone : later.session.fanout.consumers = []
  told : ∃ more, later.session.changes = completed.session.changes ++ more ∧ ∀ change ∈ more, change.added = false

/-- What becomes of an addition that had not returned when the session was over, or was started only then. -/
structure TurnedAway (transport : τ) (whole : List (Move τ)) (call : Nat) (kind : Message.Kind)
    (targets : List Bytes) : Prop where
  refused : ∀ result, (call, result) ∈ (moves { transport } whole).finished →
    Refused kind targets (deeds call { transport } whole) result
  answers : (moves { transport } whole).stage? call ≠ none → Deed.answers (deeds call { transport } whole) ≤ 1
  /-- A turn of it records nothing and tells the listener nothing; then it has failed, or waits for the gate or for an
  answer. -/
  turn : .call call ∈ (moves { transport } whole).ready → (moves { transport } whole).stage? call ≠ none →
    SameRecord (moves { transport } whole).session (moves { transport } (whole ++ [.turn (.call call)])).session ∧
      ((∃ error, (call, .error error) ∈ (moves { transport } (whole ++ [.turn (.call call)])).finished) ∨
        (moves { transport } (whole ++ [.turn (.call call)])).Waits call)

/-- What the streams of a session yield once it is over. -/
structure Ends (running completed : Activity τ) (after : List (Move τ)) : Prop where
  /-- A stream that was given items until then: all messages that waited for it, then the reason, then the end. -/
  attending : ∀ stream, running.session.fanout.attends stream = true →
    ∃ messages : List Message, running.session.fanout.queue stream = messages.map .ok ∧
      answers stream completed after =
        yields (messages.map .ok ++ [.error .cancelled]) (answers stream completed after).length
  /-- A stream that had not been polled, or not even been opened. -/
  late : ∀ stream, completed.session.fanout.stream? stream = some .detached ∨
      completed.session.fanout.streams.length ≤ stream →
    answers stream completed after = yields [.error .cancelled] (answers stream completed after).length
  /-- Streams are there to be polled until they are dropped. -/
  kept : ∀ earlier rest stream, after = earlier ++ rest →
    (completed.moves earlier).session.fanout.stream? stream ≠ none → .step (.drop stream) ∉ rest →
    (completed.moves after).session.fanout.stream? stream ≠ none

private theorem stays_over {completed : Activity τ} (closed : completed.session.Closed) (after : List (Move τ)) :
    Over completed (completed.moves after) := by
  have later := moves_lasting Session.lasting_closed completed after closed
  have quiet : Quiet completed.session.changes completed.session :=
    ⟨closed.cancelled, [], (List.append_nil _).symm, fun _ member => absurd member List.not_mem_nil⟩
  have still := moves_lasting (Session.lasting_quiet _) completed after quiet
  refine ⟨later.channels, later.patterns, ?_, later.silent.alone, still.changes⟩
  rw [Fanout.isActive, later.silent.idle]
  rfl

section
variable {transport : τ} {earlier after : List (Move τ)} {call : Nat} {kind : Message.Kind} {targets : List Bytes}

private theorem late_bears (numbered : Numbered (earlier ++ after))
    (cancelled : (moves { transport } earlier).session.cancelled = true)
    (started : .step (.call call (.add kind targets)) ∈ earlier ++ after)
    (unfinished : ∀ result, (call, result) ∉ (moves { transport } earlier).finished) :
    Bears (.add kind targets) (·.cancelled = true) (Refuses kind targets) call (deeds call { transport } (earlier ++ after))
      (moves { transport } (earlier ++ after)) := by
  have path := Session.path_refuses kind targets
  have lasting := Session.lasting_refuses kind targets
  rcases List.mem_append.mp started with before | behind
  · -- It was under way: what it has done so far leaves it with a command to send or an answer to hear.
    have added := path_holds (Session.path_adds kind targets) (.const True) (Session.lasting_adds kind targets) transport
      trivial numbered.left before
    have refuses : Bears (.add kind targets) (·.cancelled = true) (Refuses kind targets) call
        (deeds call { transport } earlier) (moves { transport } earlier) :=
      added.become unfinished (fun _ => cancelled) fun _ _ asked => ⟨asked.1, cancelled⟩
    have known (move : Move τ) (member : move ∈ after) : move.call? ≠ some call := numbered.apart before rfl member
    rw [deeds_append, moves_append]
    exact moves_bear path Session.lasting_cancelled lasting after known refuses
  · obtain ⟨first, second, split, previous, following⟩ := numbered.split started
    obtain ⟨between, later, rfl⟩ := List.append_of_mem behind
    have own : (Move.step (.call call (.add kind targets)) : Move τ) ∈
        .step (.call call (.add kind targets)) :: later := List.mem_cons_self
    have ahead (move : Move τ) (member : move ∈ earlier ++ between) : move.call? ≠ some call := by
      rw [← List.append_assoc] at numbered
      exact fun same => numbered.apart member same own rfl
    have behind (move : Move τ) (member : move ∈ later) : move.call? ≠ some call := by
      have parts : earlier ++ (between ++ .step (.call call (.add kind targets)) :: later) =
          (earlier ++ between ++ [.step (.call call (.add kind targets))]) ++ later := by
        simp only [List.append_assoc, List.singleton_append]
      rw [parts] at numbered
      exact numbered.apart (List.mem_append_right _ List.mem_cons_self) rfl member
    have still := moves_lasting Session.lasting_cancelled (moves { transport } earlier) between cancelled
    rw [← moves_append] at still
    rw [← List.append_assoc]
    exact path_holds_from path Session.lasting_cancelled lasting transport ahead behind still

omit [Transport τ] in
/-- An addition that has not returned has heard one answer at most. -/
theorem Bears.few {a : Activity τ} {before : Session → Prop} {done : List Deed}
    (bears : Bears (.add kind targets) before (Session.Adds kind targets) call done a) {stage : Stage}
    (found : a.stage? call = some stage) : Deed.answers done ≤ 1 := by
  have asking {deeds : List Deed} {phase : Phase} (asked : Session.Adds kind targets deeds (.asking phase) a.session) :
      Deed.answers deeds ≤ 1 := by
    obtain ⟨rfl | rfl, few⟩ := asked
    · exact Nat.le_trans (Nat.le_of_add_le_add_right few) (Nat.zero_le 1)
    · exact Nat.le_of_succ_le_succ few
  have silent (deeds : List Deed) (verb : Verb) (names : List Bytes) :
      Deed.answers (deeds ++ [.asks verb names]) = Deed.answers deeds := by
    unfold Deed.answers
    rw [List.countP_append]
    rfl
  have stands := (bears.going stage found).1
  cases stage with
  | starting operation =>
    obtain ⟨-, rfl, -⟩ := stands
    exact Nat.zero_le 1
  | held phase => exact asking stands
  | released phase => exact asking stands
  | sent phase =>
    obtain ⟨earlier, rfl, asked⟩ := stands
    rw [silent]
    exact asking asked
  | answered phase answer =>
    obtain ⟨earlier, rfl, asked⟩ := stands
    rw [silent]
    exact asking asked

/-- In the course of a single turn, a refused addition touches no record. -/
def Idles (base : Session) (kind : Message.Kind) (targets : List Bytes) (_ : List Deed) : Progress → Session → Prop
  | .asking phase, session =>
    (phase = .adding kind targets ∨ phase = .undoing kind targets) ∧ session.cancelled = true ∧ SameRecord base session
  | .finished result, session => (∃ error, result = .error error) ∧ SameRecord base session

private theorem path_idles (base : Session) (kind : Message.Kind) (targets : List Bytes) :
    Session.Path (.add kind targets) (fun session => session.cancelled = true ∧ SameRecord base session)
      (Idles base kind targets) := by
  refine ⟨fun session known => ?_, fun deeds phase session answer asked => ?_⟩
  · have refused : session.start (.add kind targets) = (.finished (.error .cancelled), session) := if_pos known.1
    rw [refused]
    exact ⟨⟨_, rfl⟩, known.2⟩
  · obtain ⟨rfl | rfl, cancelled, same⟩ := asked
    · cases answer with
      | ok =>
        simp only [Session.resume]
        rw [if_pos ((Session.cancelled_hear ..).trans cancelled)]
        exact ⟨.inr rfl, cancelled, same⟩
      | error error => exact ⟨⟨error, rfl⟩, same.trans ⟨rfl, rfl, rfl, rfl⟩⟩
    · refine ⟨⟨_, rfl⟩, same.trans ?_⟩
      cases answer <;> exact ⟨rfl, rfl, rfl, rfl⟩

private theorem refused_turn {a : Activity τ} {done : List Deed} (cancelled : a.session.cancelled = true)
    (bears : Bears (.add kind targets) (·.cancelled = true) (Refuses kind targets) call done a) {stage : Stage}
    (found : a.stage? call = some stage) (wants : .call call ∈ a.ready) :
    SameRecord a.session (a.move (.turn (.call call))).session ∧
      ((∃ error, (call, .error error) ∈ (a.move (.turn (.call call))).finished) ∨
        (a.move (.turn (.call call))).Waits call) := by
  have taken : Bears (.add kind targets) (fun session => session.cancelled = true ∧ SameRecord a.session session)
      (Idles a.session kind targets) call done a :=
    bears.become (bears.going stage found).2 (fun _ => ⟨cancelled, .refl _⟩) fun _ _ asked => ⟨asked.1, asked.2, .refl _⟩
  have ready : Bears (.add kind targets) _ (Idles a.session kind targets) call done
      { a with ready := a.ready.erase (.call call) } := ⟨taken.going, taken.ended⟩
  have turned := runCall_bears (path_idles a.session kind targets) ready
  have rests : (runCall { a with ready := a.ready.erase (.call call) } call).Rests call := runCall_rests found
  rw [move_own wants]
  rcases rests with ⟨result, finished⟩ | waits
  · obtain ⟨⟨error, rfl⟩, same⟩ := turned.ended result finished
    exact ⟨same, .inl ⟨error, finished⟩⟩
  · refine ⟨?_, .inr waits⟩
    obtain ⟨phase, held | sent⟩ := waits
    · exact (turned.going _ held).1.2.2
    · obtain ⟨_, _, asked⟩ := (turned.going _ sent).1
      exact asked.2.2

private theorem turned_away (numbered : Numbered (earlier ++ after))
    (cancelled : (moves { transport } earlier).session.cancelled = true)
    (started : .step (.call call (.add kind targets)) ∈ earlier ++ after)
    (unfinished : ∀ result, (call, result) ∉ (moves { transport } earlier).finished) :
    TurnedAway transport (earlier ++ after) call kind targets := by
  have bears := late_bears numbered cancelled started unfinished
  have adds := path_holds (Session.path_adds kind targets) (.const True) (Session.lasting_adds kind targets) transport
    trivial numbered started
  refine ⟨bears.ended, fun known => ?_, fun wants known => ?_⟩
  · obtain ⟨stage, found⟩ := Option.ne_none_iff_exists'.mp known
    exact adds.few found
  · obtain ⟨stage, found⟩ := Option.ne_none_iff_exists'.mp known
    have still := moves_lasting Session.lasting_cancelled (moves { transport } earlier) after cancelled
    rw [← moves_append] at still
    rw [moves_append _ _ [.turn (.call call)]]
    exact refused_turn still bears found wants

private theorem refused_promptly {a : Activity τ} (cancelled : a.session.cancelled = true) (unknown : a.stage? call = none)
    (kind : Message.Kind) (targets : List Bytes) :
    (call, .error .cancelled) ∈ (a.step (.call call (.add kind targets))).2.finished := by
  let begun := a.move (.step (.call call (.add kind targets)))
  have stage : begun.stage? call = some (.starting (.add kind targets)) := start_stage unknown _
  have still : begun.session.cancelled = true :=
    move_lasting Session.lasting_cancelled a (.step (.call call (.add kind targets))) cancelled
  have wants : .call call ∈ begun.ready := mem_wake _ _
  have enough : begun.ready.length < begun.turns := by
    unfold turns
    omega
  obtain ⟨earlier, later, waited, next, ran⟩ := runTasks_reaches enough (queues_of_mem wants)
  -- When its turn comes the call still stands where it stood, and finds the session cancelled.
  have starting : (begun.moves (earlier.map .turn)).stage? call = some (.starting (.add kind targets)) := by
    have drifted := waited.stage
    rw [stage] at drifted
    generalize (begun.moves (earlier.map .turn)).stage? call = now at drifted ⊢
    cases drifted with
    | some drifts => cases drifts; rfl
  have quit := moves_lasting Session.lasting_cancelled begun (earlier.map .turn) still
  generalize begun.moves (earlier.map .turn) = reached at starting next quit ran
  let last : Activity τ := { reached with ready := reached.ready.erase (.call call) }
  have returned : reached.move (.turn (.call call)) = (last.finish call (.error .cancelled)).adjustPump := by
    rw [move_own next]
    have found : last.stage? call = some (.starting (.add kind targets)) := starting
    have refused : last.session.start (.add kind targets) = (.finished (.error .cancelled), last.session) := if_pos quit
    change last.runCall call = _
    unfold runCall
    rw [found]
    dsimp only
    rw [refused]
    rfl
  have gone : (reached.move (.turn (.call call))).stage? call = none := by
    rw [returned, stage?_adjustPump]
    exact stage?_forget_self last call
  have told : (call, .error .cancelled) ∈ (reached.move (.turn (.call call))).finished := by
    rw [returned]
    exact ((adjustPump_passes _).finished _).mpr (List.mem_append_right _ List.mem_cons_self)
  have none (move : Move τ) (member : move ∈ later.map Move.turn) : move.call? ≠ some call := by
    obtain ⟨task, -, rfl⟩ := List.mem_map.mp member
    exact fun same => by cases same
  change (call, .error .cancelled) ∈ (runTasks begun.turns begun).finished
  rw [ran]
  exact ((moves_unknown gone (later.map .turn) none).2.1 _).mpr told

end

private theorem ends {running completed : Activity τ} (shown : ∀ stream, ∃ outlook, Shows stream running.session.fanout outlook)
    (closed : completed.session.Closed) (quits : running.session.fanout.Quits completed.session.fanout)
    (after : List (Move τ)) : Ends running completed after := by
  have shows (stream : Nat) : ∃ outlook, Shows stream completed.session.fanout outlook := by
    obtain ⟨outlook, shows⟩ := shown stream
    rcases quits with same | cancelled
    · exact ⟨outlook, same ▸ shows⟩
    · rw [cancelled]
      exact ⟨_, shows.act .cancel⟩
  refine ⟨fun stream attends => ?_, fun stream late => ?_, fun earlier rest stream split present kept => ?_⟩
  · obtain ⟨outlook, shows⟩ := shown stream
    rcases shows.stands.hearing_or_silent with ⟨messages, place, -, queue⟩ | ⟨silent, -⟩
    · refine ⟨messages, queue, answers_left ?_ after⟩
      rcases quits with same | cancelled
      · obtain ⟨consumer, -, listed⟩ := Fanout.attends_iff.mp attends
        rw [← same, closed.silent.alone] at listed
        exact absurd listed List.not_mem_nil
      · have opened : stream < outlook.opened := by
          rw [← shows.opened]
          exact shows.stands.inside (by rw [place]; exact fun same => by cases same)
        have ended : Shows stream completed.session.fanout (outlook.act stream .cancel) := by
          rw [cancelled]
          exact shows.act .cancel
        refine ⟨_, ended, rfl, ?_⟩
        simp only [Fanout.Outlook.act, place, Fanout.Place.give]
        exact ⟨opened, rfl⟩
    · rw [silent] at attends
      cases attends
  · obtain ⟨outlook, shows⟩ := shows stream
    refine answers_left ⟨outlook, shows, shows.cancelled.symm.trans closed.silent.cancelled, ?_⟩ after
    have stands := shows.stands
    have opened := shows.opened
    cases place : outlook.place with
    | absent => exact fun _ => rfl
    | fresh =>
      rw [place] at stands
      exact ⟨opened ▸ stands.inside (fun same => by cases same), rfl⟩
    | hearing messages =>
      rw [place] at stands
      cases stands with
      | hearing attends queue =>
        rcases late with fresh | unopened
        · exact absurd fresh (Fanout.attends_joined attends).attached
        · exact absurd (Fanout.Stands.inside (.hearing attends queue) fun same => by cases same) (Nat.not_lt_of_le unopened)
    | released messages last =>
      rw [place] at stands
      rcases late with fresh | unopened
      · cases stands with
        | released joined silent queue => exact absurd fresh joined.attached
      · exact absurd (stands.inside fun same => by cases same) (Nat.not_lt_of_le unopened)
  · subst split
    have going : Session.Lasting fun session => ∃ outlook, Shows stream session.fanout outlook :=
      lasting_shown stream
    have there := (Fanout.Present.iff (moves_lasting going completed earlier (shows stream))).mpr present
    rw [moves_append]
    exact (Fanout.Present.iff ⟨_, (moves_present there rest kept).choose_spec.1⟩).mp (moves_present there rest kept)

/-- Cancelling is final. However calls and stream operations are interleaved, whichever commands fail and whichever
other calls are abandoned: a cancellation that returns has tried to take back every channel, and then every pattern,
and returns the first failure; from then on nothing is tracked, added or delivered, and every stream comes to its end. -/
theorem cancellation_is_final (transport : τ) (before after : List (Move τ)) (move : Move τ) (call : Nat)
    (result : Except Error Unit) (numbered : Numbered (before ++ [move] ++ after))
    (cancels : .step (.call call .cancel) ∈ before)
    (running : (call, result) ∉ (moves { transport } before).finished)
    (returns : (call, result) ∈ (moves { transport } (before ++ [move])).finished) :
    Swept (deeds call { transport } (before ++ [move])) result ∧
    Over (moves { transport } (before ++ [move])) (moves { transport } (before ++ [move] ++ after)) ∧
    (∀ other kind targets, .step (.call other (.add kind targets)) ∈ before ++ [move] ++ after →
      (∀ early, (other, early) ∉ (moves { transport } (before ++ [move])).finished) →
      TurnedAway transport (before ++ [move] ++ after) other kind targets) ∧
    (∀ other kind targets, (∀ earlier ∈ before ++ [move] ++ after, earlier.call? ≠ some other) →
      (other, .error .cancelled) ∈
        ((moves { transport } (before ++ [move] ++ after)).step (.call other (.add kind targets))).2.finished) ∧
    Ends (moves { transport } before) (moves { transport } (before ++ [move])) after := by
  have cancelled := path_holds Session.path_cancels (.const True) Session.lasting_cancels transport trivial numbered.left
    (List.mem_append_left [move] cancels)
  obtain ⟨swept, closed⟩ := cancelled.ended result returns
  have still := moves_lasting Session.lasting_cancelled (moves { transport } (before ++ [move])) after closed.cancelled
  rw [← moves_append] at still
  refine ⟨swept, ?_, fun other kind targets started unfinished => ?_, fun other kind targets fresh => ?_, ?_⟩
  · rw [moves_append _ _ after]
    exact stays_over closed after
  · exact turned_away numbered closed.cancelled started unfinished
  · exact refused_promptly still (moves_unheard transport fresh).1 kind targets
  · have last : moves { transport } (before ++ [move]) = (moves { transport } before).move move := moves_append ..
    rw [last] at returns closed ⊢
    obtain ⟨wants, rfl⟩ := finished_by_turn running returns
    refine ends (fun stream => moves_show stream transport before) closed ?_ after
    rw [move_own wants]
    exact runCall_advances (Session.quitting _) _ call (.inl rfl)

end

/-- The server refuses to take the channel back, while another subscription is held at the gate and a message waits for
the only stream that has been polled. -/
theorem cancellation_is_final_refused :
    let quiet : Loopback := {}
    let before : List (Move Loopback) :=
      [.step .openStream, .step (.poll 0), .turn .pump, .step (.call 0 (.add .channel [[97]])), .turn (.call 0),
        .step (.transport (.emit (.channel [97] [49]))), .turn .pump, .step (.setGate true),
        .step (.call 1 (.add .channel [[98]])), .turn (.call 1), .step (.setGate false), .step (.call 2 .cancel),
        .step (.transport (.refuseNext ⟨"no"⟩))]
    let move : Move Loopback := .turn (.call 2)
    let after : List (Move Loopback) :=
      [.step (.drain 0), .step .openStream, .step (.poll 1), .step (.letThrough 1), .turn (.call 1), .step (.drain 1)]
    let completed := moves { transport := quiet } (before ++ [move])
    let refused : Except Error Unit := .error (.server "no")
    Numbered (before ++ [move] ++ after) ∧ (2, refused) ∉ (moves { transport := quiet } before).finished ∧
      (2, refused) ∈ completed.finished ∧ Swept (deeds 2 { transport := quiet } (before ++ [move])) refused ∧
      TurnedAway quiet (before ++ [move] ++ after) 1 .channel [[98]] ∧
      (∃ message, answers 0 completed after = [.ready (.ok message), .ready (.error .cancelled), .ended]) ∧
      answers 1 completed after = [.ready (.error .cancelled), .ended] := by
  intro quiet before move after completed refused
  have numbered : Numbered (before ++ [move] ++ after) := by
    unfold Numbered
    decide +kernel
  have running : (2, refused) ∉ (moves { transport := quiet } before).finished := by decide +kernel
  have returns : (2, refused) ∈ completed.finished := by decide +kernel
  have cancels : .step (.call 2 .cancel) ∈ before := by simp [before]
  have started : .step (.call 1 (.add .channel [[98]])) ∈ before ++ [move] ++ after := by simp [before]
  have unfinished (early : Except Error Unit) : (1, early) ∉ completed.finished := by
    have finished : completed.finished = [(0, .ok ()), (2, refused)] := by decide +kernel
    rw [finished]
    simp
  obtain ⟨swept, -, turned, -, ends⟩ := cancellation_is_final quiet before after move 2 refused numbered cancels running returns
  refine ⟨numbered, running, returns, swept, turned 1 .channel [[98]] started unfinished, ?_, ?_⟩
  · obtain ⟨messages, queue, yielded⟩ := ends.attending 0 (by decide +kernel)
    have waiting : ((moves { transport := quiet } before).session.fanout.queue 0).length = 1 := by decide +kernel
    have polled : (answers 0 completed after).length = 3 := by decide +kernel
    rw [queue, List.length_map] at waiting
    obtain ⟨message, rfl⟩ := List.length_eq_one_iff.mp waiting
    rw [polled] at yielded
    exact ⟨message, yielded⟩
  · have yielded := ends.late 1 (.inr (by decide +kernel))
    have polled : (answers 1 completed after).length = 2 := by decide +kernel
    rw [polled] at yielded
    exact yielded

end Activity

end Subscriber
