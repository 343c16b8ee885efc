import Subscriber.Proofs.Matching

/-! The last turns of a session whose connection writes nothing any more, with nobody held back. Whoever has a turn returns in
it. -/

namespace Subscriber

/-- What a call returns once its command has failed, if all others fail that it still sends. -/
def Stage.verdict? : Stage → Option (Except Error Unit)
  | .answered (.adding _ _) (.error error) | .answered (.removing _ _ _) (.error error)
  | .answered (.clearingChannels _ _) (.error error) => some (.error error)
  | .answered (.undoing _ _) (.error _) => some (.error .cancelled)
  | .answered (.clearingPatterns _ _ channels) (.error error) =>
    some (match channels with
      | .error first => .error first
      | .ok () => .error error)
  | _ => none

/-- The connection without its observers, but for the number of the next. -/
def Link.unwatched (link : Link) : Link := { link with observers := { next := link.observers.next } }

namespace Session

/-- The session as a cancellation leaves it. -/
def torn (session : Session) : Session := { session with channels := {}, patterns := {}, fanout := session.fanout.cancel }

section
variable {a b : Session} {exact : Bool}

private theorem torn_torn (session : Session) : session.torn.torn = session.torn := by
  have ended : session.fanout.cancel.cancel = session.fanout.cancel := session.fanout.cancel_cancel
  unfold torn
  dsimp only
  rw [ended]

theorem Alike.torn (alike : Alike a b) : Alike a.torn b.torn := by
  obtain ⟨notices, rfl⟩ := alike
  exact ⟨notices, rfl⟩

private theorem torn_publish (session : Session) (generation : Nat) (item : Item) :
    Akin false session.torn (session.publish generation item).torn := by
  have published : ∃ notices, session.publish generation item =
      { session with fanout := session.fanout.publish generation item, notices } := by
    unfold publish
    cases item with
    | ok message => exact ⟨_, rfl⟩
    | error interruption =>
      dsimp only
      split <;> exact ⟨_, rfl⟩
  obtain ⟨notices, same⟩ := published
  rw [same]
  exact ⟨notices, _, rfl, .inr ⟨rfl, ⟨rfl, rfl, rfl⟩, session.fanout.bare_cancel_publish generation item⟩⟩

private theorem torn_finish (session : Session) (generation : Nat) : Akin false session.torn (session.finish generation).torn := by
  have finished : ∃ notices, session.finish generation =
      { session with fanout := session.fanout.finish generation, notices } := by
    unfold finish
    dsimp only
    split <;> exact ⟨_, rfl⟩
  obtain ⟨notices, same⟩ := finished
  rw [same]
  exact ⟨notices, _, rfl, .inr ⟨rfl, ⟨rfl, rfl, rfl⟩, session.fanout.bare_cancel_finish generation⟩⟩

private theorem finishCancel_torn (session : Session) (first : Bool) (channels patterns : Except Error Unit) :
    Alike session.torn (session.finishCancel first channels patterns).2 := by
  unfold finishCancel
  dsimp only
  split <;> exact ⟨_, rfl⟩

end

end Session

namespace Activity
open Session (Alike Akin)
open scoped List

/-- Nothing is written any more, and nobody is held back. -/
structure Stranded (activity : Activity Link) : Prop where
  stopped : activity.transport.writer = .stopped
  opened : activity.gate.shut = false

section
variable {exact : Bool} {a b c : Activity Link} {call : Nat} {phase : Phase} {stage : Stage}

private theorem submit_stopped (stopped : a.transport.writer = .stopped) (call : Nat) (phase : Phase) :
    ∃ answer, (phase.targets ≠ [] → ∃ error, answer = .error error) ∧ 
      Transport.submit a.transport call phase.verb phase.targets = (some answer, a.transport) := by
  change ∃ answer, _ ∧ ((a.transport.request call phase.verb phase.targets).1.map (·.mapError Fault.toError),
    (a.transport.request call phase.verb phase.targets).2) = _
  unfold Link.request
  split
  next nobody => exact ⟨.ok (), fun aimed => absurd (List.isEmpty_iff.mp nobody) aimed, rfl⟩
  · exact ⟨_, fun _ => ⟨_, rfl⟩, rfl⟩

/-- Whatever a call still asks is answered at once. -/
theorem Stranded.submit {a : Activity Link} (stranded : a.Stranded) (call : Nat) (phase : Phase) : ∃ result session,
    a.session.fanout.Quits session.fanout ∧
      ∀ ready, Activity.submit { a with ready } call phase = finish { a with ready, session } call result := by
  obtain ⟨answer, -, submitted⟩ := submit_stopped stranded.stopped call phase
  have quits := a.session.resume_quits phase answer
  rcases resumed : a.session.resume phase answer with ⟨result | next, session⟩
  · rw [resumed] at quits
    refine ⟨result, session, quits, fun ready => ?_⟩
    unfold Activity.submit
    rw [submitted]
    dsimp only
    rw [resumed]
  · rw [resumed] at quits
    obtain ⟨result, last, later, returns⟩ :=
      Stranded.submit (a := { a with session }) ⟨stranded.stopped, stranded.opened⟩ call next
    refine ⟨result, last, quits.trans later, fun ready => ?_⟩
    unfold Activity.submit
    rw [submitted]
    dsimp only
    rw [resumed]
    dsimp only
    rw [if_neg (by simp [stranded.opened])]
    exact returns ready
termination_by phase.rank
decreasing_by exact Session.resume_rank (by assumption)

private theorem hear_failed (session : Session) (phase : Phase) (error : Error) :
    Alike session (session.hear phase (.error error)) := ⟨_, rfl⟩

/-- The call returns in its turn, whoever else wants one. -/
def Returns (activity : Activity Link) (call : Nat) (result : Except Error Unit) (session : Session) : Prop :=
  ∀ ready, Activity.runCall { activity with ready } call = (finish { activity with ready, session } call result).adjustPump

/-- A call whose command has failed returns, and leaves the session as it is unless it is a cancellation. -/
private theorem Stranded.runFailed (stranded : a.Stranded) {error : Error}
    (found : a.stage? call = some (.answered phase (.error error))) : ∃ result session,
      (Stage.answered phase (.error error)).verdict? = some result ∧
      (phase.Clears → Alike a.session.torn session) ∧ (¬ phase.Clears → Alike a.session session) ∧
      a.Returns call result session := by
  have run (ready : List Task) : Activity.runCall { a with ready } call =
      (Activity.proceed { a with ready, session := (a.session.resume phase (.error error)).2 } call
        (a.session.resume phase (.error error)).1).adjustPump := by
    have known : stage? { a with ready } call = some (.answered phase (.error error)) := found
    unfold Activity.runCall
    rw [known]
  have heard := hear_failed a.session phase error
  cases phase with
  | clearingChannels targets first =>
    let cleared := a.session.hear (.clearingChannels targets first) (.error error)
    have resumed : a.session.resume (.clearingChannels targets first) (.error error) =
        cleared.cancelPatterns first (.error error) := rfl
    cases left : a.session.patterns.sorted with
    | nil =>
      have ended : cleared.cancelPatterns first (.error error) = cleared.finishCancel first (.error error) (.ok ()) := by
        unfold Session.cancelPatterns
        rw [show cleared.patterns.sorted = [] from left]
      have torn := cleared.finishCancel_torn first (.error error) (.ok ())
      refine ⟨_, _, rfl, fun _ => heard.torn.trans torn, fun other => absurd trivial other, fun ready => ?_⟩
      rw [run, resumed, ended]
      rfl
    | cons pattern others =>
      let next := Phase.clearingPatterns (pattern :: others) first (.error error)
      have asked : cleared.cancelPatterns first (.error error) = (.asking next, cleared) := by
        unfold Session.cancelPatterns
        rw [show cleared.patterns.sorted = pattern :: others from left]
      obtain ⟨answer, failed, submitted⟩ := submit_stopped stranded.stopped call next
      obtain ⟨loss, rfl⟩ := failed (List.cons_ne_nil _ _)
      have again := hear_failed cleared next loss
      have torn := (cleared.hear next (.error loss)).finishCancel_torn first (.error error) (.error loss)
      refine ⟨_, _, rfl, fun _ => (heard.trans again).torn.trans torn, fun other => absurd trivial other, fun ready => ?_⟩
      rw [run, resumed, asked]
      unfold Activity.proceed
      dsimp only
      rw [if_neg (by simp [stranded.opened])]
      unfold Activity.submit
      rw [submitted]
      rfl
  | clearingPatterns targets first channels =>
    have torn := (a.session.hear (.clearingPatterns targets first channels) (.error error)).finishCancel_torn first channels
      (.error error)
    refine ⟨_, _, rfl, fun _ => heard.torn.trans torn, fun other => absurd trivial other, fun ready => ?_⟩
    rw [run]
    rfl
  | _ =>
    refine ⟨_, _, rfl, fun clears => clears.elim, fun _ => heard, fun ready => ?_⟩
    rw [run, Session.resume_outcome _ rfl]
    rfl

private theorem Stranded.proceed (stranded : a.Stranded) (call : Nat) (progress : Progress) : ∃ result session,
    a.session.fanout.Quits session.fanout ∧
      ∀ ready, Activity.proceed { a with ready } call progress = finish { a with ready, session } call result := by
  cases progress with
  | finished result => exact ⟨result, a.session, .inl rfl, fun _ => rfl⟩
  | asking phase =>
    obtain ⟨result, session, quits, returns⟩ := stranded.submit call phase
    refine ⟨result, session, quits, fun ready => ?_⟩
    unfold Activity.proceed
    dsimp only
    rw [if_neg (by simp [stranded.opened])]
    exact returns ready

/-- Whoever goes on in its turn returns. -/
theorem Stranded.returns (stranded : a.Stranded) (found : a.stage? call = some stage) (wants : stage.wants = true) :
    ∃ result session, a.session.fanout.Quits session.fanout ∧ a.Returns call result session := by
  have known (ready : List Task) : stage? { a with ready } call = some stage := found
  have went (outcome : Progress × Session) (quits : a.session.fanout.Quits outcome.2.fanout) : ∃ result session,
      a.session.fanout.Quits session.fanout ∧ ∀ ready, (Activity.proceed { a with ready, session := outcome.2 } call
        outcome.1).adjustPump = (finish { a with ready, session } call result).adjustPump := by
    obtain ⟨result, session, later, returns⟩ :=
      Stranded.proceed (a := { a with session := outcome.2 }) ⟨stranded.stopped, stranded.opened⟩ call outcome.1
    exact ⟨result, session, quits.trans later, fun ready => congrArg adjustPump (returns ready)⟩
  unfold Returns Activity.runCall
  cases stage with
  | starting operation =>
    simp only [known]
    exact went _ (Session.start_quits a.session operation)
  | released phase =>
    simp only [known]
    obtain ⟨result, session, quits, returns⟩ := stranded.submit call phase
    exact ⟨result, session, quits, fun ready => congrArg adjustPump (returns ready)⟩
  | answered phase answer =>
    simp only [known]
    exact went _ (Session.resume_quits a.session phase answer)
  | held phase => cases wants
  | sent phase => cases wants

/-- What a turn makes of those who want one, whoever they are: it keeps some of them, and the pump may come behind them. -/
def Leaves (turn : List Task → Activity Link) (after : Activity Link) (keeps : Task → Bool) (again : Bool) : Prop :=
  ∀ ready, turn ready = if again then Activity.wake { after with ready := ready.filter keeps } .pump
    else { after with ready := ready.filter keeps }

private theorem leaves_all {turn : List Task → Activity Link} {after : Activity Link} (same : ∀ ready, turn ready = { after with ready }) :
    Leaves turn after (fun _ => true) false := by
  intro ready
  rw [same, List.filter_true]
  rfl

private theorem adjustPump_stops (unwanted : a.session.fanout.pump = none) : a.adjustPump = a.stopPump := by
  unfold Activity.adjustPump
  rw [unwanted]

private theorem Returns.leaves (crewed : a.Crewed) {result : Except Error Unit} {session : Session}
    (quits : a.session.fanout.Quits session.fanout) (returns : a.Returns call result session) :
    ∃ (after : Activity Link) (keeps : Task → Bool), Leaves (fun ready => Activity.runCall { a with ready } call) after keeps false ∧
      after.transport.bare = a.transport.bare ∧ after.gate.shut = a.gate.shut ∧
      ∀ other, other ≠ call → keeps (.call other) = true ∧ after.stage? other = a.stage? other := by
  let gone : Activity Link := finish { a with session } call result
  have others (other : Nat) (different : other ≠ call) : gone.stage? other = a.stage? other :=
    (stage?_forget a call).trans (if_neg different)
  have ran (ready : List Task) : Activity.runCall { a with ready } call =
      adjustPump { gone with ready := ready.filter (· != .call call) } := returns ready
  rcases quits with same | cancelled
  · refine ⟨gone, (· != .call call), fun ready => (ran ready).trans (adjustPump_same ?_), rfl, rfl,
      fun other different => ⟨by simpa using different, others other different⟩⟩
    exact crewed.aligned.trans (congrArg Fanout.pump same).symm
  · have unwanted : session.fanout.pump = none := congrArg Fanout.pump cancelled
    rcases a.pump.eq_none_or_eq_some with piped | ⟨pump, piped⟩
    · refine ⟨gone, (· != .call call), fun ready => (ran ready).trans (adjustPump_same ?_), rfl, rfl,
        fun other different => ⟨by simpa using different, others other different⟩⟩
      exact (congrArg (Option.map Pump.generation) piped).trans unwanted.symm
    · refine ⟨{ gone with
          transport := Transport.release (Transport.release a.transport pump.channels) pump.patterns, pump := none },
        fun task => task != .pump && task != .call call, fun ready => (ran ready).trans ?_, rfl, rfl,
        fun other different => ⟨by simpa using different, others other different⟩⟩
      have stopped : adjustPump { gone with ready := ready.filter (· != .call call) } =
          stopPump { gone with ready := ready.filter (· != .call call) } := adjustPump_stops unwanted
      have still : gone.pump = some pump := piped
      rw [stopped, stopPump, still]
      dsimp only
      rw [List.filter_filter]
      rfl

/-- Two that come to the same end, in whatever order the last turns are given: cancellations tear the session down, and
whoever still has a turn returns. -/
structure Converges (exact : Bool) (a b : Activity Link) : Prop where
  transport : b.transport.unwatched = a.transport.unwatched
  gate : b.gate = a.gate
  session : Akin exact a.session.torn b.session.torn
  stages : ∀ call, (b.stage? call).filter (·.verdict?.isNone) = (a.stage? call).filter (·.verdict?.isNone)
  returns : ∀ call, b.told call ++ ((b.stage? call).bind Stage.verdict?).toList =
    a.told call ++ ((a.stage? call).bind Stage.verdict?).toList

theorem Converges.refl (a : Activity Link) : Converges exact a a := ⟨rfl, rfl, .refl _, fun _ => rfl, fun _ => rfl⟩

theorem Converges.symm (converges : Converges exact a b) : Converges exact b a :=
  ⟨converges.transport.symm, converges.gate.symm, converges.session.symm, fun call => (converges.stages call).symm,
    fun call => (converges.returns call).symm⟩

theorem Converges.trans (first : Converges exact a b) (second : Converges exact b c) : Converges exact a c :=
  ⟨second.transport.trans first.transport, second.gate.trans first.gate, first.session.trans second.session,
    fun call => (second.stages call).trans (first.stages call), fun call => (second.returns call).trans (first.returns call)⟩

private theorem Converges.stopPump (a : Activity Link) : Converges exact a a.stopPump := by
  unfold Activity.stopPump
  split
  · exact .refl a
  · exact ⟨rfl, rfl, .refl _, fun _ => rfl, fun _ => rfl⟩

theorem Converges.wake (converges : Converges exact a b) (task : Task) : Converges exact a (b.wake task) := by
  refine ⟨?_, ?_, ?_, fun call => ?_, fun call => ?_⟩
  · rw [wake_transport]
    exact converges.transport
  · rw [wake_gate]
    exact converges.gate
  · rw [wake_session]
    exact converges.session
  · rw [stage?_wake]
    exact converges.stages call
  · simp only [Activity.told, stage?_wake, wake_finished]
    exact converges.returns call

private theorem askSide_unwatched (pump : Pump) (side : Side) (link : Link) : (askSide pump side link).2.unwatched = link.unwatched := by
  have next (id : Nat) : (link.observers.poll id).2.next = link.observers.next := by
    unfold Observers.poll
    split
    · rfl
    · split <;> rfl
  have polled (id : Nat) : (Transport.poll link id).2.unwatched = link.unwatched :=
    congrArg (fun next => { link with observers := { next } : Link }) (next id)
  unfold askSide
  cases side
  all_goals
    dsimp only
    split
    · rfl
    · exact polled _

private theorem pollPump_converges (a : Activity Link) (pump : Pump) {ask : Side → Link → Poll (Except Error Message) × Link}
    (keeps : ∀ side link, (ask side link).2.unwatched = link.unwatched) : Converges exact a (a.pollPump pump ask).2 :=
  ⟨Merge.poll_keeps keeps pump.merge a.transport, rfl, .refl _, fun _ => rfl, fun _ => rfl⟩

/-- What the pump publishes makes no difference to how the session ends, but to its streams. -/
theorem runPump_converges (aligned : a.pump.map (·.generation) = a.session.fanout.pump) (budget : Nat) :
    ∃ after keeps again, Converges false a after ∧ Leaves (fun ready => runPump { a with ready } budget) after keeps again ∧
      ∀ call, keeps (.call call) = true := by
  induction budget generalizing a with
  | zero =>
    rcases a.pump.eq_none_or_eq_some with piped | ⟨pump, piped⟩
    · refine ⟨a, _, _, .refl a, leaves_all fun ready => ?_, fun _ => rfl⟩
      simp only [runPump, piped]
    · refine ⟨(a.pollPump pump askNothing).2, fun _ => true, true, pollPump_converges a pump fun _ _ => rfl, fun ready => ?_,
        fun _ => rfl⟩
      have some : ({ a with ready } : Activity Link).pump = .some pump := piped
      unfold runPump
      rw [some, List.filter_true]
      rfl
  | succ budget ih =>
    rcases a.pump.eq_none_or_eq_some with piped | ⟨pump, piped⟩
    · refine ⟨a, _, _, .refl a, leaves_all fun ready => ?_, fun _ => rfl⟩
      simp only [runPump, piped]
    · have current : (a.pollPump pump (askSide pump)).2.session.fanout.pump = .some pump.generation := by
        change a.session.fanout.pump = _
        rw [← aligned, piped]
        rfl
      have running : (a.pollPump pump (askSide pump)).2.pump.map (·.generation) = .some pump.generation := rfl
      have polled : Converges false a _ := pollPump_converges a pump (askSide_unwatched pump)
      rcases found : a.pollPump pump (askSide pump) with ⟨item, next⟩
      rw [found] at polled current running
      dsimp only at polled current running
      have polls (ready : List Task) :
          pollPump { a with pump := .some pump, ready } pump (askSide pump) = (item, { next with ready }) :=
        congrArg (fun turn : Poll (Except Error Message) × Activity Link => (turn.1, { turn.2 with ready })) found
      have stops {session : Session} (stopped : session.fanout.pump = .none)
          (torn : Akin false next.session.torn session.torn) :
          ∃ after keeps again, Converges false a after ∧
            Leaves (fun ready => adjustPump { next with ready, session }) after keeps again ∧ ∀ call, keeps (.call call) = true := by
        obtain ⟨same, going, -⟩ := Option.map_eq_some_iff.mp running
        have ended : Converges false next { next with session } := ⟨rfl, rfl, torn, fun _ => rfl, fun _ => rfl⟩
        refine ⟨_, (· != .pump), false, polled.trans (ended.trans (.stopPump _)), fun ready => ?_, fun _ => rfl⟩
        dsimp only
        rw [adjustPump_stops stopped]
        unfold Activity.stopPump
        simp only [going]
        rfl
      simp only [runPump, piped, polls]
      cases item with
      | pending => exact ⟨next, _, _, polled, leaves_all fun _ => rfl, fun _ => rfl⟩
      | ended =>
        refine stops ?_ (next.session.torn_finish pump.generation)
        unfold Session.finish Fanout.finish
        rw [if_pos current, if_pos current]
        rfl
      | ready outcome =>
        cases outcome with
        | ok message =>
          have published : (next.session.publish pump.generation (.ok message)).fanout.pump = .some pump.generation := by
            rw [Session.fanout_publish, Fanout.publish_ok current]
            exact current
          have told : Converges false next { next with session := next.session.publish pump.generation (.ok message) } :=
            ⟨rfl, rfl, next.session.torn_publish _ _, fun _ => rfl, fun _ => rfl⟩
          obtain ⟨after, keeps, again, converges, leaves⟩ :=
            ih (a := { next with session := next.session.publish pump.generation (.ok message) }) (running.trans published.symm)
          exact ⟨after, keeps, again, polled.trans (told.trans converges), leaves⟩
        | error error =>
          refine stops ?_ (next.session.torn_publish pump.generation _)
          rw [Session.fanout_publish, Fanout.publish_error current]
          rfl

/-- Nothing is done in such a turn but to publish, or to come to an end with a failure. -/
def Loses (activity : Activity Link) : Task → Prop
  | .call call => ∀ stage, activity.stage? call = some stage → stage.wants = true →
    ∃ phase error, stage = .answered phase (.error error)
  | .background => False
  | .pump => True

section
variable {rest : List Task}

private theorem Converges.adjustPump (unwanted : a.session.fanout.pump = none ∨ a.pump.map (·.generation) = a.session.fanout.pump) :
    Converges exact a a.adjustPump := by
  rcases unwanted with none | aligned
  · rw [adjustPump_stops none]
    exact .stopPump a
  · rw [adjustPump_same aligned]
    exact .refl a

/-- A call whose command has failed comes to its end, and a cancellation brings the session to its end. -/
theorem Stranded.runFailed_converges (stranded : a.Stranded) (crewed : a.Crewed) (arranged : a.Arranged none)
    (front : a.ready = .call call :: rest) {error : Error} (found : a.stage? call = some (.answered phase (.error error))) :
    Converges exact a (Activity.run { a with ready := rest } (.call call)) ∧
      (phase.Clears ∨ a.session.torn = a.session → (Activity.run { a with ready := rest } (.call call)).session.torn =
        (Activity.run { a with ready := rest } (.call call)).session) := by
  obtain ⟨result, session, verdict, clears, plain, returns⟩ := stranded.runFailed found
  let gone : Activity Link := finish { a with ready := rest, session } call result
  have ran : Activity.run { a with ready := rest } (.call call) = gone.adjustPump := returns rest
  have torn : Alike a.session.torn session.torn := by
    by_cases cancels : phase.Clears
    · have ended := (clears cancels).torn
      rwa [Session.torn_torn] at ended
    · exact (plain cancels).torn
  have unwanted : gone.session.fanout.pump = none ∨ gone.pump.map (·.generation) = gone.session.fanout.pump := by
    by_cases cancels : phase.Clears
    · exact .inl (congrArg Fanout.pump (clears cancels).fanout)
    · exact .inr (crewed.aligned.trans (congrArg Fanout.pump (plain cancels).fanout).symm)
  have returned : Converges exact a gone := by
    refine ⟨rfl, ?_, torn.akin exact, fun other => ?_, fun other => ?_⟩
    · have passed := arranged.passed found nofun
      have others : a.gate.calls.filter (· != call) = a.gate.calls := by
        refine List.filter_eq_self.mpr fun other member => bne_iff_ne.mpr ?_
        rintro rfl
        exact passed member
      change { a.gate with calls := a.gate.calls.filter (· != call) } = a.gate
      rw [others]
    · have placed : gone.stage? other = if other = call then none else a.stage? other := stage?_forget a call
      rw [placed]
      split
      next own =>
        rw [own, found]
        exact (Option.filter_some_neg (by simp [verdict])).symm
      · rfl
    · have placed : gone.stage? other = if other = call then none else a.stage? other := stage?_forget a call
      have told : gone.told other = if other = call then a.told call ++ [result] else a.told other :=
        told_finish { a with ready := rest, session } call result other
      rw [placed, told]
      split
      next own =>
        rw [own, found, Option.bind_some, verdict]
        exact List.append_nil _
      · rfl
  refine ⟨?_, fun ends => ?_⟩
  · rw [ran]
    exact returned.trans (.adjustPump unwanted)
  · rw [ran, adjustPump_session]
    change session.torn = session
    by_cases cancels : phase.Clears
    · obtain ⟨notices, rfl⟩ := clears cancels
      exact congrArg (fun ended : Session => { ended with notices }) a.session.torn_torn
    · obtain ⟨notices, rfl⟩ := plain cancels
      exact congrArg (fun ended : Session => { ended with notices }) (ends.resolve_left cancels)

end

/-! One turn after the other. -/

private theorem Leaves.pair {turn : List Task → Activity Link} {after : Activity Link} {keeps : Task → Bool} {again : Bool}
    (leaves : Leaves turn after keeps again) {ready other : List Task} (same : ready ~ other) : ∃ more,
      (∀ task ∈ more, task = .pump) ∧ (turn ready).ready = ready.filter keeps ++ more ∧
      turn other = { turn ready with ready := other.filter keeps ++ more } := by
  rw [leaves, leaves]
  cases again with
  | false =>
    refine ⟨[], nofun, ?_, ?_⟩
    · rw [List.append_nil]
      rfl
    · rw [List.append_nil]
      rfl
  | true =>
    have among : (other.filter keeps).contains .pump = (ready.filter keeps).contains .pump := by
      rw [Bool.eq_iff_iff, List.contains_iff_mem, List.contains_iff_mem]
      exact (same.filter keeps).mem_iff.symm
    unfold Activity.wake
    simp only [if_true]
    rw [among]
    by_cases waits : (ready.filter keeps).contains .pump = true
    · rw [if_pos waits, if_pos waits]
      exact ⟨[], nofun, (List.append_nil _).symm, by rw [List.append_nil]⟩
    · rw [if_neg waits, if_neg waits]
      exact ⟨[.pump], fun _ => List.mem_singleton.mp, rfl, rfl⟩

private theorem Leaves.stage? {turn : List Task → Activity Link} {after : Activity Link} {keeps : Task → Bool} {again : Bool}
    (leaves : Leaves turn after keeps again) (ready : List Task) (call : Nat) : (turn ready).stage? call = after.stage? call := by
  rw [leaves]
  split
  · exact stage?_wake _ _
  · rfl

private theorem Leaves.stranded {turn : List Task → Activity Link} {after : Activity Link} {keeps : Task → Bool} {again : Bool}
    (leaves : Leaves turn after keeps again) (stranded : after.Stranded) (ready : List Task) : (turn ready).Stranded := by
  rw [leaves]
  split
  · exact ⟨(congrArg Link.writer (wake_transport _ _)).trans stranded.stopped,
      (congrArg Gate.shut (wake_gate _ _)).trans stranded.opened⟩
  · exact ⟨stranded.stopped, stranded.opened⟩

/-- Whoever has a turn, all others want theirs as before. -/
private theorem Stranded.leaves (stranded : a.Stranded) (crewed : a.Crewed) {task : Task} (other : task ≠ .background) :
    ∃ after keeps again, Leaves (fun ready => Activity.run { a with ready } task) after keeps again ∧ after.Stranded ∧
      ∀ call, task ≠ .call call → keeps (.call call) = true ∧ after.stage? call = a.stage? call := by
  cases task with
  | background => exact absurd rfl other
  | pump =>
    obtain ⟨after, keeps, again, converges, leaves, kept⟩ := runPump_converges crewed.aligned pumpTurn
    have calls (call : Nat) : after.stage? call = a.stage? call := by
      have delivers := runPump_delivers Link.steady_bare pumpTurn { a with ready := [] }
      exact (leaves.stage? [] call).symm.trans (congrArg (List.lookup call) delivers.calls)
    refine ⟨after, keeps, again, leaves, ⟨?_, ?_⟩, fun call _ => ⟨kept call, calls call⟩⟩
    · exact (congrArg Link.writer converges.transport).trans stranded.stopped
    · exact (congrArg Gate.shut converges.gate).trans stranded.opened
  | call call =>
    have idle (still : ∀ ready, Activity.runCall { a with ready } call = { a with ready }) : ∃ after keeps again,
        Leaves (fun ready => Activity.run { a with ready } (.call call)) after keeps again ∧ after.Stranded ∧
          ∀ other, Task.call call ≠ .call other → keeps (.call other) = true ∧ after.stage? other = a.stage? other :=
      ⟨a, _, _, leaves_all still, stranded, fun _ _ => ⟨rfl, rfl⟩⟩
    cases found : a.stage? call with
    | none =>
      refine idle fun ready => ?_
      have known : stage? { a with ready } call = none := found
      rw [Activity.runCall, known]
    | some stage =>
      by_cases wants : stage.wants = true
      · obtain ⟨result, session, quits, returns⟩ := stranded.returns found wants
        obtain ⟨after, keeps, leaves, transport, gate, others⟩ := returns.leaves crewed quits
        refine ⟨after, keeps, false, leaves, ⟨?_, gate.trans stranded.opened⟩, fun other different => ?_⟩
        · exact (congrArg Link.writer transport).trans stranded.stopped
        · exact others other fun same => different (same ▸ rfl)
      · refine idle fun ready => ?_
        have known : stage? { a with ready } call = some stage := found
        rw [Activity.runCall, known]
        cases stage with
        | held phase => rfl
        | sent phase => rfl
        | _ => exact absurd rfl wants

/-- Whoever has a turn, the others are where they were, in whatever order they want theirs. -/
theorem Stranded.others (stranded : a.Stranded) (crewed : a.Crewed) (arranged : a.Arranged none) {task : Task}
    {rest : List Task} (front : a.ready = task :: rest) (other : task ≠ .background) : ∃ keeps more, (Activity.run { a with ready := rest } task).Stranded ∧
      (Activity.run { a with ready := rest } task).ready = rest.filter keeps ++ more ∧
      (∀ ready, rest ~ ready → Activity.run { a with ready } task =
        { Activity.run { a with ready := rest } task with ready := ready.filter keeps ++ more }) ∧
      (∀ call, .call call ∈ rest → keeps (.call call) = true ∧
        (Activity.run { a with ready := rest } task).stage? call = a.stage? call) ∧
      (∀ next ∈ more, next = .pump) := by
  obtain ⟨after, keeps, again, leaves, still, others⟩ := stranded.leaves crewed other
  obtain ⟨more, pumps, ready, -⟩ := leaves.pair (.refl rest)
  refine ⟨keeps, more, leaves.stranded still rest, ready, fun other same => ?_, fun call member => ?_, pumps⟩
  · obtain ⟨again, -, turned, turned'⟩ := leaves.pair same
    rw [List.append_cancel_left (turned.symm.trans ready)] at turned'
    exact turned'
  · have different : task ≠ .call call := fun same => arranged.once (same ▸ front) member
    exact ⟨(others call different).1, (leaves.stage? rest call).trans (others call different).2⟩

end

end Activity

end Subscriber
