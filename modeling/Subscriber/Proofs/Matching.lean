import Subscriber.Proofs.SessionAgreement
import Subscriber.Proofs.Settling
import Subscriber.Proofs.UnreadItems

/-! Two sessions over connections with queues of two sizes. Where requests wait decides who has a turn in which nothing is
done, and in which order calls say that they have failed. Neither makes a difference to anybody else, as long as the call is
not a cancellation; whatever does make a difference happens in the same order. -/

namespace Subscriber

/-- What a call is going to return in its next turn, if that is all it is going to do. -/
def Stage.outcome? : Stage → Option (Except Error Unit)
  | .answered (.adding _ _) (.error error) | .answered (.removing _ _ _) (.error error) => some (.error error)
  | .answered (.undoing _ _) (.error _) => some (.error .cancelled)
  | _ => none

/-- Only a cancellation goes on with a failure. -/
theorem Stage.outcome?_failed {phase : Phase} (plain : ¬ phase.Clears) (error : Error) :
    (Stage.answered phase (.error error)).outcome? ≠ none := by
  cases phase with
  | clearingChannels targets first => exact absurd trivial plain
  | clearingPatterns targets first channels => exact absurd trivial plain
  | _ => exact Option.some_ne_none _

private theorem Stage.wants_of_outcome {stage : Stage} (spent : stage.outcome? ≠ none) : stage.wants = true := by
  cases stage with
  | answered phase answer => rfl
  | _ => exact absurd rfl spent

theorem Session.resume_outcome (session : Session) {phase : Phase} {answer result : Except Error Unit}
    (spent : (Stage.answered phase answer).outcome? = some result) :
    session.resume phase answer = (.finished result, session.hear phase answer) := by
  cases phase with
  | adding kind targets =>
    cases answer with
    | ok value => cases spent
    | error error => cases spent; rfl
  | undoing kind targets =>
    cases answer with
    | ok value => cases spent
    | error error => cases spent; rfl
  | removing kind targets sweeping =>
    cases answer with
    | ok value => cases spent
    | error error => cases spent; rfl
  | _ => cases spent

namespace Activity
open Session (Akin)
open scoped List

section
variable {τ : Type} {a : Activity τ} {call : Nat} {stage old : Stage}

/-- The stage of a call that does not just have to return. -/
def engaged (activity : Activity τ) (call : Nat) : Option Stage :=
  (activity.stage? call).filter (·.outcome?.isNone)

def told (activity : Activity τ) (call : Nat) : List (Except Error Unit) :=
  (activity.finished.filter (·.1 == call)).map Prod.snd

/-- What a call has returned or just has to return. -/
def results (activity : Activity τ) (call : Nat) : List (Except Error Unit) :=
  activity.told call ++ ((activity.stage? call).bind Stage.outcome?).toList

/-- Whether a turn can make a difference to others. -/
def matters (activity : Activity τ) : Task → Bool
  | .call call => (activity.engaged call).any Stage.wants
  | .background | .pump => true

/-- The turns that are wanted and can make a difference. -/
def agenda (activity : Activity τ) : List Task := activity.ready.filter activity.matters

theorem matters_call : a.matters (.call call) = (a.engaged call).any Stage.wants := rfl

theorem engaged_some : a.engaged call = some stage ↔ a.stage? call = some stage ∧ stage.outcome? = none := by
  unfold engaged
  rw [Option.filter_eq_some_iff, Option.isNone_iff_eq_none]

private theorem results_engaged (found : a.engaged call = some stage) : a.results call = a.told call := by
  obtain ⟨known, going⟩ := engaged_some.mp found
  rw [results, known, Option.bind_some, going]
  exact List.append_nil _

theorem agenda_wake (a : Activity τ) (task : Task) :
    (a.wake task).agenda = if a.matters task && !a.agenda.contains task then a.agenda ++ [task] else a.agenda := by
  have same : (a.wake task).matters = a.matters := by
    funext other
    cases other with
    | call call => simp only [matters, engaged, stage?_wake]
    | _ => rfl
  have listed : a.agenda.contains task = (a.ready.contains task && a.matters task) := by
    rw [Bool.eq_iff_iff, List.contains_iff_mem, Bool.and_eq_true_iff, List.contains_iff_mem]
    exact List.mem_filter
  unfold agenda at listed ⊢
  rw [same, listed]
  unfold wake
  cases wanted : a.ready.contains task with
  | true => cases a.matters task <;> simp
  | false => cases difference : a.matters task <;> simp [difference]

end

/-- Nobody can tell the two apart, but by the log, by turns that are wanted, and, unless they have to be `exact`, by what is
left to be read from a session in which nobody is given anything any more. -/
structure Tallies (exact : Bool) (a b : Activity Link) : Prop where
  peers : a.transport.Peers b.transport
  session : Akin exact a.session b.session
  gate : b.gate = a.gate
  pump : b.pump = a.pump
  engaged : ∀ call, b.engaged call = a.engaged call
  results : ∀ call, b.results call = a.results call

/-- And the turns in which something is done are wanted in the same order. -/
structure Matches (exact : Bool) (a b : Activity Link) : Prop extends Tallies exact a b where
  agenda : b.agenda = a.agenda

section
variable {exact : Bool} {a b c : Activity Link} {call : Nat} {stage old : Stage} {phase : Phase} {rest rest' : List Task}

theorem Tallies.refl (a : Activity Link) : Tallies exact a a := ⟨.refl _, .refl _, rfl, rfl, fun _ => rfl, fun _ => rfl⟩

theorem Tallies.symm (tallies : Tallies exact a b) : Tallies exact b a :=
  ⟨tallies.peers.symm, tallies.session.symm, tallies.gate.symm, tallies.pump.symm, fun call => (tallies.engaged call).symm,
    fun call => (tallies.results call).symm⟩

theorem Tallies.trans (first : Tallies exact a b) (second : Tallies exact b c) : Tallies exact a c :=
  ⟨first.peers.trans second.peers, first.session.trans second.session, second.gate.trans first.gate,
    second.pump.trans first.pump, fun call => (second.engaged call).trans (first.engaged call),
    fun call => (second.results call).trans (first.results call)⟩

theorem Matches.refl (a : Activity Link) : Matches exact a a := ⟨.refl a, rfl⟩

theorem Matches.symm (matched : Matches exact a b) : Matches exact b a := ⟨matched.toTallies.symm, matched.agenda.symm⟩

theorem Matches.trans (first : Matches exact a b) (second : Matches exact b c) : Matches exact a c :=
  ⟨first.toTallies.trans second.toTallies, second.agenda.trans first.agenda⟩

theorem Tallies.matters (tallies : Tallies exact a b) : b.matters = a.matters := by
  funext task
  cases task with
  | call call => simp only [Activity.matters, tallies.engaged]
  | _ => rfl

theorem Tallies.known (tallies : Tallies exact a b) (found : a.engaged call = some stage) : b.stage? call = some stage :=
  (engaged_some.mp ((tallies.engaged call).trans found)).1

theorem Tallies.told (tallies : Tallies exact a b) (found : a.engaged call = some stage) : b.told call = a.told call := by
  have results := tallies.results call
  rwa [results_engaged found, results_engaged ((tallies.engaged call).trans found)] at results

private theorem tallies_wake (a : Activity Link) (task : Task) : Tallies exact a (a.wake task) := by
  refine ⟨?_, ?_, wake_gate .., wake_pump .., fun other => ?_, fun other => ?_⟩
  · rw [wake_transport]
    exact .refl _
  · rw [wake_session]
    exact .refl _
  · simp only [engaged, stage?_wake]
  · simp only [results, Activity.told, stage?_wake, wake_finished]

private theorem Tallies.wake (tallies : Tallies exact a b) (task : Task) : Tallies exact (a.wake task) (b.wake task) :=
  ((tallies_wake a task).symm.trans tallies).trans (tallies_wake b task)

theorem Matches.wake (matched : Matches exact a b) (task : Task) : Matches exact (a.wake task) (b.wake task) := by
  refine ⟨matched.toTallies.wake task, ?_⟩
  rw [agenda_wake, agenda_wake, matched.matters, matched.agenda]

theorem Matches.beside (matched : Matches exact a b) {link other : Link} (peers : link.Peers other) {mine yours : Session}
    (akin : Akin exact mine yours) : Matches exact { a with transport := link, session := mine }
      { b with transport := other, session := yours } :=
  { matched with peers, session := akin }

theorem Matches.withSession (matched : Matches exact a b) {mine yours : Session} (akin : Akin exact mine yours) :
    Matches exact { a with session := mine } { b with session := yours } := matched.beside matched.peers akin

/-! A call comes to another stage, or is gone. -/

theorem engaged_placed {next : Option Stage} (stages : ∀ other, b.stage? other = if other = call then next else a.stage? other)
    (other : Nat) : b.engaged other = if other = call then next.filter (·.outcome?.isNone) else a.engaged other := by
  unfold Activity.engaged
  rw [stages]
  split <;> rfl

theorem results_placed {next : Option Stage} (stages : ∀ other, b.stage? other = if other = call then next else a.stage? other)
    (told : ∀ other, other ≠ call → b.told other = a.told other) (other : Nat) :
    b.results other = if other = call then b.told call ++ (next.bind Stage.outcome?).toList else a.results other := by
  unfold Activity.results
  rw [stages]
  split
  next own => rw [own]
  next different => rw [told other different]

/-- The others want their turns for the same things as before. -/
theorem agenda_placed {next : Option Stage} (stages : ∀ other, b.stage? other = if other = call then next else a.stage? other)
    (ready : b.ready = a.ready) (quiet : .call call ∉ a.ready ∨ b.matters (.call call) = a.matters (.call call)) :
    b.agenda = a.agenda := by
  unfold agenda
  rw [ready]
  refine List.filter_congr fun task member => ?_
  cases task with
  | call other =>
    by_cases own : other = call
    · subst own
      exact quiet.resolve_left fun absent => absent member
    · change (b.engaged other).any _ = (a.engaged other).any _
      rw [engaged_placed stages, if_neg own]
  | _ => rfl

theorem Tallies.restage (tallies : Tallies exact a b) (found : a.engaged call = some old) (new : Stage) :
    Tallies exact (a.setStage call new) (b.setStage call new) := by
  have found' := (tallies.engaged call).trans found
  have stages (c : Activity Link) (engaged : c.engaged call = some old) (other : Nat) :
      (c.setStage call new).stage? other = if other = call then some new else c.stage? other :=
    stage?_setStage_known ((engaged_some.mp engaged).1 ▸ rfl) new other
  refine ⟨tallies.peers, tallies.session, tallies.gate, tallies.pump, fun other => ?_, fun other => ?_⟩
  · rw [engaged_placed (stages a found), engaged_placed (stages b found'), tallies.engaged]
  · rw [results_placed (stages a found) fun _ _ => rfl, results_placed (stages b found') fun _ _ => rfl, tallies.results]
    have told : (b.setStage call new).told call = (a.setStage call new).told call := tallies.told found
    rw [told]

theorem Matches.restage (matched : Matches exact a b) (found : a.engaged call = some old) (new : Stage)
    (quiet : .call call ∉ a.ready ∧ .call call ∉ b.ready ∨ old.wants = false ∧ (new.wants = false ∨ new.outcome? ≠ none)) :
    Matches exact (a.setStage call new) (b.setStage call new) := by
  have found' := (matched.engaged call).trans found
  have stages (c : Activity Link) (engaged : c.engaged call = some old) (other : Nat) :
      (c.setStage call new).stage? other = if other = call then some new else c.stage? other :=
    stage?_setStage_known ((engaged_some.mp engaged).1 ▸ rfl) new other
  have idle (c : Activity Link) (engaged : c.engaged call = some old)
      (still : old.wants = false ∧ (new.wants = false ∨ new.outcome? ≠ none)) :
      (c.setStage call new).matters (.call call) = c.matters (.call call) := by
    change ((c.setStage call new).engaged call).any _ = (c.engaged call).any _
    rw [engaged_placed (stages c engaged), if_pos rfl, engaged, Option.any_some, still.1]
    rcases still.2 with waits | spent
    · cases known : new.outcome? <;> simp [known, waits]
    · obtain ⟨result, known⟩ := Option.ne_none_iff_exists'.mp spent
      simp [known]
  refine ⟨matched.toTallies.restage found new, ?_⟩
  rw [agenda_placed (stages a found) rfl (quiet.imp And.left (idle a found)),
    agenda_placed (stages b found') rfl (quiet.imp And.right (idle b found')), matched.agenda]

theorem told_finish (a : Activity Link) (call : Nat) (result : Except Error Unit) (other : Nat) :
    (a.finish call result).told other = if other = call then a.told call ++ [result] else a.told other := by
  unfold Activity.told Activity.finish
  dsimp only
  rw [List.filter_append]
  split
  next own =>
    rw [own, List.filter_cons_of_pos (by simp), List.filter_nil, List.map_append]
    rfl
  next different =>
    have out : (call == other) = false := beq_false_of_ne (Ne.symm different)
    rw [List.filter_cons_of_neg (by simp [out]), List.filter_nil, List.append_nil]

theorem ready_finish (absent : .call call ∉ a.ready) (result : Except Error Unit) : (a.finish call result).ready = a.ready := by
  refine List.filter_eq_self.mpr fun task member => bne_iff_ne.mpr ?_
  rintro rfl
  exact absent member

theorem Matches.finish (matched : Matches exact a b) (found : a.engaged call = some old) (absent : .call call ∉ a.ready)
    (absent' : .call call ∉ b.ready) (result : Except Error Unit) : Matches exact (a.finish call result) (b.finish call result) := by
  have stages (c : Activity Link) (other : Nat) :
      (c.finish call result).stage? other = if other = call then none else c.stage? other := stage?_forget c call
  have others (c : Activity Link) (other : Nat) (different : other ≠ call) : (c.finish call result).told other = c.told other :=
    (told_finish c call result other).trans (if_neg different)
  have own (c : Activity Link) : (c.finish call result).told call = c.told call ++ [result] :=
    (told_finish c call result call).trans (if_pos rfl)
  refine ⟨⟨matched.peers, matched.session, ?_, matched.pump, fun other => ?_, fun other => ?_⟩, ?_⟩
  · change { b.gate with calls := b.gate.calls.filter (· != call) } = { a.gate with calls := a.gate.calls.filter (· != call) }
    rw [matched.gate]
  · rw [engaged_placed (stages a), engaged_placed (stages b), matched.engaged]
  · rw [results_placed (stages a) (others a), results_placed (stages b) (others b), matched.results, own, own, matched.told found]
  · rw [agenda_placed (stages a) (ready_finish absent result) (.inl absent),
      agenda_placed (stages b) (ready_finish absent' result) (.inl absent'), matched.agenda]

theorem Matches.hold (matched : Matches exact a b) (found : a.engaged call = some old) (absent : .call call ∉ a.ready)
    (absent' : .call call ∉ b.ready) (phase : Phase) :
    Matches exact (setStage { a with gate := { a.gate with calls := a.gate.calls ++ [call] } } call (.held phase))
      (setStage { b with gate := { b.gate with calls := b.gate.calls ++ [call] } } call (.held phase)) := by
  have lined : Matches exact { a with gate := { a.gate with calls := a.gate.calls ++ [call] } }
      { b with gate := { b.gate with calls := b.gate.calls ++ [call] } } :=
    { matched with gate := congrArg (fun gate : Gate => { gate with calls := gate.calls ++ [call] }) matched.gate }
  exact lined.restage found _ (.inl ⟨absent, absent'⟩)

private theorem Matches.stopPump (matched : Matches exact a b) : Matches exact a.stopPump b.stopPump := by
  have agenda (c : Activity Link) {rest : List Task} (ready : rest = c.ready.filter (· != .pump)) :
      rest.filter c.matters = c.agenda.filter (· != .pump) := ready ▸ List.filter_comm ..
  unfold Activity.stopPump
  rw [matched.pump]
  split
  · exact matched
  next pump _ =>
    refine { matched with peers := ?_, pump := rfl, agenda := ?_ }
    · have peers := matched.peers
      change Link.Peers { a.transport with observers := (a.transport.observers.release _).release _ }
        { b.transport with observers := (b.transport.observers.release _).release _ }
      rw [peers.observed]
      exact peers.withObservers _
    · refine (agenda b rfl).trans (Eq.trans ?_ (agenda a rfl).symm)
      rw [matched.agenda]

private theorem Matches.startPump (matched : Matches exact a b) (generation : Nat) :
    Matches exact (a.startPump generation) (b.startPump generation) := by
  obtain ⟨first, channels⟩ := matched.peers.observe .channel
  obtain ⟨second, patterns⟩ := channels.observe .pattern
  unfold Activity.startPump
  apply Matches.wake
  exact { matched with
    peers := patterns
    pump := congrArg₂ (fun channels patterns => some { generation, channels, patterns : Pump }) first second }

theorem Matches.adjustPump (matched : Matches exact a b) : Matches exact a.adjustPump b.adjustPump := by
  unfold Activity.adjustPump
  rw [matched.session.pump, matched.pump]
  split
  · exact matched.stopPump
  · split
    · exact matched
    · exact matched.stopPump.startPump _

theorem Matches.submit {a b : Activity Link} (matched : Matches exact a b) (mine : a.transport.Sound) (yours : b.transport.Sound)
    (found : a.engaged call = some old) (absent : .call call ∉ a.ready) (absent' : .call call ∉ b.ready) (phase : Phase) :
    Matches exact (a.submit call phase) (b.submit call phase) := by
  have sound := mine.requested call phase.verb phase.targets
  have sound' := yours.requested call phase.verb phase.targets
  obtain ⟨same, peers⟩ := matched.peers.request mine yours call phase.verb phase.targets
  unfold Activity.submit
  rcases submitted : Transport.submit a.transport call phase.verb phase.targets with ⟨answer, link⟩
  rcases submitted' : Transport.submit b.transport call phase.verb phase.targets with ⟨answer', link'⟩
  obtain ⟨answered, after⟩ : (a.transport.request call phase.verb phase.targets).1.map (·.mapError Fault.toError) = answer ∧
      (a.transport.request call phase.verb phase.targets).2 = link := Prod.mk.inj submitted
  obtain ⟨answered', after'⟩ : (b.transport.request call phase.verb phase.targets).1.map (·.mapError Fault.toError) = answer' ∧
      (b.transport.request call phase.verb phase.targets).2 = link' := Prod.mk.inj submitted'
  rw [same, answered] at answered'
  rw [after] at sound peers
  rw [after'] at sound' peers
  subst answered'
  cases answer with
  | none =>
    have asked : Matches exact { a with transport := link } { b with transport := link' } := matched.beside peers matched.session
    exact (asked.restage found (.sent phase) (.inl ⟨absent, absent'⟩)).wake .background
  | some answer =>
    obtain ⟨progress, akin⟩ := matched.session.resume phase answer
    dsimp only
    rcases resumed : a.session.resume phase answer with ⟨result | next, session⟩
    all_goals
      rcases resumed' : b.session.resume phase answer with ⟨again, follower⟩
      rw [resumed, resumed'] at progress akin
      cases progress
      have moved : Matches exact { a with transport := link, session } { b with transport := link', session := follower } :=
        matched.beside peers akin
    · exact moved.finish found absent absent' result
    · dsimp only
      by_cases shut : a.gate.shut = true
      · rw [if_pos shut, if_pos (matched.gate.symm ▸ shut)]
        exact moved.hold found absent absent' next
      · rw [if_neg shut, if_neg (matched.gate.symm ▸ shut)]
        exact moved.submit sound sound' found absent absent' next
termination_by phase.rank
decreasing_by exact Session.resume_rank (by assumption)

private theorem Matches.proceed (matched : Matches exact a b) (mine : a.transport.Sound) (yours : b.transport.Sound)
    (found : a.engaged call = some old) (absent : .call call ∉ a.ready) (absent' : .call call ∉ b.ready) (progress : Progress) :
    Matches exact (a.proceed call progress) (b.proceed call progress) := by
  cases progress with
  | finished result => exact matched.finish found absent absent' result
  | asking phase =>
    unfold Activity.proceed
    dsimp only
    rw [matched.gate]
    split
    · have held := matched.hold found absent absent' phase
      rw [matched.gate] at held
      exact held
    · exact matched.submit mine yours found absent absent' phase

theorem Matches.runCall (matched : Matches exact a b) (mine : a.transport.Sound) (yours : b.transport.Sound)
    (found : a.engaged call = some old) (absent : .call call ∉ a.ready) (absent' : .call call ∉ b.ready) :
    Matches exact (a.runCall call) (b.runCall call) := by
  have went {outcome outcome' : Progress × Session} (same : outcome'.1 = outcome.1) (akin : Akin exact outcome.2 outcome'.2) :
      Matches exact (Activity.proceed { a with session := outcome.2 } call outcome.1).adjustPump
        (Activity.proceed { b with session := outcome'.2 } call outcome'.1).adjustPump := by
    rw [same]
    exact ((matched.withSession akin).proceed mine yours found absent absent' outcome.1).adjustPump
  unfold Activity.runCall
  rw [(engaged_some.mp found).1, matched.known found]
  cases old with
  | starting operation =>
    obtain ⟨same, akin⟩ := matched.session.start operation
    exact went same akin
  | released phase => exact (matched.submit mine yours found absent absent' phase).adjustPump
  | answered phase answer =>
    obtain ⟨same, akin⟩ := matched.session.resume phase answer
    exact went same akin
  | held phase => exact matched
  | sent phase => exact matched

private theorem Matches.pollPump (matched : Matches exact a b) (pump : Pump) {ask : Side → Link → Poll (Except Error Message) × Link}
    (asked : ∀ side link other, Link.Peers link other →
      (ask side link).1 = (ask side other).1 ∧ (ask side link).2.Peers (ask side other).2) :
    (a.pollPump pump ask).1 = (b.pollPump pump ask).1 ∧ Matches exact (a.pollPump pump ask).2 (b.pollPump pump ask).2 := by
  obtain ⟨item, merge, after⟩ := Merge.poll_alike asked pump.merge matched.peers
  unfold Activity.pollPump
  refine ⟨item, { matched with peers := after, pump := ?_ }⟩
  dsimp only
  rw [merge]

private theorem askSide_peers (pump : Pump) (side : Side) {link other : Link} (peers : link.Peers other) :
    (askSide pump side link).1 = (askSide pump side other).1 ∧ (askSide pump side link).2.Peers (askSide pump side other).2 := by
  have polled (id : Nat) : (Transport.poll link id).1 = (Transport.poll other id).1 ∧
      (Transport.poll link id).2.Peers (Transport.poll other id).2 := by
    change (link.observers.poll id).1.mapFault _ = (other.observers.poll id).1.mapFault _ ∧
      Link.Peers { link with observers := (link.observers.poll id).2 } { other with observers := (other.observers.poll id).2 }
    rw [peers.observed]
    exact ⟨rfl, peers.withObservers _⟩
  cases side with
  | left =>
    unfold askSide
    dsimp only
    split
    · exact ⟨rfl, peers⟩
    · exact polled pump.channels
  | right =>
    unfold askSide
    dsimp only
    split
    · exact ⟨rfl, peers⟩
    · exact polled pump.patterns

theorem Matches.runPump (matched : Matches exact a b) (budget : Nat) : Matches exact (a.runPump budget) (b.runPump budget) := by
  induction budget generalizing a b with
  | zero =>
    unfold Activity.runPump
    rw [matched.pump]
    split
    · exact matched
    next pump _ => exact (matched.pollPump pump fun _ _ _ peers => ⟨rfl, peers⟩).2.wake .pump
  | succ budget ih =>
    unfold Activity.runPump
    rw [matched.pump]
    split
    · exact matched
    next pump _ =>
      obtain ⟨item, polled⟩ := matched.pollPump pump fun side _ _ peers => askSide_peers pump side peers
      rcases mine : a.pollPump pump (askSide pump) with ⟨found, next⟩
      rcases yours : b.pollPump pump (askSide pump) with ⟨again, follower⟩
      rw [mine, yours] at item polled
      cases item
      cases found with
      | pending => exact polled
      | ended => exact (polled.withSession (polled.session.finish pump.generation)).adjustPump
      | ready outcome =>
        cases outcome with
        | ok message => exact ih (polled.withSession (polled.session.publish pump.generation (.ok message)))
        | error error =>
          exact (polled.withSession (polled.session.publish pump.generation (.error (.upstream error)))).adjustPump

/-! What the connection tells. -/

/-- Nobody who waits for an answer of such a kind wants a turn before. -/
def Poised (awaits : Phase → Prop) (activity : Activity Link) : Prop :=
  ∀ call phase, activity.stage? call = some (.sent phase) → awaits phase → .call call ∉ activity.ready

theorem mem_wake_iff {task other : Task} (a : Activity Link) : task ∈ (a.wake other).ready ↔ task ∈ a.ready ∨ task = other := by
  unfold Activity.wake
  split
  next waits =>
    refine ⟨.inl, fun either => either.elim id ?_⟩
    rintro rfl
    exact List.contains_iff_mem.mp waits
  · rw [List.mem_append, List.mem_singleton]

/-- What is told does not make anybody wait for an answer. -/
private theorem sent_of_hear {signal : Signal Error} (sent : (a.hear signal).stage? call = some (.sent phase)) :
    a.stage? call = some (.sent phase) := by
  unfold Activity.hear at sent
  cases signal with
  | answer other answer =>
    dsimp only at sent
    split at sent
    next asked found =>
      rw [stage?_wake] at sent
      by_cases own : call = other
      · subst own
        cases (stage?_setStage_self found (.answered asked answer)).symm.trans sent
      · rwa [stage?_setStage_other own] at sent
    · exact sent
  | admitted other =>
    dsimp only at sent
    split at sent
    · rwa [stage?_wake] at sent
    · exact sent
  | observed =>
    dsimp only at sent
    split at sent
    · rwa [stage?_wake] at sent
    · exact sent
  | notice notice => exact sent

theorem sent_of_foldl {signals : List (Signal Error)} (sent : (signals.foldl Activity.hear a).stage? call = some (.sent phase)) :
    a.stage? call = some (.sent phase) := by
  induction signals generalizing a with
  | nil => exact sent
  | cons signal signals ih => exact sent_of_hear (ih sent)

theorem Poised.hear {awaits : Phase → Prop} (poised : a.Poised awaits) {signal : Signal Error}
    (other : ∀ call, signal ≠ .admitted call) : (a.hear signal).Poised awaits := by
  intro call phase sent awaited
  have before := poised call phase (sent_of_hear sent) awaited
  unfold Activity.hear at sent ⊢
  cases signal with
  | answer answered answer =>
    dsimp only at sent ⊢
    split
    next asked found =>
      simp only [found, stage?_wake] at sent
      rw [mem_wake_iff]
      rintro (early | last)
      · exact before early
      · cases last
        cases (stage?_setStage_self found (.answered asked answer)).symm.trans sent
    · exact before
  | admitted answered => exact absurd rfl (other answered)
  | observed =>
    dsimp only
    split
    · rw [mem_wake_iff]
      rintro (early | last)
      · exact before early
      · cases last
    · exact before
  | notice notice => exact before

theorem Poised.hearAll {awaits : Phase → Prop} (poised : a.Poised awaits) {signals : List (Signal Error)}
    (unadmitted : ∀ call, .admitted call ∉ signals) : (signals.foldl Activity.hear a).Poised awaits := by
  induction signals generalizing a with
  | nil => exact poised
  | cons signal signals ih =>
    exact ih (poised.hear fun call same => unadmitted call (same ▸ List.mem_cons_self))
      fun call member => unadmitted call (List.mem_cons_of_mem _ member)

theorem Tallies.sent (tallies : Tallies exact a b) (sent : a.stage? call = some (.sent phase)) :
    b.stage? call = some (.sent phase) := tallies.known (engaged_some.mpr ⟨sent, rfl⟩)

private theorem Tallies.hear (tallies : Tallies exact a b) {signal : Signal Error} (other : ∀ call, signal ≠ .admitted call) :
    Tallies exact (a.hear signal) (b.hear signal) := by
  cases signal with
  | answer call answer =>
    unfold Activity.hear
    dsimp only
    split
    next phase found =>
      rw [tallies.sent found]
      exact (tallies.restage (engaged_some.mpr ⟨found, rfl⟩) _).wake _
    next unsent =>
      split
      next phase found => exact absurd (tallies.symm.sent found) (unsent phase)
      · exact tallies
  | admitted call => exact absurd rfl (other call)
  | observed =>
    unfold Activity.hear
    dsimp only
    rw [tallies.pump]
    split
    · exact tallies.wake .pump
    · exact tallies
  | notice notice => exact { tallies with session := tallies.session.note _ _ }

theorem Tallies.hearAll (tallies : Tallies exact a b) {signals : List (Signal Error)}
    (unadmitted : ∀ call, .admitted call ∉ signals) : Tallies exact (signals.foldl Activity.hear a) (signals.foldl Activity.hear b) := by
  induction signals generalizing a b with
  | nil => exact tallies
  | cons signal signals ih =>
    exact ih (tallies.hear fun call same => unadmitted call (same ▸ List.mem_cons_self))
      fun call member => unadmitted call (List.mem_cons_of_mem _ member)

/-- Both are told the same. Whoever has an answer that makes a difference does not want a turn before. -/
theorem Matches.hear (matched : Matches exact a b) {signal : Signal Error} (other : ∀ call, signal ≠ .admitted call)
    (quiet : ∀ call answer phase, signal = .answer call answer → a.stage? call = some (.sent phase) →
      .call call ∉ a.ready ∧ .call call ∉ b.ready ∨ (Stage.answered phase answer).outcome? ≠ none) :
    Matches exact (a.hear signal) (b.hear signal) := by
  cases signal with
  | answer call answer =>
    unfold Activity.hear
    dsimp only
    split
    next phase found =>
      rw [matched.sent found]
      refine Matches.wake (matched.restage (engaged_some.mpr ⟨found, rfl⟩) _ ?_) _
      exact (quiet call answer phase rfl found).imp_right fun spent => ⟨rfl, .inr spent⟩
    next unsent =>
      split
      next phase found => exact absurd (matched.symm.sent found) (unsent phase)
      · exact matched
  | admitted call => exact absurd rfl (other call)
  | observed =>
    unfold Activity.hear
    dsimp only
    rw [matched.pump]
    split
    · exact matched.wake .pump
    · exact matched
  | notice notice => exact matched.withSession (matched.session.note _ _)

theorem Matches.hearAll {awaits : Phase → Prop} (matched : Matches exact a b) (mine : a.Poised awaits) (yours : b.Poised awaits)
    {signals : List (Signal Error)} (unadmitted : ∀ call, .admitted call ∉ signals)
    (spent : ∀ call answer phase, .answer call answer ∈ signals → awaits phase ∨ (Stage.answered phase answer).outcome? ≠ none) :
    Matches exact (signals.foldl Activity.hear a) (signals.foldl Activity.hear b) := by
  induction signals generalizing a b with
  | nil => exact matched
  | cons signal signals ih =>
    have other (call : Nat) : signal ≠ .admitted call := fun same => unadmitted call (same ▸ List.mem_cons_self)
    refine ih (matched.hear other fun call answer phase same sent => ?_) (mine.hear other) (yours.hear other)
      (fun call member => unadmitted call (List.mem_cons_of_mem _ member))
      fun call answer phase member => spent call answer phase (List.mem_cons_of_mem _ member)
    refine (spent call answer phase (same ▸ List.mem_cons_self)).imp_left fun awaited => ?_
    exact ⟨mine call phase sent awaited,
      yours call phase (matched.sent sent) awaited⟩

private theorem Arranged.admits (arranged : a.Arranged none) (call : Nat) : Matches exact a (a.hear (.admitted call)) := by
  unfold Activity.hear
  dsimp only
  split
  · by_cases difference : a.matters (.call call) = true
    · -- It wants a turn already.
      obtain ⟨stage, found, wants⟩ := (Option.any_eq_true _ _).mp difference
      have awake := arranged.awake call stage nofun (engaged_some.mp found).1 wants
      have same : a.wake (.call call) = a := if_pos (List.contains_iff_mem.mpr (List.mem_of_mem_filter awake))
      rw [same]
      exact .refl a
    · refine ⟨tallies_wake a _, ?_⟩
      rw [agenda_wake, if_neg (by simp [difference])]
  · exact .refl a

theorem Arranged.admitAll (arranged : a.Arranged none) (busy : .background ∉ a.errands) (calls : List Nat) :
    Matches exact a ((calls.map Signal.admitted).foldl Activity.hear a) := by
  induction calls generalizing a with
  | nil => exact .refl a
  | cons call calls ih =>
    obtain ⟨heard, still⟩ := arranged.hear busy (.admitted call)
    exact (arranged.admits call).trans (ih heard still)

private theorem mem_of_admitAll {calls : List Nat} (wants : .call call ∈ ((calls.map Signal.admitted).foldl Activity.hear a).ready) :
    .call call ∈ a.ready ∨ call ∈ calls := by
  induction calls generalizing a with
  | nil => exact .inl wants
  | cons first calls ih =>
    rcases ih wants with early | later
    · unfold Activity.hear at early
      dsimp only at early
      split at early
      · rcases (mem_wake_iff a).mp early with before | own
        · exact .inl before
        · cases own
          exact .inr List.mem_cons_self
      · exact .inl early
    · exact .inr (List.mem_cons_of_mem _ later)

theorem Poised.admitAll {awaits : Phase → Prop} (poised : a.Poised awaits) {calls : List Nat}
    (spared : ∀ call ∈ calls, ∀ phase, a.stage? call = some (.sent phase) → ¬ awaits phase) :
    ((calls.map Signal.admitted).foldl Activity.hear a).Poised awaits := by
  intro call phase sent awaited wants
  rcases mem_of_admitAll wants with before | entered
  · exact poised call phase (sent_of_foldl sent) awaited before
  · exact spared call entered phase (sent_of_foldl sent) awaited

/-! Nobody who has nothing left to do but to return is still there when nobody wants a turn. -/

private theorem Arranged.engaged_quiet (arranged : a.Arranged none) (quiet : a.ready = []) (call : Nat) :
    a.engaged call = a.stage? call := by
  rcases known : a.stage? call with _ | stage
  · unfold Activity.engaged
    rw [known]
    rfl
  · refine engaged_some.mpr ⟨known, ?_⟩
    by_contra spent
    have awake := arranged.awake call stage nofun known (Stage.wants_of_outcome spent)
    have nobody : a.errands = [] := by
      unfold errands
      rw [quiet]
      rfl
    rw [nobody] at awake
    cases awake

theorem Arranged.results_quiet (arranged : a.Arranged none) (quiet : a.ready = []) (call : Nat) :
    a.results call = a.told call := by
  have engaged := arranged.engaged_quiet quiet call
  rcases known : a.stage? call with _ | stage
  · unfold Activity.results
    rw [known]
    exact List.append_nil _
  · exact results_engaged (engaged.trans known)

end

end Activity

end Subscriber
