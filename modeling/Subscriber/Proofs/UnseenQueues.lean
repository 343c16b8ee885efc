import Subscriber.Proofs.ConformingServer
import Subscriber.Proofs.Deeds
import Subscriber.Proofs.StruckTurns

/-! The size of the queue cannot be seen. Callers of a connection have the same answers at every size, and so has whoever uses
a session over one, but for what is left in the streams when a write fails just as a cancellation gets room in the queue. -/

namespace Subscriber

namespace Activity
open Session (Alike Akin)
open scoped List

section
variable {exact : Bool} {a b : Activity Link} {call : Nat} {phase : Phase} {rest rest' : List Task}

private theorem matches_returned {answer result : Except Error Unit} (found : a.stage? call = some (.answered phase answer))
    (known : (Stage.answered phase answer).outcome? = some result) (passed : call ∉ a.gate.calls)
    (absent : .call call ∉ a.ready) : Matches exact a (Activity.finish { a with session := a.session.hear phase answer } call result) := by
  let heard : Activity Link := { a with session := a.session.hear phase answer }
  have stages (other : Nat) : (heard.finish call result).stage? other = if other = call then none else a.stage? other :=
    stage?_forget heard call
  have told (other : Nat) := told_finish heard call result other
  refine ⟨⟨.refl _, ?_, ?_, rfl, fun other => ?_, fun other => ?_⟩, ?_⟩
  · cases answer with
    | ok value => exact .refl _
    | error error => exact Alike.akin ⟨_, rfl⟩ exact
  · have others : a.gate.calls.filter (· != call) = a.gate.calls := by
      refine List.filter_eq_self.mpr fun other member => bne_iff_ne.mpr ?_
      rintro rfl
      exact passed member
    change { a.gate with calls := a.gate.calls.filter (· != call) } = a.gate
    rw [others]
  · rw [engaged_placed stages]
    split
    next own =>
      have spent : (Stage.answered phase answer).outcome?.isNone = false := by rw [known]; rfl
      unfold Activity.engaged
      rw [own, found]
      exact (Option.filter_some_neg (p := fun stage : Stage => stage.outcome?.isNone) spent).symm
    · rfl
  · rw [results_placed stages fun other different => (told other).trans (if_neg different), told, if_pos rfl]
    split
    next own =>
      unfold Activity.results
      rw [own, found, Option.bind_some, known]
      exact List.append_nil _
    · rfl
  · exact agenda_placed stages (ready_finish (a := heard) absent result) (.inl absent)

/-- A turn that makes no difference: the call has nothing to do in it, or only has to return. -/
private theorem Arranged.turns_idle (arranged : a.Arranged none) (crewed : a.Crewed) {task : Task} (front : a.ready = task :: rest)
    (idle : a.matters task = false) : Matches exact a (Activity.run { a with ready := rest } task) := by
  have popped : Matches exact a { a with ready := rest } := by
    refine { Matches.refl a with agenda := ?_ }
    unfold agenda
    rw [front, List.filter_cons_of_neg (by simp [idle])]
    rfl
  cases task with
  | background => cases idle
  | pump => cases idle
  | call call =>
    have absent := arranged.once front
    have unwanted (stage : Stage) (found : a.stage? call = some stage) (going : stage.outcome? = none) :
        stage.wants = false := by
      have engaged : a.engaged call = some stage := engaged_some.mpr ⟨found, going⟩
      rwa [matters_call, engaged] at idle
    change Matches exact a (Activity.runCall { a with ready := rest } call)
    unfold Activity.runCall
    split
    next operation found => cases unwanted _ found rfl
    next phase found => cases unwanted _ found rfl
    next phase answer found =>
      cases known : (Stage.answered phase answer).outcome? with
      | none => cases unwanted _ found known
      | some result =>
        let heard : Activity Link := { a with ready := rest, session := a.session.hear phase answer }
        have aligned : (heard.finish call result).pump.map (·.generation) = (heard.finish call result).session.fanout.pump :=
          crewed.aligned.trans (congrArg Fanout.pump (Session.fanout_hear a.session phase answer).symm)
        rw [a.session.resume_outcome known]
        change Matches exact a (heard.finish call result).adjustPump
        rw [adjustPump_same aligned]
        exact popped.trans (matches_returned found known (arranged.passed found nofun) absent)
    · exact popped

/-- What happens in a turn can be seen as little as it has to be. -/
def Harmless (exact : Bool) (activity : Activity Link) (task : Task) : Prop :=
  activity.Untangled task ∧ (exact = true → activity.Bars task)

private theorem harmless_stopped (stopped : a.transport.writer = .stopped) (task : Task) : a.Harmless exact task :=
  ⟨fun tangled => tangled.1.2.1 stopped, fun _ enters => enters.1.2.1 stopped⟩

private theorem Matches.run (matched : Matches exact a b) (mine : a.Arranged none) (yours : b.Arranged none) {task : Task}
    (front : a.ready = task :: rest) (front' : b.ready = task :: rest') (difference : a.matters task = true)
    (harmless : a.Harmless exact task) (harmless' : b.Harmless exact task) :
    Matches exact (Activity.run { a with ready := rest } task) (Activity.run { b with ready := rest' } task) ∨
      a.transport.writer ≠ .stopped ∧ ∃ ready, Shuffles exact (Activity.run { a with ready := rest } task) ready ∧
        Matches exact { Activity.run { a with ready := rest } task with ready } (Activity.run { b with ready := rest' } task) := by
  have turn := matched.front front front' difference
  cases task with
  | background =>
    have bars (strict : exact = true) := And.intro (harmless.2 strict) (harmless'.2 strict)
    exact (matched.runBackground mine yours front front' bars harmless.1 harmless'.1).imp_right (And.imp_left fun struck => struck.2.1)
  | pump => exact .inl (turn.runPump pumpTurn)
  | call call =>
    obtain ⟨stage, found, -⟩ := (Option.any_eq_true _ _).mp difference
    exact .inl (turn.runCall mine.sound yours.sound found (mine.once front) (yours.once front'))

private theorem steady_writer : Steady Link.writer :=
  ⟨fun link kind => by rw [show Transport.observe link kind = _ from Link.observe_holding link kind], fun _ _ => rfl, fun _ _ => rfl⟩

private theorem reserved_writer : Reserved Link.writer := by
  refine ⟨fun link call verb targets => ?_, fun _ _ => rfl⟩
  obtain ⟨queue, waiting, requested⟩ := Link.request_eq link call verb targets
  change (link.request call verb targets).2.writer = link.writer
  rw [requested]

/-- A connection that writes nothing any more never does again. -/
private theorem run_stopped (stopped : a.transport.writer = .stopped) (task : Task) : (a.run task).transport.writer = .stopped := by
  cases task with
  | pump => exact (runPump_delivers steady_writer pumpTurn a).transport.trans stopped
  | call call =>
    change (a.runCall call).transport.writer = _
    rcases runCall_bypasses reserved_writer a call with same | ⟨after, bypasses, same⟩
    · rw [same, stopped]
    · rw [same]
      exact (adjustPump_delivers steady_writer after).transport.trans (bypasses.transport.trans stopped)
  | background =>
    obtain ⟨inbound, reading, pending, observers, failure, signals, read⟩ := Link.read_eq a.transport
    have still : a.transport.read.writer = .stopped := by
      rw [read]
      exact stopped
    have unwritten : a.transport.read.write = a.transport.read := by
      unfold Link.write
      rw [still]
      exact (Link.serve_idle (.inr (by simp [still]))).1
    have worked : a.transport.work.writer = .stopped := by
      unfold Link.work Link.wind
      rw [unwritten]
      split
      · rfl
      · rfl
      · exact still
    exact (congrArg Link.writer (foldl_hear_transport _ _)).trans worked

/-- Both come to rest alike, in turns that make a difference to both and others that make none. A write fails only once. -/
private theorem Matches.settles (broken : Bool) {a b a' b' : Activity Link} {first second : Nat} (matched : Matches exact a b) (mine : a.Arranged none)
    (yours : b.Arranged none) (crewed : a.Crewed) (crewed' : b.Crewed) (settles : Settles first a a')
    (settles' : Settles second b b') (stopped : broken = true → a.transport.writer = .stopped)
    (harmless : a.transport.writer ≠ .stopped → Permits (Harmless exact) first a ∧ Permits (Harmless exact) second b) :
    Matches exact a' b' := by
  have agenda := matched.agenda
  have writer : b.transport.writer = a.transport.writer := (congrArg Link.writer matched.peers.same).trans rfl
  unfold Activity.agenda at agenda
  cases settles with
  | rest quiet =>
    cases settles' with
    | rest _ => exact matched
    | turn front later =>
      rw [quiet, front] at agenda
      have idle := Bool.eq_false_iff.mpr (List.filter_eq_nil_iff.mp agenda _ List.mem_cons_self)
      exact (matched.trans (yours.turns_idle crewed' front idle)).settles broken mine (yours.run front) crewed
        (crewed'.run yours front).1 (.rest quiet) later stopped fun running => (harmless running).imp_right fun still => (still.turn front).2
  | @turn _ _ _ task rest front later =>
    by_cases difference : a.matters task = true
    · rw [front, List.filter_cons_of_pos difference] at agenda
      cases settles' with
      | rest quiet =>
        rw [quiet] at agenda
        cases agenda
      | @turn _ _ _ other rest' front' later' =>
        by_cases difference' : b.matters other = true
        · rw [front', List.filter_cons_of_pos difference'] at agenda
          obtain rfl := (List.cons.inj agenda).1
          have turns : a.Harmless exact other ∧ b.Harmless exact other := by
            by_cases stopped : a.transport.writer = .stopped
            · exact ⟨harmless_stopped stopped other, harmless_stopped (writer.trans stopped) other⟩
            · exact (harmless stopped).imp (fun still => (still.turn front).1) fun still => (still.turn front').1
          have kept (stopped : a.transport.writer = .stopped) := run_stopped (a := { a with ready := rest }) stopped other
          rcases matched.run mine yours front front' difference turns.1 turns.2 with after | ⟨running, ready, shuffles, after⟩
          · exact after.settles broken (mine.run front) (yours.run front') (crewed.run mine front).1 (crewed'.run yours front').1 later later'
              (fun already => kept (stopped already)) fun running => (harmless (mt kept running)).imp (fun still => (still.turn front).2) fun still => (still.turn front').2
          · have moored := (crewed.run mine front).1
            have settled := shuffles.arranged (mine.run front)
            have moored' : Crewed { Activity.run { a with ready := rest } other with ready } :=
              ⟨moored.toEquipped.same rfl rfl, moored.aligned⟩
            obtain ⟨count, rests, -⟩ := moored'.settle settled
            have first : broken = false := Bool.eq_false_iff.mpr fun already => running (stopped already)
            subst first
            exact (shuffles.settles moored (mine.run front) later rests).trans (after.settles true settled (yours.run front') moored'
              (crewed'.run yours front').1 rests later' (fun _ => shuffles.stranded.stopped)
              fun running => absurd shuffles.stranded.stopped running)
        · have idle := Bool.eq_false_iff.mpr difference'
          exact (matched.trans (yours.turns_idle crewed' front' idle)).settles broken mine (yours.run front') crewed
            (crewed'.run yours front').1 (.turn front later) later' stopped fun running => (harmless running).imp_right fun still => (still.turn front').2
    · have idle : Matches exact a _ := mine.turns_idle crewed front (Bool.eq_false_iff.mpr difference)
      have same : (Activity.run { a with ready := rest } task).transport.writer = a.transport.writer :=
        (congrArg Link.writer idle.peers.same).trans rfl
      exact (idle.symm.trans matched).settles broken (mine.run front) yours (crewed.run mine front).1 crewed' later settles'
        (fun already => same.trans (stopped already)) fun running => (harmless (same ▸ running)).imp_left fun still => (still.turn front).2
termination_by (if broken then 0 else 1, first + second)

private theorem perm_of_told (told : ∀ call, b.told call = a.told call) : b.finished ~ a.finished := by
  classical
  have parts (c : Activity Link) (call : Nat) : c.finished.filter (·.1 == call) = (c.told call).map (call, ·) := by
    unfold Activity.told
    rw [List.map_map]
    refine ((List.map_congr_left fun entry member => ?_).trans (List.map_id _)).symm
    have own : entry.1 = call := beq_iff_eq.mp (List.mem_filter.mp member).2
    rw [Function.comp, ← own]
    rfl
  refine List.perm_iff_count.mpr fun entry => ?_
  have own : (entry.1 == entry.1) = true := beq_self_eq_true _
  rw [← List.count_filter (p := fun other : Nat × Except Error Unit => other.1 == entry.1) own, parts b, told, ← parts a,
    List.count_filter (p := fun other : Nat × Except Error Unit => other.1 == entry.1) own]

private theorem Matches.attend (matched : Matches exact a b) {mine yours : Session} (akin : Akin exact mine yours) :
    Matches exact (Activity.adjustPump { a with session := mine }) (Activity.adjustPump { b with session := yours }) :=
  (matched.withSession akin).adjustPump

private theorem Matches.letThrough (matched : Matches exact a b) (quiet : a.ready = []) (quiet' : b.ready = []) (call : Nat) :
    (b.letThrough call).1 = (a.letThrough call).1 ∧ Matches exact (a.letThrough call).2 (b.letThrough call).2 := by
  have held {a b : Activity Link} (matched : Matches exact a b) {phase : Phase} (held : a.stage? call = some (.held phase)) :
      b.stage? call = some (.held phase) := matched.known (engaged_some.mpr ⟨held, rfl⟩)
  unfold Activity.letThrough
  split
  next phase found =>
    have found := held matched.symm found
    rw [found]
    have opened : Matches exact { a with gate := { a.gate with calls := a.gate.calls.erase call } }
        { b with gate := { b.gate with calls := b.gate.calls.erase call } } :=
      { matched with gate := congrArg (fun gate : Gate => { gate with calls := gate.calls.erase call }) matched.gate }
    refine ⟨rfl, (opened.restage (engaged_some.mpr ⟨found, rfl⟩) (.released phase) (.inl ⟨?_, ?_⟩)).wake _⟩
    · exact quiet ▸ List.not_mem_nil
    · exact quiet' ▸ List.not_mem_nil
  next unheld =>
    split
    next phase found => exact absurd (held matched found) (unheld phase)
    · exact ⟨rfl, matched⟩

private theorem Matches.start (matched : Matches exact a b) (quiet : a.ready = []) (quiet' : b.ready = []) (unknown : a.stage? call = none)
    (unknown' : b.stage? call = none) (operation : Operation) :
    Matches exact (Activity.start a call operation) (Activity.start b call operation) := by
  let listed (c : Activity Link) : Activity Link := { c with calls := c.calls ++ [(call, .starting operation)] }
  have stages : ∀ other, (listed a).stage? other = if other = call then _ else a.stage? other := stage?_calls unknown rfl
  have stages' : ∀ other, (listed b).stage? other = if other = call then _ else b.stage? other := stage?_calls unknown' rfl
  have idle (c : Activity Link) (quiet : c.ready = []) : c.agenda = [] := by
    unfold Activity.agenda
    rw [quiet]
    rfl
  have told : (listed b).told call = (listed a).told call := by
    have results := matched.results call
    unfold Activity.results at results
    rw [unknown, unknown', Option.bind_none, Option.toList_none, List.append_nil, List.append_nil] at results
    exact results
  have started : Matches exact (listed a) (listed b) := by
    refine { matched with engaged := fun other => ?_, results := fun other => ?_, agenda := ?_ }
    · rw [engaged_placed stages, engaged_placed stages', matched.engaged]
    · rw [results_placed stages fun _ _ => rfl, results_placed stages' fun _ _ => rfl, matched.results, told]
    · rw [idle (listed a) quiet, idle (listed b) quiet']
  exact started.wake (.call call)

/-- A reply without what it gives from a stream. -/
def Reply.bare : Reply → Reply
  | .item _ => .item .pending
  | .items _ _ => .items [] .pending
  | reply => reply

/-- The same reply, or, unless it has to be `exact`, one that gives something else from a stream. -/
def Reply.Like (exact : Bool) (mine yours : Reply) : Prop := yours.bare = mine.bare ∧ (exact = true → yours = mine)

private theorem Reply.Like.same {mine yours : Reply} (same : yours = mine) : Reply.Like exact mine yours :=
  ⟨congrArg Reply.bare same, fun _ => same⟩

private theorem Matches.begin (matched : Matches exact a b) (quiet : a.ready = []) (quiet' : b.ready = []) (step : Step Link)
    (fresh : ∀ call operation, step = .call call operation → a.stage? call = none ∧ b.stage? call = none)
    (stays : ∀ call, step ≠ .abandon call) :
    Reply.Like exact (a.begin step).1 (b.begin step).1 ∧ Matches exact (a.begin step).2 (b.begin step).2 := by
  cases step with
  | call call operation =>
    obtain ⟨unknown, unknown'⟩ := fresh call operation rfl
    exact ⟨.same rfl, matched.start quiet quiet' unknown unknown' operation⟩
  | abandon call => exact absurd rfl (stays call)
  | openStream =>
    obtain ⟨same, opened⟩ := matched.session.openStream
    exact ⟨.same (congrArg Reply.stream same), matched.withSession opened⟩
  | poll stream =>
    obtain ⟨same, polled⟩ := matched.session.poll stream
    have absent := matched.session.absent stream
    unfold Activity.begin
    dsimp only
    split
    next gone =>
      rw [absent.mpr gone]
      exact ⟨.same rfl, matched⟩
    next found =>
      split
      next gone => cases (absent.mp gone).symm.trans found
      · exact ⟨⟨rfl, fun strict => congrArg Reply.item (same strict)⟩, matched.attend polled⟩
  | drain stream =>
    obtain ⟨same, drained⟩ := matched.session.drain stream
    have absent := matched.session.absent stream
    unfold Activity.begin
    dsimp only
    split
    next gone =>
      rw [absent.mpr gone]
      exact ⟨.same rfl, matched⟩
    next found =>
      split
      next gone => cases (absent.mp gone).symm.trans found
      · exact ⟨⟨rfl, fun strict => congrArg₂ Reply.items (same strict).1 (same strict).2⟩, matched.attend drained⟩
  | drop stream => exact ⟨.same rfl, matched.attend (matched.session.drop stream)⟩
  | setGate shut =>
    exact ⟨.same rfl, { matched with gate := congrArg (fun gate : Gate => { gate with shut }) matched.gate }⟩
  | letThrough call =>
    obtain ⟨same, after⟩ := matched.letThrough quiet quiet' call
    exact ⟨.same (congrArg Reply.known same), after⟩
  | letFirstThrough =>
    unfold Activity.begin
    dsimp only
    rw [matched.gate]
    split
    · exact ⟨.same rfl, matched⟩
    next call _ _ =>
      obtain ⟨same, after⟩ := matched.letThrough quiet quiet' call
      exact ⟨.same (congrArg Reply.known same), after⟩
  | cut kind =>
    change Reply.Like exact Reply.nothing Reply.nothing ∧ Matches exact (a.cut kind) (b.cut kind)
    unfold Activity.cut
    rw [matched.pump]
    split
    · exact ⟨.same rfl, matched⟩
    · refine ⟨.same rfl, Matches.wake ?_ .pump⟩
      exact { matched with pump := rfl }
  | transport event => exact ⟨.same rfl, (matched.beside (matched.peers.meet event) matched.session).wake .background⟩

/-- All that can be seen of a session after a step, but for the log. Results of the same step are in no order. -/
structure Glimpse where
  reply : Reply
  finished : Multiset (Nat × Except Error Unit)
  session : Session
  written : Bytes
  observers : Nat

def glimpse (activity : Activity Link) (reply : Reply) : Glimpse where
  reply := reply
  finished := activity.finished
  session := { activity.session with notices := [] }
  written := activity.transport.outbound.accepted
  observers := activity.transport.observers.live

def glimpses : Activity Link → List (Step Link) → List Glimpse
  | _, [] => []
  | activity, step :: script =>
    let (reply, after) := activity.step step
    after.glimpse reply :: glimpses after script

/-- The same without what streams hold, and without what is read from them. -/
def Glimpse.bare (glimpse : Glimpse) : Glimpse :=
  { glimpse with
    reply := glimpse.reply.bare,
    session := { glimpse.session with fanout := glimpse.session.fanout.bare } }

/-- Every turn in the course of a script meets a condition. -/
def Throughout (condition : Activity Link → Task → Prop) : Activity Link → List (Step Link) → Prop
  | _, [] => True
  | activity, step :: script =>
    Permits condition (activity.begin step).2.turns (activity.begin step).2 ∧
      Throughout condition (activity.step step).2 script

instance decidableThroughout (condition : Activity Link → Task → Prop) [∀ activity task, Decidable (condition activity task)] :
    ∀ (activity : Activity Link) (script : List (Step Link)), Decidable (Throughout condition activity script)
  | _, [] => isTrue trivial
  | activity, step :: script =>
    have := decidableThroughout condition (activity.step step).2 script
    inferInstanceAs (Decidable (_ ∧ _))

deriving instance DecidableEq for Poll, Reply

structure Even (exact : Bool) (a b : Activity Link) : Prop extends Matches exact a b where
  mine : a.Arranged none
  yours : b.Arranged none
  crewed : a.Crewed
  crewed' : b.Crewed
  quiet : a.ready = []
  quiet' : b.ready = []

private theorem Even.step (even : Even exact a b) {step : Step Link}
    (fresh : ∀ call operation, step = .call call operation → a.stage? call = none ∧ b.stage? call = none)
    (stays : ∀ call, step ≠ .abandon call) (harmless : Permits (Harmless exact) (a.begin step).2.turns (a.begin step).2)
    (harmless' : Permits (Harmless exact) (b.begin step).2.turns (b.begin step).2) :
    Reply.Like exact (a.step step).1 (b.step step).1 ∧ Even exact (a.step step).2 (b.step step).2 := by
  obtain ⟨reply, begun⟩ := even.toMatches.begin even.quiet even.quiet' step fresh stays
  have mine := even.mine.begin (fun call operation same => (fresh call operation same).1) stays
  have yours := even.yours.begin (fun call operation same => (fresh call operation same).2) stays
  have crewed := even.crewed.begin step
  have crewed' := even.crewed'.begin step
  obtain ⟨count, settles, few, after, arranged⟩ := crewed.settle mine
  obtain ⟨count', settles', few', after', arranged'⟩ := crewed'.settle yours
  exact ⟨reply, begun.settles false mine yours crewed crewed' settles settles' (fun broken => by cases broken)
    fun _ => ⟨harmless.fewer few, harmless'.fewer few'⟩, arranged, arranged', after, after', settles.rested, settles'.rested⟩

private theorem Even.glimpse (even : Even exact a b) {mine yours : Reply} (like : Reply.Like exact mine yours) :
    (b.glimpse yours).bare = (a.glimpse mine).bare ∧ (exact = true → b.glimpse yours = a.glimpse mine) := by
  have outbound : b.transport.outbound = a.transport.outbound := (congrArg Link.outbound even.peers.same).trans rfl
  have told (call : Nat) : b.told call = a.told call := by
    rw [← even.mine.results_quiet even.quiet, ← even.yours.results_quiet even.quiet']
    exact even.results call
  have finished : (b.finished : Multiset (Nat × Except Error Unit)) = a.finished := Quotient.sound (perm_of_told told)
  have bare := even.session.bare
  unfold Activity.glimpse Glimpse.bare
  dsimp only
  rw [finished, outbound, even.peers.observed, like.1]
  refine ⟨?_, fun strict => ?_⟩
  · rw [bare]
    obtain ⟨notices, fanout, session, -⟩ := even.session
    rw [session]
  · subst strict
    obtain ⟨notices, session⟩ := even.session.alike
    rw [session, like.2 rfl]

private theorem step_unknown (unknown : a.stage? call = none) {step : Step Link} (other : (Move.step step).call? ≠ some call) :
    (a.step step).2.stage? call = none := by
  obtain ⟨tasks, moved⟩ := step_moves a step
  rw [moved]
  refine (moves_unknown unknown _ fun move inside => ?_).1
  rcases List.mem_cons.mp inside with rfl | turn
  · exact other
  · obtain ⟨task, -, rfl⟩ := List.mem_map.mp turn
    intro own
    cases own

private theorem Even.glimpses {script : List (Step Link)} (even : Even exact a b) (numbered : Numbered (script.map Move.step))
    (fresh : ∀ call operation, .call call operation ∈ script → a.stage? call = none ∧ b.stage? call = none)
    (stays : ∀ call, .abandon call ∉ script) (harmless : Throughout (Harmless exact) a script)
    (harmless' : Throughout (Harmless exact) b script) :
    (b.glimpses script).map Glimpse.bare = (a.glimpses script).map Glimpse.bare ∧
      (exact = true → b.glimpses script = a.glimpses script) := by
  induction script generalizing a b with
  | nil => exact ⟨rfl, fun _ => rfl⟩
  | cons step script ih =>
    obtain ⟨reply, after⟩ := even.step (fun call operation same => fresh call operation (same ▸ List.mem_cons_self))
      (fun call same => stays call (same ▸ List.mem_cons_self)) harmless.1 harmless'.1
    have unknown (call : Nat) (operation : Operation) (member : .call call operation ∈ script) :
        (a.step step).2.stage? call = none ∧ (b.step step).2.stage? call = none := by
      have other : (Move.step step).call? ≠ some call := fun own => by
        rw [List.map_cons, Numbered, List.filterMap_cons_some own, List.nodup_cons] at numbered
        exact numbered.1 (List.mem_filterMap.mpr ⟨_, List.mem_map_of_mem member, rfl⟩)
      obtain ⟨unknown, unknown'⟩ := fresh call operation (List.mem_cons_of_mem _ member)
      exact ⟨step_unknown unknown other, step_unknown unknown' other⟩
    obtain ⟨bare, same⟩ := ih after (((List.sublist_cons_self _ _).filterMap _).nodup numbered) unknown
      (fun call member => stays call (List.mem_cons_of_mem _ member)) harmless.2 harmless'.2
    obtain ⟨bareNow, sameNow⟩ := after.glimpse reply
    change (((b.step step).2.glimpse (b.step step).1 :: Activity.glimpses (b.step step).2 script).map Glimpse.bare =
      ((a.step step).2.glimpse (a.step step).1 :: Activity.glimpses (a.step step).2 script).map Glimpse.bare) ∧
        (exact = true → (b.step step).2.glimpse (b.step step).1 :: Activity.glimpses (b.step step).2 script =
          (a.step step).2.glimpse (a.step step).1 :: Activity.glimpses (a.step step).2 script)
    rw [List.map_cons, List.map_cons, bareNow, bare]
    exact ⟨rfl, fun strict => congrArg₂ List.cons (sameNow strict) (same strict)⟩

private theorem even_start (connection : Connection) (first second : Nat) :
    Even exact { transport := .ofConnection connection first } { transport := .ofConnection connection second } :=
  ⟨⟨⟨⟨rfl, rfl⟩, .refl _, rfl, rfl, fun _ => rfl, fun _ => rfl⟩, rfl⟩, arranged_start connection first,
    arranged_start connection second, crewed_start connection first, crewed_start connection second, rfl, rfl⟩

private theorem permits_harmless {turns : Nat} (untangled : Permits Untangled turns a) (bars : exact = true → Permits Bars turns a) :
    Permits (Harmless exact) turns a := by
  induction turns generalizing a with
  | zero => trivial
  | succ turns ih =>
    cases front : a.ready with
    | nil => simp only [Permits, front]
    | cons task rest =>
      obtain ⟨now, later⟩ := untangled.turn front
      simp only [Permits, front]
      exact ⟨⟨now, fun strict => ((bars strict).turn front).1⟩, ih later fun strict => ((bars strict).turn front).2⟩

private theorem throughout_harmless {script : List (Step Link)} (untangled : Throughout Untangled a script)
    (bars : exact = true → Throughout Bars a script) : Throughout (Harmless exact) a script := by
  induction script generalizing a with
  | nil => trivial
  | cons step script ih =>
    exact ⟨permits_harmless untangled.1 fun strict => (bars strict).1, ih untangled.2 fun strict => (bars strict).2⟩

end

/-- Callers of a connection that is not closed, and do not give up, have the same answers at every size of its queue. Whoever
uses a session over one and gives up no call sees the same too, but for what streams hold and give, unless a write fails while
commands are held back and cancellations are entangled. What streams hold and give is the same as well, as long as no
cancellation gets room in a queue in the turn in which a write fails. -/
theorem queue_size_unobservable (connection : Connection) (first second : Nat) :
    (∀ script : List Clients.Step, (∀ call, .abandon call ∉ script) → .close ∉ script →
      (Clients.start connection second).glimpses script = (Clients.start connection first).glimpses script) ∧
    ∀ script : List (Step Link), Numbered (script.map Move.step) → (∀ call, .abandon call ∉ script) →
      Throughout Untangled { transport := .ofConnection connection first } script →
      Throughout Untangled { transport := .ofConnection connection second } script →
      (glimpses { transport := .ofConnection connection second } script).map Glimpse.bare =
          (glimpses { transport := .ofConnection connection first } script).map Glimpse.bare ∧
        (Throughout Bars { transport := .ofConnection connection first } script →
          Throughout Bars { transport := .ofConnection connection second } script →
          glimpses { transport := .ofConnection connection second } script =
            glimpses { transport := .ofConnection connection first } script) := by
  refine ⟨fun script stays goesOn => ?_, fun script numbered stays untangled untangled' => ⟨?_, fun bars bars' => ?_⟩⟩
  · exact (Clients.level_start connection first second).glimpses script stays goesOn
  · have even : Even false _ _ := even_start connection first second
    exact (even.glimpses numbered (fun _ _ _ => ⟨rfl, rfl⟩) stays (throughout_harmless untangled nofun)
      (throughout_harmless untangled' nofun)).1
  · have even : Even true _ _ := even_start connection first second
    exact (even.glimpses numbered (fun _ _ _ => ⟨rfl, rfl⟩) stays (throughout_harmless untangled fun _ => bars)
      (throughout_harmless untangled' fun _ => bars')).2 rfl

/-- More calls than a queue for one command holds, and a write fails that others wait for. In the session a cancellation waits
in front of that queue; in the second script it gets room there just before the write fails, so that the stream ends otherwise. -/
theorem queue_size_unobservable_refused :
    let requests : List Clients.Step :=
      [.observe .channel, .network (.accept .waiting), .request 2 .subscribe [[97]], .request 3 .psubscribe [[112]],
        .request 4 .subscribe [[98]], .network (.accept (.refusing .writeZero)), .drain 0]
    let acknowledged (remarks : List Remark) : Step Link :=
      .transport (Connection.Event.arrive (.piece (remarks.flatMap fun remark => remark.frame.encode)))
    let waits : List (Step Link) :=
      [.openStream, .poll 0, .call 2 (.add .channel [[97]]), acknowledged [.acknowledgement .subscribe [97] 1],
        .transport (Connection.Event.accept .waiting), .call 4 (.add .channel [[98]]), .call 6 (.add .channel [[99]]),
        .call 7 .cancel, .transport (Connection.Event.accept (.refusing .writeZero)), .drain 0]
    let enters : List (Step Link) :=
      [.openStream, .poll 0, .call 2 (.add .channel [[97]]), acknowledged [.acknowledgement .subscribe [97] 1],
        .call 4 (.add .pattern [[112]]), acknowledged [.acknowledgement .psubscribe [112] 2],
        .call 6 (.add .channel [[98]]), .call 7 .cancel, .transport (Connection.Event.accept (.refusing .writeZero)),
        acknowledged [.acknowledgement .subscribe [98] 3, .acknowledgement .unsubscribe [97] 2], .drain 0]
    let session (queueSize : Nat) : Activity Link := { transport := .ofConnection {} queueSize }
    let patient (script : List (Step Link)) := Numbered (script.map Move.step) ∧ ∀ call, .abandon call ∉ script
    let allowed (condition : Activity Link → Task → Prop) (script : List (Step Link)) :=
      Throughout condition (session 1) script ∧ Throughout condition (session 4) script
    (∀ call, .abandon call ∉ requests) ∧ .close ∉ requests ∧
      (Clients.start {} 4).glimpses requests = (Clients.start {} 1).glimpses requests ∧
      patient waits ∧ allowed Untangled waits ∧ allowed Bars waits ∧
      (session 4).glimpses waits = (session 1).glimpses waits ∧
      ((session 1).glimpses waits).getLast?.map (·.reply) = some (.items [.error (.upstream (.io .writeZero))] .ended) ∧
      patient enters ∧ allowed Untangled enters ∧
      ((session 4).glimpses enters).map Glimpse.bare = ((session 1).glimpses enters).map Glimpse.bare := by
  intro requests acknowledged waits enters session patient allowed
  have stays : ∀ call, .abandon call ∉ requests := by simp [requests]
  have goesOn : .close ∉ requests := by simp [requests]
  have waiting : patient waits := by
    refine ⟨?_, by simp [waits, acknowledged]⟩
    unfold Numbered
    decide +kernel
  have entering : patient enters := by
    refine ⟨?_, by simp [enters, acknowledged]⟩
    unfold Numbered
    decide +kernel
  have untangled : allowed Untangled waits := by decide +kernel
  have bars : allowed Bars waits := by decide +kernel
  have untangled' : allowed Untangled enters := by decide +kernel
  obtain ⟨callers, sessions⟩ := queue_size_unobservable {} 1 4
  obtain ⟨-, same⟩ := sessions waits waiting.1 waiting.2 untangled.1 untangled.2
  obtain ⟨bare, -⟩ := sessions enters entering.1 entering.2 untangled'.1 untangled'.2
  exact ⟨stays, goesOn, callers requests stays goesOn, waiting, untangled, bars, same bars.1 bars.2, by decide +kernel,
    entering, untangled', bare⟩

/-- A write fails in a turn in which the command of a cancellation gets room in a queue for one, and so the size of the queue is
seen: there the stream ends as cancelled, and with a queue for two it ends with the failure. And where commands are held
back, one of two cancellations comes to nothing before or after the other, and so returns at once or has another command
held back. -/
theorem queue_size_shows :
    let acknowledged (remarks : List Remark) : Step Link :=
      .transport (Connection.Event.arrive (.piece (remarks.flatMap fun remark => remark.frame.encode)))
    let script : List (Step Link) :=
      [.openStream, .poll 0, .call 2 (.add .channel [[97]]), acknowledged [.acknowledgement .subscribe [97] 1],
        .call 4 (.add .pattern [[112]]), acknowledged [.acknowledgement .psubscribe [112] 2],
        .call 6 (.add .channel [[98]]), .call 7 .cancel, .transport (Connection.Event.accept (.refusing .writeZero)),
        acknowledged [.acknowledgement .subscribe [98] 3, .acknowledgement .unsubscribe [97] 2], .drain 0]
    let held : List (Step Link) :=
      [.call 2 (.add .channel [[97]]), acknowledged [.acknowledgement .subscribe [97] 1],
        .call 4 (.add .pattern [[112]]), acknowledged [.acknowledgement .psubscribe [112] 2], .call 6 .cancel,
        .transport (Connection.Event.accept .waiting), .call 7 .cancel, .call 8 .cancel,
        acknowledged [.acknowledgement .unsubscribe [97] 1], .setGate true,
        .transport (Connection.Event.accept (.refusing .writeZero))]
    let session (queueSize : Nat) : Activity Link := { transport := .ofConnection {} queueSize }
    let ending (queueSize : Nat) := ((session queueSize).glimpses script).getLast?.map (·.reply)
    let returned (queueSize : Nat) := ((session queueSize).glimpses held).getLast?.map (·.finished.card)
    Numbered (script.map Move.step) ∧ (∀ call, .abandon call ∉ script) ∧
      ending 1 = some (.items [.error .cancelled] .ended) ∧
      ending 2 = some (.items [.error (.upstream (.io .writeZero))] .ended) ∧
      (session 2).glimpses script ≠ (session 1).glimpses script ∧
      Numbered (held.map Move.step) ∧ (∀ call, .abandon call ∉ held) ∧ returned 1 = some 4 ∧ returned 2 = some 3 := by
  intro acknowledged script held session ending returned
  have numbered : Numbered (script.map Move.step) := by
    unfold Numbered
    decide +kernel
  have numbered' : Numbered (held.map Move.step) := by
    unfold Numbered
    decide +kernel
  have first : ending 1 = some (.items [.error .cancelled] .ended) := by decide +kernel
  have second : ending 2 = some (.items [.error (.upstream (.io .writeZero))] .ended) := by decide +kernel
  refine ⟨numbered, by simp [script, acknowledged], first, second, fun same => ?_, numbered', by simp [held, acknowledged],
    by decide +kernel, by decide +kernel⟩
  have ends : ending 2 = ending 1 := congrArg (·.getLast?.map (·.reply)) same
  rw [first, second] at ends
  cases ends

end Activity

end Subscriber
