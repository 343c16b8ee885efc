import Subscriber.Proofs.Exchanges
import Subscriber.Proofs.Recasting
import Subscriber.Proofs.Turns

/-! A rehearsal and an exchange in step with each other. The commands that the loopback holds back are those that the server
has not answered, in the same order; apart from that the two sessions are in the same state. -/

namespace Subscriber

/-- Where a call stands on the two sides when nobody has anything to do: its command is held back in front of the
loopback, and is with the connection. -/
inductive Stage.Mirrors : Option Stage → Option Stage → Prop where
  | unknown : Mirrors none none
  | waits (phase : Phase) : Mirrors (some (.held phase)) (some (.sent phase))

private theorem Merge.takes_all {budget : Nat} {waiting : List Message} (enough : waiting.length ≤ budget) (turn : Side) :
    (takes false budget turn waiting).2 = [] := by
  induction budget generalizing turn waiting with
  | zero => exact List.length_eq_zero_iff.mp (Nat.le_zero.mp enough)
  | succ budget ih =>
    cases picked : pick false turn waiting with
    | none =>
      rw [takes_none _ picked]
      exact pick_none picked
    | some message =>
      have one := List.length_erase_of_mem (pick_mem picked)
      rw [takes_some budget picked]
      exact ih (by omega) turn.other

namespace Activity

section
variable {τ : Type} [Transport τ] {a b : Activity τ}

inductive Settles : Nat → Activity τ → Activity τ → Prop where
  | rest {a : Activity τ} (idle : a.ready = []) : Settles 0 a a
  | turn {count : Nat} {a b : Activity τ} {task : Task} {ready : List Task} (wanting : a.ready = task :: ready)
      (later : Settles count ({ a with ready }.run task) b) : Settles (count + 1) a b

theorem Settles.runTasks {count turns : Nat} (settles : Settles count a b) (enough : count ≤ turns) :
    runTasks turns a = b := by
  induction settles generalizing turns with
  | rest idle =>
    cases turns with
    | zero => rfl
    | succ turns => rw [Activity.runTasks, idle]
  | turn wanting later ih =>
    cases turns with
    | zero => exact absurd enough (Nat.not_succ_le_zero _)
    | succ turns =>
      rw [Activity.runTasks, wanting]
      exact ih (Nat.le_of_succ_le_succ enough)

theorem Settles.settle {count : Nat} (settles : Settles count a b) (few : count ≤ 16) : a.settle = b := by
  refine settles.runTasks ?_
  unfold turns
  omega

omit [Transport τ] in
theorem wake_quiet (quiet : a.ready = []) (task : Task) : a.wake task = { a with ready := [task] } := by
  rw [wake, quiet]
  rfl

end

theorem runBackground_work {wire : Activity Link} {link : Link} {signals : List (Signal Fault)}
    (worked : wire.transport.work.collect = (signals, link)) :
    wire.runBackground = (signals.map (·.mapFault Fault.toError)).foldl hear { wire with transport := link } := by
  have turn : Transport.work wire.transport = (signals.map (·.mapFault Fault.toError), link) := by
    change (wire.transport.work.collect.1.map _, wire.transport.work.collect.2) = _
    rw [worked]
  rw [runBackground, turn]

/-- The same command, held back on one side, waits for its answer on the other. -/
def Owes (mock : Activity Loopback) (request : Request) : Prop :=
  ∃ phase, mock.stage? request.call = some (.held phase) ∧
    request = { call := request.call, verb := phase.verb, targets := phase.targets }

/-- Two sessions that have come equally far. `line` are the commands without an answer, oldest first; the call `busy`
is in the middle of a turn, and calls from `number` on have not been made. -/
structure Level (number : Nat) (line : List Request) (busy : Option Nat) (mock : Activity Loopback)
    (wire : Activity Link) : Prop extends Abreast mock wire where
  finished : wire.finished = mock.finished
  shut : mock.gate.shut = true
  opened : wire.gate.shut = false
  held : mock.gate.calls = line.map Request.call
  distinct : (line.map Request.call).Nodup
  owed : ∀ request ∈ line, mock.Owes request
  aimed : ∀ request ∈ line, request.targets ≠ [] ∧ ∀ name ∈ request.targets, Bytes.Acknowledgeable name
  mirrors : ∀ call, busy ≠ some call → Stage.Mirrors (mock.stage? call) (wire.stage? call)
  running : ∀ call ∈ busy, call < number ∧ (mock.stage? call).isSome ∧ (wire.stage? call).isSome ∧
    call ∉ line.map Request.call
  fresh : ∀ call, number ≤ call → mock.stage? call = none
  tracks : mock.session.Tracks Bytes.Acknowledgeable

def requestBytes (line : List Request) : Bytes := Frame.encodeItems (line.map Request.frame)

private theorem requestBytes_concat (line : List Request) (request : Request) :
    requestBytes (line ++ [request]) = requestBytes line ++ request.frame.encode := by
  rw [requestBytes, requestBytes, List.map_append, Frame.encodeItems_append]
  exact congrArg _ (List.append_nil _)

/-- Two sessions that nobody keeps waiting but the server, which has answered the commands in `answered`. -/
structure Calm (number : Nat) (answered : Bytes) (line : List Request) (mock : Activity Loopback)
    (wire : Activity Link) : Prop extends Level number line none mock wire where
  poised : wire.transport.Poised (answered ++ requestBytes line) line [] []
  piped : wire.Piped []
  willing : mock.transport.refusal = none

/-- Two sessions that become calm in a few turns. -/
def Meets (bound number : Nat) (answered : Bytes) (line : List Request) (mock : Activity Loopback)
    (wire : Activity Link) : Prop :=
  ∃ few more nextMock nextWire, few ≤ bound ∧ more ≤ bound ∧ Settles few mock nextMock ∧ Settles more wire nextWire ∧
    Calm number answered line nextMock nextWire

section
variable {number bound : Nat} {answered : Bytes} {line : List Request} {busy : Option Nat} {tasks : List Task}
  {mock nextMock : Activity Loopback} {wire nextWire : Activity Link}

theorem Meets.mockTurn (meets : Meets bound number answered line nextMock wire) {task : Task} {ready : List Task}
    (wanting : mock.ready = task :: ready) (turn : { mock with ready }.run task = nextMock) :
    Meets (bound + 1) number answered line mock wire := by
  subst turn
  obtain ⟨few, more, lastMock, lastWire, short, brief, settles, others, calm⟩ := meets
  exact ⟨few + 1, more, lastMock, lastWire, Nat.succ_le_succ short, Nat.le_succ_of_le brief, .turn wanting settles, others,
    calm⟩

theorem Meets.wireTurn (meets : Meets bound number answered line mock nextWire) {task : Task} {ready : List Task}
    (wanting : wire.ready = task :: ready) (turn : { wire with ready }.run task = nextWire) :
    Meets (bound + 1) number answered line mock wire := by
  subst turn
  obtain ⟨few, more, lastMock, lastWire, short, brief, settles, others, calm⟩ := meets
  exact ⟨few, more + 1, lastMock, lastWire, Nat.le_succ_of_le short, Nat.succ_le_succ brief, settles, .turn wanting others,
    calm⟩

theorem Meets.mono (meets : Meets bound number answered line mock wire) : Meets (bound + 1) number answered line mock wire := by
  obtain ⟨few, more, lastMock, lastWire, short, brief, rest⟩ := meets
  exact ⟨few, more, lastMock, lastWire, Nat.le_succ_of_le short, Nat.le_succ_of_le brief, rest⟩

/-- What transports do apart from the answers is nothing to the calls, as long as the observers on both sides hold the
same. -/
theorem Level.rewire (level : Level number line busy mock wire) {loopback : Loopback} {link : Link}
    (twins : Loopback.Twins loopback link) (mine yours : List Task) :
    Level number line busy { mock with transport := loopback, ready := mine }
      { wire with transport := link, ready := yours } :=
  ⟨⟨twins, level.session, level.pump⟩, level.finished, level.shut, level.opened, level.held, level.distinct, level.owed,
    level.aimed, level.mirrors, level.running, level.fresh, level.tracks⟩

theorem Level.unready (level : Level number line busy mock wire) (mine yours : List Task) :
    Level number line busy { mock with ready := mine } { wire with ready := yours } :=
  level.rewire level.twins mine yours

theorem Level.unknown {call : Nat} (level : Level number line none mock wire) (unknown : mock.stage? call = none) :
    wire.stage? call = none := by
  have mirrors := level.mirrors call (by simp)
  rw [unknown] at mirrors
  generalize wire.stage? call = stage at mirrors
  cases mirrors
  rfl

theorem Level.tended (level : Level number line busy mock wire) (tended : Tended mock wire tasks nextMock nextWire)
    (tracks : nextMock.session.Tracks Bytes.Acknowledgeable) : Level number line busy nextMock nextWire := by
  have mine : nextMock.stage? = mock.stage? := by rw [tended.mock]; rfl
  have yours : nextWire.stage? = wire.stage? := by rw [tended.wire]; rfl
  refine ⟨tended.abreast, ?_, ?_, ?_, ?_, level.distinct, ?_, level.aimed, ?_, ?_, ?_, tracks⟩
  · rw [tended.mock, tended.wire]
    exact level.finished
  · rw [tended.mock]
    exact level.shut
  · rw [tended.wire]
    exact level.opened
  · rw [tended.mock]
    exact level.held
  · intro request member
    unfold Owes
    rw [mine]
    exact level.owed request member
  · rw [mine, yours]
    exact level.mirrors
  · rw [mine, yours]
    exact level.running
  · rw [mine]
    exact level.fresh

private theorem Level.finish {call : Nat} (level : Level number line (some call) mock wire) (result : Except Error Unit) :
    Level number line none (mock.finish call result) (wire.finish call result) := by
  obtain ⟨-, -, -, apart⟩ := level.running call rfl
  have other {request : Request} (member : request ∈ line) : request.call ≠ call :=
    fun same => apart (same ▸ List.mem_map_of_mem member)
  have mine (id : Nat) : (mock.finish call result).stage? id = if id = call then none else mock.stage? id :=
    stage?_forget mock call
  have yours (id : Nat) : (wire.finish call result).stage? id = if id = call then none else wire.stage? id :=
    stage?_forget wire call
  refine ⟨⟨level.twins, level.session, level.pump⟩, ?_, level.shut, level.opened, ?_, level.distinct, ?_, level.aimed, ?_,
    (fun _ same => by cases same), ?_, level.tracks⟩
  · exact congrArg (· ++ [(call, result)]) level.finished
  · change mock.gate.calls.filter (· != call) = _
    rw [level.held]
    exact List.filter_eq_self.mpr fun id member => bne_iff_ne.mpr fun same => apart (same ▸ member)
  · intro request member
    unfold Owes
    rw [mine, if_neg (other member)]
    exact level.owed request member
  · intro id _
    rw [mine, yours]
    split
    · exact .unknown
    next different => exact level.mirrors id fun same => different (Option.some.inj same).symm
  · intro id unmade
    rw [mine]
    split
    · rfl
    · exact level.fresh id unmade

private theorem Level.ask {call : Nat} (level : Level number line (some call) mock wire) {phase : Phase}
    (aims : (Progress.asking phase).Aims Bytes.Acknowledgeable) (link : Link)
    (same : link.observers = wire.transport.observers) (alive : link.failure = none) :
    Level number (line ++ [{ call, verb := phase.verb, targets := phase.targets }]) none
      ({ mock with gate := { mock.gate with calls := mock.gate.calls ++ [call] } }.setStage call (.held phase))
      ({ wire with transport := link }.setStage call (.sent phase)) := by
  let request : Request := { call, verb := phase.verb, targets := phase.targets }
  let holding : Activity Loopback :=
    { mock with gate := { mock.gate with calls := mock.gate.calls ++ [call] } }.setStage call (.held phase)
  let waiting : Activity Link := { wire with transport := link }.setStage call (.sent phase)
  obtain ⟨early, known, others, apart⟩ := level.running call rfl
  have calls : (line ++ [request]).map Request.call = line.map Request.call ++ [call] := List.map_append
  have mine (id : Nat) : holding.stage? id = if id = call then some (.held phase) else mock.stage? id :=
    stage?_setStage_known (a := { mock with gate := { mock.gate with calls := mock.gate.calls ++ [call] } }) known _ id
  have yours (id : Nat) : waiting.stage? id = if id = call then some (.sent phase) else wire.stage? id :=
    stage?_setStage_known (a := { wire with transport := link }) others _ id
  have twins : Loopback.Twins mock.transport link := ⟨same ▸ level.twins.observers, alive⟩
  refine ⟨⟨twins, level.session, level.pump⟩, level.finished, level.shut, level.opened, ?_, ?_, ?_, ?_, ?_,
    (fun _ same => by cases same), ?_, level.tracks⟩
  · rw [calls, ← level.held]
    rfl
  · rw [calls]
    exact List.nodup_append.mpr ⟨level.distinct, List.nodup_singleton call, fun id member other single same =>
      apart (List.mem_singleton.mp single ▸ same ▸ member)⟩
  · intro other member
    rcases List.mem_append.mp member with earlier | last
    · have different : other.call ≠ call := fun same => apart (same ▸ List.mem_map_of_mem earlier)
      unfold Owes
      rw [mine, if_neg different]
      exact level.owed other earlier
    · cases List.mem_singleton.mp last
      exact ⟨phase, (mine call).trans (if_pos rfl), rfl⟩
  · intro other member
    rcases List.mem_append.mp member with earlier | last
    · exact level.aimed other earlier
    · cases List.mem_singleton.mp last
      exact aims
  · intro id _
    rw [mine, yours]
    split
    · exact .waits phase
    next different => exact level.mirrors id fun same => different (Option.some.inj same).symm
  · intro id unmade
    have later : id ≠ call := fun same => Nat.not_le.mpr early (same ▸ unmade)
    rw [mine, if_neg later]
    exact level.fresh id unmade

theorem Piped.anew {before waiting : List Message} {sent arrived : Bytes} {line queue : List Request} {a b : Activity Link}
    (piped : a.Piped before) (poised : b.transport.Poised sent line queue arrived)
    (members : b.transport.observers.members = Pump.holding waiting none b.pump)
    (awake : waiting ≠ [] → b.pump.isSome = true → .pump ∈ b.ready) (pump : b.pump = a.pump)
    (fanout : b.session.fanout = a.session.fanout) : b.Piped waiting := by
  refine ⟨⟨fanout ▸ piped.sound, pump ▸ piped.whole, ⟨?_, fun some busy => .inl ?_, poised.unclosed⟩, poised.collected⟩, ?_⟩
  · rw [poised.alive]
    exact members
  · rw [poised.alive] at busy
    rcases busy with more | failed
    · exact awake more some
    · cases failed
  · rw [pump, fanout]
    exact piped.aligned

theorem Piped.members {waiting : List Message} (piped : wire.Piped waiting) (alive : wire.transport.failure = none) :
    wire.transport.observers.members = Pump.holding waiting none wire.pump := by
  rw [← alive]
  exact piped.carries.members

private theorem Piped.pumps {sent : Bytes} {waiting : List Message} (piped : wire.Piped waiting)
    (poised : wire.transport.Poised sent line [] []) (few : waiting.length < pumpTurn) (ready : List Task) :
    (runPump { wire with ready } pumpTurn).Piped [] := by
  have members := piped.carries.members
  rcases Option.eq_none_or_eq_some wire.pump with found | ⟨pump, found⟩
  · have idle : runPump { wire with ready } pumpTurn = { wire with ready } := by
      change runPump { wire with ready } (127 + 1) = _
      rw [runPump]
      dsimp only
      rw [found]
    rw [found] at members
    rw [idle]
    refine piped.anew poised ?_ (fun some => absurd rfl some) rfl rfl
    change wire.transport.observers.members = Pump.holding [] none wire.pump
    rw [found]
    exact members
  · have left : (pump.takes wire.transport.failure.isSome waiting).2 = [] := by
      rw [poised.alive]
      exact Merge.takes_all (Nat.le_of_lt few) _
    rcases runPump_piped piped found ready with ⟨-, after⟩ | ⟨-, -, after⟩
    · rw [left] at after
      exact after
    · exact after

private theorem Level.pumps {waiting : List Message} (level : Level number line none mock wire) (piped : wire.Piped waiting)
    (few : waiting.length < pumpTurn) (mine yours : List Task) :
    Tended { mock with ready := mine } { wire with ready := yours } []
      (runPump { mock with ready := mine } pumpTurn) (runPump { wire with ready := yours } pumpTurn) ∧
    Level number line none (runPump { mock with ready := mine } pumpTurn) (runPump { wire with ready := yours } pumpTurn) := by
  have still := level.unready mine yours
  have tended := runPump_tended few still.toAbreast piped.whole piped.carries.members
  have steady : Steady fun _ : Loopback => () := ⟨fun _ _ => rfl, fun _ _ => rfl, fun _ _ => rfl⟩
  have tracks := level.tracks.same (runPump_delivers steady pumpTurn { mock with ready := mine }).session
  exact ⟨tended, still.tended tended tracks⟩

/-- The pumps' turn in two sessions that are calm but for that. -/
theorem calm_pumps {waiting : List Message} (level : Level number line none mock wire)
    (poised : wire.transport.Poised (answered ++ requestBytes line) line [] []) (piped : wire.Piped waiting)
    (willing : mock.transport.refusal = none) (few : waiting.length < pumpTurn) (mine yours : List Task) :
    Calm number answered line (runPump { mock with ready := mine } pumpTurn) (runPump { wire with ready := yours } pumpTurn) ∧
      (runPump { mock with ready := mine } pumpTurn).ready = mine ∧
      (runPump { wire with ready := yours } pumpTurn).ready = yours := by
  obtain ⟨tended, after⟩ := level.pumps piped few mine yours
  refine ⟨⟨after, ?_, piped.pumps poised few yours, ?_⟩, ?_, ?_⟩
  · rw [tended.observed.wire]
    exact poised.observed _
  · rw [tended.observed.mock]
    exact willing
  · rw [tended.mock]
    exact List.append_nil mine
  · rw [tended.wire]
    exact List.append_nil yours

theorem Calm.rests (calm : Calm number answered line mock wire) (quiet : mock.ready = []) (still : wire.ready = []) :
    Meets 0 number answered line mock wire :=
  ⟨0, 0, mock, wire, Nat.le_refl 0, Nat.le_refl 0, .rest quiet, .rest still, calm⟩

/-- Nothing is left to do but for the pumps, which find nothing. -/
theorem Calm.meets (calm : Calm number answered line mock wire) (few : tasks = [] ∨ tasks = [.pump])
    (mine : mock.ready = tasks) (yours : wire.ready = tasks) : Meets 2 number answered line mock wire := by
  rcases few with rfl | rfl
  · exact (calm.rests mine yours).mono.mono
  · obtain ⟨after, quiet, still⟩ := calm_pumps calm.toLevel calm.poised calm.piped calm.willing (by decide) [] []
    have turned : Meets 1 number answered line mock (runPump { wire with ready := [] } pumpTurn) :=
      (after.rests quiet still).mockTurn mine rfl
    exact turned.wireTurn yours rfl

theorem kept_nil (before after : Activity Link) : kept before after [] = [] := by
  unfold kept
  split <;> rfl

theorem Level.adjusts (level : Level number line none mock wire) (carried : wire.Carried []) (quiet : .pump ∉ mock.ready)
    (still : .pump ∉ wire.ready) :
    ∃ tasks, (tasks = [] ∨ tasks = [.pump]) ∧ Tended mock wire tasks mock.adjustPump wire.adjustPump ∧
      Level number line none mock.adjustPump wire.adjustPump ∧ wire.adjustPump.Piped [] := by
  obtain ⟨tasks, few, tended⟩ := adjustPump_tended level.toAbreast quiet still
  have piped := (adjustPump_piped carried).1
  rw [kept_nil] at piped
  refine ⟨tasks, few, tended, level.tended tended ?_, piped⟩
  rw [adjustPump_session]
  exact level.tracks

theorem adjusts_meets (level : Level number line none mock wire)
    (poised : wire.transport.Poised (answered ++ requestBytes line) line [] []) (carried : wire.Carried [])
    (willing : mock.transport.refusal = none) (quiet : mock.ready = []) (still : wire.ready = []) :
    Meets 2 number answered line mock.adjustPump wire.adjustPump := by
  obtain ⟨tasks, few, tended, after, piped⟩ :=
    level.adjusts carried (by rw [quiet]; exact List.not_mem_nil) (by rw [still]; exact List.not_mem_nil)
  refine Calm.meets ⟨after, ?_, piped, ?_⟩ few ?_ ?_
  · rw [tended.observed.wire]
    exact poised.observed _
  · rw [tended.observed.mock]
    exact willing
  · rw [tended.mock, quiet]
    rfl
  · rw [tended.wire, still]
    rfl

private theorem submit_request {call : Nat} {phase : Phase} {sent : Bytes} (poised : wire.transport.Poised sent line [] [])
    (aimed : phase.targets ≠ []) (still : wire.ready = []) :
    wire.submit call phase = { { wire with
        transport := { wire.transport with queue := [{ call, verb := phase.verb, targets := phase.targets }] } }.setStage
          call (.sent phase) with ready := [.background] } := by
  have asked := poised.request { call, verb := phase.verb, targets := phase.targets } aimed
  have requested : Transport.submit wire.transport call phase.verb phase.targets = (none, { wire.transport with
      queue := [{ call, verb := phase.verb, targets := phase.targets }] }) :=
    congrArg (fun result => (result.1.map (·.mapError Fault.toError), result.2)) asked
  let asked : Activity Link := { wire with
    transport := { wire.transport with queue := [{ call, verb := phase.verb, targets := phase.targets }] } }.setStage
      call (.sent phase)
  rw [submit, requested]
  exact wake_quiet (a := asked) still .background

private theorem runBackground_sends {request : Request} {sent : Bytes} (poised : wire.transport.Poised sent line [request] []) :
    ∃ after, wire.runBackground = { wire with transport := after } ∧
      after.Poised (sent ++ request.frame.encode) (line ++ [request]) [] [] ∧
      after.observers = wire.transport.observers := by
  obtain ⟨after, worked, written, same⟩ := poised.sends
  exact ⟨after, runBackground_work worked, written, same⟩

/-- The next command of a call is held back on one side; on the other it is written in the turn behind. -/
theorem Level.asks {call : Nat} {phase : Phase} (level : Level number line (some call) mock wire)
    (poised : wire.transport.Poised (answered ++ requestBytes line) line [] [])
    (carried : (wire.proceed call (.asking phase)).Carried []) (willing : mock.transport.refusal = none)
    (quiet : mock.ready = []) (still : wire.ready = []) (aims : (Progress.asking phase).Aims Bytes.Acknowledgeable) :
    Meets 3 number answered (line ++ [{ call, verb := phase.verb, targets := phase.targets }])
      (mock.proceed call (.asking phase)).adjustPump (wire.proceed call (.asking phase)).adjustPump := by
  let request : Request := { call, verb := phase.verb, targets := phase.targets }
  let holding : Activity Loopback :=
    { mock with gate := { mock.gate with calls := mock.gate.calls ++ [call] } }.setStage call (.held phase)
  let waiting : Activity Link := { { wire with
    transport := { wire.transport with queue := [request] } }.setStage call (.sent phase) with ready := [.background] }
  have mine : mock.proceed call (.asking phase) = holding := by
    rw [proceed, if_pos level.shut]
  have yours : wire.proceed call (.asking phase) = waiting := by
    have opened : ¬ wire.gate.shut = true := by simp [level.opened]
    rw [proceed, if_neg opened, submit_request poised aims.1 still]
  have waits : Level number (line ++ [request]) none holding waiting :=
    (level.ask aims { wire.transport with queue := [request] } rfl poised.alive).unready mock.ready [.background]
  rw [yours] at carried
  rw [mine, yours]
  have asleep : holding.ready = [] := quiet
  obtain ⟨tasks, few, tended, adjusted, piped⟩ :=
    waits.adjusts carried (by rw [asleep]; exact List.not_mem_nil) (by simp [waiting])
  have queued : Link.Poised (answered ++ requestBytes line) line [request] [] { wire.transport with queue := [request] } :=
    { poised with queued := rfl }
  -- The turn in which the command is written comes before that of the pump.
  let writing : Activity Link := { waiting.adjustPump with ready := tasks }
  have ready : writing.transport.Poised (answered ++ requestBytes line) line [request] [] := by
    change waiting.adjustPump.transport.Poised _ _ _ _
    rw [tended.observed.wire]
    exact queued.observed _
  obtain ⟨link, turn, written, same⟩ := runBackground_sends ready
  rw [List.append_assoc, ← requestBytes_concat] at written
  have twins : Loopback.Twins holding.adjustPump.transport link := ⟨same ▸ adjusted.twins.observers, written.alive⟩
  have members : link.observers.members = Pump.holding [] none waiting.adjustPump.pump :=
    same ▸ piped.members ready.alive
  have calm : Calm number answered (line ++ [request]) holding.adjustPump { writing with transport := link } :=
    ⟨adjusted.rewire twins holding.adjustPump.ready tasks, written,
      piped.anew written members (fun some => absurd rfl some) rfl rfl, by rw [tended.observed.mock]; exact willing⟩
  have rests := calm.meets few (by rw [tended.mock, asleep]; rfl) rfl
  have next : waiting.adjustPump.ready = .background :: tasks := by
    rw [tended.wire]
    rfl
  exact rests.wireTurn next turn

/-- A call goes on. With its result it is gone on both sides; its next command waits for the server on both. -/
theorem Level.advances {call : Nat} {progress : Progress} (level : Level number line (some call) mock wire)
    (poised : wire.transport.Poised (answered ++ requestBytes line) line [] []) (carried : wire.Carried [])
    (willing : mock.transport.refusal = none) (quiet : mock.ready = []) (still : wire.ready = [])
    (aims : progress.Aims Bytes.Acknowledgeable) :
    ∃ later, Meets 3 number answered later (mock.proceed call progress).adjustPump (wire.proceed call progress).adjustPump := by
  have detours := proceed_detours wire call progress
  have after := carried.aside detours.toAside (detours.quits.sound carried.sound)
  cases progress with
  | finished result =>
    have mine : (mock.finish call result).ready = [] := by
      change mock.ready.filter _ = []
      rw [quiet]
      rfl
    have yours : (wire.finish call result).ready = [] := by
      change wire.ready.filter _ = []
      rw [still]
      rfl
    exact ⟨line, (adjusts_meets (level.finish result) poised after willing mine yours).mono⟩
  | asking phase => exact ⟨_, level.asks poised after willing quiet still aims⟩

end

end Activity

end Subscriber
