import Mathlib.Data.List.DropRight
import Subscriber.Proofs.Advances
import Subscriber.Proofs.ArrivalOrder
import Subscriber.Proofs.TurnOrder

/-! A session over a connection to a server that refuses nothing. Turns are given first come first served, steps come in
between, and the network takes and delivers what it likes: the calls stay in line with what the connection has of them. -/

namespace Subscriber

namespace Link

def bare (link : Link) : Link := { link with observers := {} }

theorem eq_of_bare {link other : Link} (same : other.bare = link.bare) : other = { link with observers := other.observers } :=
  calc other = { other.bare with observers := other.observers } := rfl
    _ = { link.bare with observers := other.observers } := by rw [same]
    _ = { link with observers := other.observers } := rfl

theorem steady_bare : Activity.Steady bare := by
  refine ⟨fun link kind => ?_, fun _ _ => rfl, fun _ _ => rfl⟩
  obtain ⟨observers, observed⟩ := observe_eq link kind
  change (link.observe kind).2.bare = _
  rw [observed]
  rfl

end Link

def Deed.request? (call : Nat) : Deed → Option Request
  | .asks verb targets => some { call, verb, targets }
  | .starts _ | .hears .. => none

namespace Activity

def requests {τ : Type} [Transport τ] (activity : Activity τ) (call : Nat) : List Request :=
  (activity.turnDeeds call).filterMap (Deed.request? call)

/-- What a move makes of the requests in line. Those that wait for room are the last, and leave with the call that made
them. -/
def lineUp (activity : Activity Link) (line : List Request) : Move Link → List Request
  | .step (.abandon call) =>
    line.rdrop activity.transport.waiting.length ++ (activity.abandon call).2.transport.waiting
  | .turn (.call call) => line ++ (activity.moveDeeds call (.turn (.call call))).filterMap (Deed.request? call)
  | _ => line

/-- Calls and connection between two moves. Of the requests `settled` ones concern nobody any more, those who made the
`owed` ones have their answers and are still to have a turn, and `unanswered` ones have been taken up. -/
structure Conversing (busy : Option Nat) (line settled owed unanswered : List Request) (past future : List (Remark × Server))
    (fed : Bytes) (activity : Activity Link) : Prop where
  link : activity.transport.Converses line (settled ++ owed) unanswered past future fed
  calls : activity.Lined busy owed (unanswered ++ activity.transport.queue ++ activity.transport.waiting)

section
variable {a b : Activity Link} {call : Nat} {phase : Phase} {busy : Option Nat} {line settled owed unanswered : List Request}
  {past future : List (Remark × Server)} {fed : Bytes}

theorem Conversing.tends (conversing : a.Conversing busy line settled owed unanswered past future fed)
    (delivers : Delivers Link.bare a b) (errands : b.errands = a.errands) :
    b.Conversing busy line settled owed unanswered past future fed := by
  have parts := Link.eq_of_bare delivers.transport
  refine ⟨parts ▸ conversing.link.observed _, ?_⟩
  rw [parts]
  exact conversing.calls.same delivers.calls delivers.finished errands

theorem Conversing.adjusted (conversing : a.Conversing busy line settled owed unanswered past future fed) :
    a.adjustPump.Conversing busy line settled owed unanswered past future fed :=
  conversing.tends (adjustPump_delivers Link.steady_bare a) (errands_adjustPump a)

theorem Conversing.withSession (conversing : a.Conversing busy line settled owed unanswered past future fed)
    (session : Session) : Conversing busy line settled owed unanswered past future fed { a with session } :=
  ⟨conversing.link, conversing.calls.same rfl rfl rfl⟩

theorem Conversing.wake (conversing : a.Conversing none line settled owed unanswered past future fed) (task : Task)
    (unsent : ∀ call phase, task = .call call → a.stage? call ≠ some (.sent phase)) :
    (a.wake task).Conversing none line settled owed unanswered past future fed := by
  have woken := conversing.calls.wake task fun call phase same sent => absurd sent (unsent call phase same)
  constructor
  · rw [wake_transport]
    exact conversing.link
  · rw [wake_transport]
    exact woken

theorem Conversing.wakeBackground (conversing : a.Conversing none line settled owed unanswered past future fed) :
    (a.wake .background).Conversing none line settled owed unanswered past future fed :=
  conversing.wake .background fun _ _ same => by cases same

private theorem submit_unanswered {transport : Link}
    (submitted : Transport.submit a.transport call phase.verb phase.targets = (none, transport)) :
    a.submit call phase = ({ a with transport }.setStage call (.sent phase)).wake .background ∧
      a.submitDeeds call phase = [.asks phase.verb phase.targets] := by
  constructor
  · rw [submit, submitted]
  · rw [submitDeeds, submitted]

/-- The connection answers nothing at once, and puts what it is asked at the end of the line. -/
theorem Conversing.defers (conversing : a.Conversing busy line settled owed unanswered past future fed) (call : Nat)
    (aimed : phase.targets ≠ []) : ∃ queue waiting,
      Transport.submit a.transport call phase.verb phase.targets = (none, { a.transport with queue, waiting }) ∧
      queue ++ waiting = a.transport.queue ++ a.transport.waiting ++ [phase.request call] ∧
      Link.Converses (line ++ [phase.request call]) (settled ++ owed) unanswered past future fed
        { a.transport with queue, waiting } := by
  obtain ⟨queue, waiting, requested, order, link⟩ := conversing.link.request (phase.request call) aimed
  exact ⟨queue, waiting, congrArg (fun result => (result.1.map (·.mapError Fault.toError), result.2)) requested, order, link⟩

theorem Conversing.submit {old : Stage} (conversing : a.Conversing (some call) line settled owed unanswered past future fed)
    (known : a.stage? call = some old) (aimed : phase.targets ≠ []) :
    (a.submit call phase).Conversing none
      (line ++ (a.submitDeeds call phase).filterMap (Deed.request? call)) settled owed unanswered past future fed := by
  obtain ⟨queue, waiting, submitted, order, link⟩ := conversing.defers call aimed
  obtain ⟨sends, asks⟩ := submit_unanswered submitted
  rw [sends, asks]
  let sent : Activity Link := { a with transport := { a.transport with queue, waiting } }.setStage call (.sent phase)
  have now : sent.stage? call = some (.sent phase) :=
    stage?_setStage_self (a := { a with transport := { a.transport with queue, waiting } }) known _
  have calls := conversing.calls.send (b := sent) phase (fun other different => stage?_setStage_other different _ _) rfl now rfl
  rw [List.append_assoc unanswered, List.append_assoc, ← order, ← List.append_assoc] at calls
  exact Conversing.wakeBackground ⟨link, calls⟩

/-- After a step of its own a call returns, waits at the gate or has made a request. -/
theorem Conversing.proceed {old : Stage} (conversing : a.Conversing (some call) line settled owed unanswered past future fed)
    (known : a.stage? call = some old) {progress : Progress} (aims : progress.Aims fun _ => True) :
    (a.proceed call progress).Conversing none
      (line ++ (a.proceedDeeds call progress).filterMap (Deed.request? call)) settled owed unanswered past future fed := by
  have free (other : Nat) (same : some call = some other) : other = call := (Option.some.inj same).symm
  obtain ⟨unlisted, asleep⟩ := conversing.calls.apart call rfl
  cases progress with
  | finished result =>
    have gone : (a.finish call result).stage? call = none := stage?_forget_self a call
    rw [proceedDeeds, List.filterMap_nil, List.append_nil]
    refine ⟨conversing.link, conversing.calls.place call free unlisted
      (fun other different => (stage?_forget a call).trans (if_neg different)) ?_ ?_ ?_ ?_⟩
    · intro other different result member
      refine (List.mem_append.mp member).resolve_right fun last => different ?_
      exact congrArg Prod.fst (List.mem_singleton.mp last)
    · exact fun phase answer found => by cases gone.symm.trans found
    · exact fun phase found => by cases gone.symm.trans found
    · refine (errands_forget a call).trans (List.filter_eq_self.mpr fun task member => bne_iff_ne.mpr fun own => ?_)
      exact asleep (own ▸ member)
  | asking phase =>
    unfold Activity.proceed proceedDeeds
    dsimp only
    by_cases shut : a.gate.shut = true
    · rw [if_pos shut, if_pos shut, List.filterMap_nil, List.append_nil]
      have gated : Lined (some call) owed (unanswered ++ a.transport.queue ++ a.transport.waiting)
          { a with gate := { a.gate with calls := a.gate.calls ++ [call] } } := conversing.calls.same rfl rfl rfl
      exact ⟨conversing.link, gated.restage known free unlisted (by simp) (by simp)⟩
    · rw [if_neg shut, if_neg shut]
      exact conversing.submit known aims.1

section
variable {rest : List Task} {stage : Stage}

private theorem Conversing.rests (conversing : a.Conversing none line settled owed unanswered past future fed)
    (front : a.ready = .call call :: rest) (unheard : ∀ phase answer, a.stage? call ≠ some (.answered phase answer)) :
    Conversing none line settled owed unanswered past future fed { a with ready := rest } := by
  refine ⟨conversing.link, conversing.calls.drop front fun early => ?_⟩
  obtain ⟨request, inside, alive, same⟩ := mem_due.mp early
  rcases conversing.calls.granted request inside with gone | ⟨phase, -, found⟩
  · rw [gone.1] at alive
    cases alive
  · exact unheard phase _ (Task.call.inj same ▸ found)

private theorem Conversing.goesOn (conversing : a.Conversing none line settled owed unanswered past future fed)
    (front : a.ready = .call call :: rest) (found : a.stage? call = some stage) (unsent : ∀ phase, stage ≠ .sent phase)
    (unheard : ∀ phase answer, stage ≠ .answered phase answer) :
    Conversing (some call) line settled owed unanswered past future fed { a with ready := rest } := by
  refine ⟨conversing.link, ?_⟩
  rcases conversing.calls.takeUp front found unsent with ⟨phase, _, _, same, -⟩ | ⟨-, lined⟩
  · exact absurd same (unheard phase _)
  · exact lined

/-- Whoever has an answer has been granted its request, and settles it. -/
theorem Conversing.settles {answer : Except Error Unit}
    (conversing : a.Conversing none line settled owed unanswered past future fed) (front : a.ready = .call call :: rest)
    (found : a.stage? call = some (.answered phase answer)) : answer = .ok () ∧ phase.request call ∈ line ∧
    ∃ skipped later, settled ++ owed = settled ++ skipped ++ [phase.request call] ++ later ∧
      (∀ request ∈ skipped, a.Gone request.call) ∧
      Conversing (some call) line (settled ++ skipped ++ [phase.request call]) later unanswered past future fed
        { a with ready := rest } := by
  rcases conversing.calls.takeUp front found (by simp) with ⟨_, skipped, later, same, rfl, gone, lined⟩ | ⟨unheard, -⟩
  · cases same
    have parts : settled ++ (skipped ++ phase.request call :: later) = settled ++ skipped ++ [phase.request call] ++ later := by
      simp
    have link := conversing.link
    have asked : phase.request call ∈ line := by
      rw [link.serves.order]
      simp
    exact ⟨rfl, asked, skipped, later, parts, gone, ⟨parts ▸ link, lined⟩⟩
  · exact absurd rfl (unheard phase answer)

private theorem Conversing.runUnheard (conversing : a.Conversing none line settled owed unanswered past future fed)
    (front : a.ready = .call call :: rest) (unheard : ∀ phase answer, a.stage? call ≠ some (.answered phase answer))
    (aimed : ∀ phase, a.stage? call = some (.released phase) → phase.targets ≠ []) :
    (({ a with ready := rest } : Activity Link).runCall call).Conversing none
      (line ++ ({ a with ready := rest } : Activity Link).requests call) settled owed unanswered past future fed := by
  let b : Activity Link := { a with ready := rest }
  have nothing (asks : b.turnDeeds call = []) (still : b.runCall call = b) :
      (b.runCall call).Conversing none (line ++ b.requests call) settled owed unanswered past future fed := by
    rw [still, requests, asks, List.filterMap_nil, List.append_nil]
    exact conversing.rests front unheard
  cases found : a.stage? call with
  | none =>
    have unknown : b.stage? call = none := found
    refine nothing ?_ ?_
    · rw [turnDeeds, unknown]
    · rw [Activity.runCall, unknown]
  | some stage =>
    have known : b.stage? call = some stage := found
    cases stage with
    | held phase =>
      refine nothing ?_ ?_
      · rw [turnDeeds, known]
      · rw [Activity.runCall, known]
    | sent phase =>
      refine nothing ?_ ?_
      · rw [turnDeeds, known]
      · rw [Activity.runCall, known]
    | starting operation =>
      have started := (conversing.goesOn front found (by simp) (by simp)).withSession (b.session.start operation).2
      have proceeded := started.proceed known (Session.aims_start b.session operation)
      rw [Activity.runCall, requests, turnDeeds, known]
      exact proceeded.adjusted
    | released phase =>
      have submitted := (conversing.goesOn front found (by simp) (by simp)).submit known (aimed phase found)
      rw [Activity.runCall, requests, turnDeeds, known]
      exact submitted.adjusted
    | answered phase answer => exact absurd found (unheard phase answer)

/-- What the next turn of a call settles: nothing, or what it has been granted and all that was granted before. -/
def Concludes (call : Nat) (activity : Activity Link) (before after : List Request) : Prop :=
  (∃ phase skipped, activity.stage? call = some (.answered phase (.ok ())) ∧
    after = before ++ skipped ++ [phase.request call] ∧ ∀ request ∈ skipped, activity.Gone request.call) ∨
  (∀ phase answer, activity.stage? call ≠ some (.answered phase answer)) ∧ after = before

private theorem Conversing.runCall (conversing : a.Conversing none line settled owed unanswered past future fed)
    (front : a.ready = .call call :: rest) (aimed : ∀ phase, a.stage? call = some (.released phase) → phase.targets ≠ []) :
    ∃ done later, settled ++ owed = done ++ later ∧ a.Concludes call settled done ∧
      (({ a with ready := rest } : Activity Link).runCall call).Conversing none
        (line ++ ({ a with ready := rest } : Activity Link).requests call) done later unanswered past future fed := by
  by_cases unheard : ∀ phase answer, a.stage? call ≠ some (.answered phase answer)
  · exact ⟨settled, owed, rfl, .inr ⟨unheard, rfl⟩, conversing.runUnheard front unheard aimed⟩
  · push Not at unheard
    obtain ⟨phase, answer, found⟩ := unheard
    obtain ⟨rfl, asked, skipped, later, parts, gone, taken⟩ := conversing.settles front found
    refine ⟨_, later, parts, .inl ⟨phase, skipped, found, rfl, gone⟩, ?_⟩
    let b : Activity Link := { a with ready := rest }
    have known : b.stage? call = some (.answered phase (.ok ())) := found
    have resumed := taken.withSession (b.session.resume phase (.ok ())).2
    have aims := Session.aims_resume b.session phase (.ok ()) (conversing.link.serves.aimed _ asked)
    rw [Activity.runCall, requests, turnDeeds, known]
    exact (resumed.proceed known aims).adjusted

end

theorem foldl_hear_transport {τ : Type} (signals : List (Signal Error)) (a : Activity τ) :
    (signals.foldl hear a).transport = a.transport := by
  induction signals generalizing a with
  | nil => rfl
  | cons signal signals ih =>
    refine (ih _).trans ?_
    unfold hear
    cases signal with
    | answer call answer =>
      dsimp only
      split
      · exact wake_transport _ _
      · rfl
    | admitted call =>
      dsimp only
      split
      · exact wake_transport _ _
      · rfl
    | observed =>
      dsimp only
      split
      · exact wake_transport _ _
      · rfl
    | notice notice => rfl

private theorem answers_mapFault (signals : List (Signal Fault)) :
    (signals.map (·.mapFault Fault.toError)).filterMap Signal.answer? =
      (signals.filterMap Signal.answer?).map fun answer => (answer.1, answer.2.mapError Fault.toError) := by
  rw [List.filterMap_map, List.map_filterMap]
  exact List.filterMap_congr fun signal _ => by cases signal <;> rfl

private theorem Conversing.runBackground {rest : List Task}
    (conversing : a.Conversing none line settled owed unanswered past future fed) (front : a.ready = .background :: rest)
    (alive : (({ a with ready := rest } : Activity Link).runBackground).transport.failure = none) :
    ∃ newly opened heard later, future = heard ++ later ∧
      (({ a with ready := rest } : Activity Link).runBackground).Conversing none line settled (owed ++ newly) opened
        (past ++ heard) later fed := by
  let collected : Activity Link := { a with ready := rest, transport := { a.transport.work with signals := [] } }
  have ran : ({ a with ready := rest } : Activity Link).runBackground =
      (a.transport.work.signals.map (·.mapFault Fault.toError)).foldl hear collected := rfl
  have kept := foldl_hear_transport (a.transport.work.signals.map (·.mapFault Fault.toError)) collected
  rw [ran, kept] at alive
  obtain ⟨newly, opened, heard, later, told, admitted, rfl, order, link, signals, answers, unadmitted⟩ :=
    conversing.link.work alive
  refine ⟨newly, opened, heard, later, rfl, ?_⟩
  have listens := conversing.calls.listens front
  rw [order] at listens
  have listening : collected.Listening owed (newly ++ (opened ++ a.transport.work.queue ++ a.transport.work.waiting)) :=
    ⟨listens.toLined.same rfl rfl rfl, listens.alone, listens.asleep⟩
  have answered : (told.map (·.mapFault Fault.toError)).filterMap Signal.answer? =
      newly.map fun request => (request.call, .ok ()) := by
    rw [answers_mapFault, answers, List.map_map]
    rfl
  have silent (call : Nat) : .admitted call ∉ told.map (·.mapFault Fault.toError) := by
    intro member
    obtain ⟨signal, inside, same⟩ := List.mem_map.mp member
    cases signal with
    | admitted other =>
      cases same
      exact unadmitted call inside
    | _ => cases same
  have heardAll := listening.hearAll _ answered silent
  have admits := heardAll.toLined.admitAll admitted heardAll.alone
  have both : (admitted.map Signal.admitted).foldl hear ((told.map (·.mapFault Fault.toError)).foldl hear collected) =
      ({ a with ready := rest } : Activity Link).runBackground := by
    rw [ran, signals, List.map_append, List.foldl_append, List.map_map]
    rfl
  rw [both] at admits
  rw [List.append_assoc] at link
  rw [ran] at admits ⊢
  refine ⟨?_, ?_⟩
  · rw [kept]
    exact link
  · rw [kept]
    exact admits

private theorem Conversing.runPump {rest : List Task} (conversing : a.Conversing none line settled owed unanswered past future fed)
    (front : a.ready = .pump :: rest) :
    (({ a with ready := rest } : Activity Link).runPump pumpTurn).Conversing none line settled owed unanswered past future
      fed := by
  have idle : ({ a with ready := rest } : Activity Link).Conversing none line settled owed unanswered past future fed := by
    refine ⟨conversing.link, conversing.calls.drop front fun early => ?_⟩
    obtain ⟨_, -, -, same⟩ := mem_due.mp early
    cases same
  exact idle.tends (runPump_delivers Link.steady_bare pumpTurn _) (errands_runPump pumpTurn _)

private theorem Conversing.waiting (conversing : a.Conversing busy line settled owed unanswered past future fed)
    (waiting : List Request) : line.rdrop a.transport.waiting.length ++ waiting =
      settled ++ owed ++ unanswered ++ a.transport.queue ++ waiting := by
  rw [conversing.link.serves.order, List.rdrop, List.length_append, Nat.add_sub_cancel, List.take_left]

private theorem Conversing.start (conversing : a.Conversing none line settled owed unanswered past future fed)
    (unknown : a.stage? call = none) (unlisted : ∀ request ∈ line, request.call ≠ call) (operation : Operation) :
    (Activity.start a call operation).Conversing none line settled owed unanswered past future fed := by
  let listed : Activity Link := { a with calls := a.calls ++ [(call, .starting operation)] }
  have own : listed.stage? call = some (.starting operation) := by
    change (a.calls ++ [(call, Stage.starting operation)]).lookup call = _
    rw [List.lookup_append, show a.calls.lookup call = none from unknown, List.lookup_cons, beq_self_eq_true]
    rfl
  have others (other : Nat) (different : other ≠ call) : listed.stage? other = a.stage? other := by
    change (a.calls ++ [(call, Stage.starting operation)]).lookup other = _
    rw [List.lookup_append, List.lookup_cons, beq_false_of_ne different]
    exact Option.or_none
  have apart : call ∉ (owed ++ (unanswered ++ a.transport.queue ++ a.transport.waiting)).map Request.call := by
    intro member
    obtain ⟨request, inside, same⟩ := List.mem_map.mp member
    refine unlisted request ?_ same
    rw [conversing.link.serves.order]
    simp only [List.append_assoc] at inside ⊢
    exact List.mem_append_right settled inside
  have placed : listed.Lined none owed (unanswered ++ a.transport.queue ++ a.transport.waiting) :=
    conversing.calls.place call nofun apart others (fun _ _ _ => id) (by simp [own]) (by simp [own]) rfl
  have started : listed.Conversing none line settled owed unanswered past future fed := ⟨conversing.link, placed⟩
  refine started.wake (.call call) fun other phase same => ?_
  cases same
  simp [own]

private theorem Conversing.letThrough (conversing : a.Conversing none line settled owed unanswered past future fed) (call : Nat) :
    (a.letThrough call).2.Conversing none line settled owed unanswered past future fed := by
  unfold Activity.letThrough
  split
  next phase found =>
    let freed : Activity Link := { a with gate := { a.gate with calls := a.gate.calls.erase call } }
    have gated : Lined none owed (unanswered ++ a.transport.queue ++ a.transport.waiting) freed :=
      conversing.calls.same rfl rfl rfl
    have placed : Lined none owed (unanswered ++ a.transport.queue ++ a.transport.waiting) (freed.setStage call (.released phase)) :=
      gated.restage found nofun (gated.unlisted found (by simp) (by simp)) (by simp) (by simp)
    have released : (freed.setStage call (.released phase)).Conversing none line settled owed unanswered past future fed :=
      ⟨conversing.link, placed⟩
    refine released.wake (.call call) fun other phase same => ?_
    cases same
    rw [stage?_setStage_self (a := freed) found]
    simp
  · exact conversing

private theorem Conversing.abandon (conversing : a.Conversing none line settled owed unanswered past future fed)
    (unfinished : ∀ stage, a.stage? call = some stage → ∀ result, (call, result) ∉ a.finished) :
    (a.abandon call).2.Conversing none (line.rdrop a.transport.waiting.length ++ (a.abandon call).2.transport.waiting)
      settled owed unanswered past future fed := by
  rw [conversing.waiting]
  unfold Activity.abandon
  split
  · rw [← conversing.link.serves.order]
    exact conversing
  next stage found =>
    refine ⟨conversing.link.giveUp call, conversing.calls.giveUp call (unfinished stage found) ?_ ?_ rfl rfl rfl⟩
    · exact List.filter_sublist.append_left _
    · intro request member different
      rcases List.mem_append.mp member with early | waits
      · exact List.mem_append_left _ early
      · exact List.mem_append_right _ (List.mem_filter.mpr ⟨waits, by simpa using different⟩)

theorem Conversing.deliver (conversing : a.Conversing none line settled owed unanswered past future fed) {piece : Bytes}
    (genuine : fed ++ piece <+: Frame.encodeItems (Server.frames (past ++ future))) :
    (a.begin (.transport (Connection.Event.arrive (.piece piece)))).2.Conversing none line settled owed unanswered past future
      (fed ++ piece) := by
  have met : ({ a with transport := a.transport.meet (.arrive (.piece piece)) } : Activity Link).Conversing none line settled
      owed unanswered past future (fed ++ piece) := ⟨conversing.link.deliver genuine, conversing.calls.same rfl rfl rfl⟩
  exact met.wakeBackground

/-- The steps that bring no bytes. -/
def Step.Plain : Step Link → Prop
  | .transport (Connection.Event.arrive _) | .transport Connection.Event.finish => False
  | _ => True

theorem Conversing.begin (conversing : a.Conversing none line settled owed unanswered past future fed) {step : Step Link}
    (plain : step.Plain)
    (fresh : ∀ call operation, step = .call call operation → a.stage? call = none ∧ ∀ request ∈ line, request.call ≠ call)
    (unfinished : ∀ call stage, a.stage? call = some stage → ∀ result, (call, result) ∉ a.finished) :
    (a.begin step).2.Conversing none (a.lineUp line (.step step)) settled owed unanswered past future fed := by
  cases step with
  | call call operation =>
    obtain ⟨unknown, unlisted⟩ := fresh call operation rfl
    exact conversing.start unknown unlisted operation
  | abandon call => exact conversing.abandon (unfinished call)
  | openStream => exact conversing.tends (begin_delivers Link.steady_bare a .openStream trivial) rfl
  | poll stream =>
    exact conversing.tends (begin_delivers Link.steady_bare a (.poll stream) trivial) (errands_begin a (.poll stream) trivial)
  | drain stream =>
    exact conversing.tends (begin_delivers Link.steady_bare a (.drain stream) trivial)
      (errands_begin a (.drain stream) trivial)
  | drop stream =>
    exact conversing.tends (begin_delivers Link.steady_bare a (.drop stream) trivial) (errands_begin a (.drop stream) trivial)
  | setGate shut => exact ⟨conversing.link, conversing.calls.same rfl rfl rfl⟩
  | letThrough call => exact conversing.letThrough call
  | letFirstThrough =>
    unfold Activity.begin
    dsimp only
    split
    · exact conversing
    · exact conversing.letThrough _
  | cut kind =>
    exact conversing.tends (begin_delivers Link.steady_bare a (.cut kind) trivial) (errands_begin a (.cut kind) trivial)
  | transport event =>
    cases event with
    | arrive arrival => exact plain.elim
    | finish => exact plain.elim
    | accept acceptance =>
      let met : Activity Link := { a with transport := a.transport.meet (.accept acceptance) }
      have accepted : met.Conversing none line settled owed unanswered past future fed :=
        ⟨conversing.link.accept acceptance, conversing.calls.same rfl rfl rfl⟩
      exact accepted.wakeBackground

/-- Only a turn of its own settles what a call has asked for. -/
theorem Conversing.turn {task : Task} {rest : List Task}
    (conversing : a.Conversing none line settled owed unanswered past future fed) (front : a.ready = task :: rest)
    (aimed : ∀ call phase, a.stage? call = some (.released phase) → phase.targets ≠ [])
    (alive : (a.move (.turn task)).transport.failure = none) :
    ∃ done later opened heard unheard, past ++ future = heard ++ unheard ∧
      (a.move (.turn task)).Conversing none (a.lineUp line (.turn task)) done later opened heard unheard fed ∧
      match task with
      | .call call => a.Concludes call settled done
      | .background | .pump => done = settled := by
  rw [move_turn front] at alive ⊢
  cases task with
  | call call =>
    obtain ⟨done, later, same, settles, ran⟩ := conversing.runCall front (aimed call)
    have wants : .call call ∈ a.ready := front ▸ List.mem_cons_self
    have asked : a.moveDeeds call (.turn (.call call)) = ({ a with ready := rest } : Activity Link).turnDeeds call := by
      refine (if_pos ⟨wants, rfl⟩).trans ?_
      rw [front, List.erase_cons_head]
    refine ⟨done, later, unanswered, past, future, rfl, ?_, settles⟩
    rw [lineUp, asked]
    exact ran
  | background =>
    obtain ⟨newly, opened, heard, later, rfl, ran⟩ := conversing.runBackground front alive
    exact ⟨settled, owed ++ newly, opened, past ++ heard, later, (List.append_assoc ..).symm, ran, rfl⟩
  | pump => exact ⟨settled, owed, unanswered, past, future, rfl, conversing.runPump front, rfl⟩

/-- Requests get into line as calls make them. -/
theorem Conversing.mem_lineUp (conversing : a.Conversing none line settled owed unanswered past future fed) {move : Move Link}
    {request : Request} (member : request ∈ a.lineUp line move) :
    request ∈ line ∨ .asks request.verb request.targets ∈ a.moveDeeds request.call move := by
  cases move with
  | step step =>
    refine .inl ?_
    cases step with
    | abandon call =>
      rcases List.mem_append.mp member with before | waits
      · exact List.mem_of_mem_take before
      · have still : request ∈ a.transport.waiting := by
          unfold Activity.abandon at waits
          split at waits
          · exact waits
          · exact List.mem_of_mem_filter waits
        rw [conversing.link.serves.order]
        exact List.mem_append_right _ still
    | _ => exact member
  | turn task =>
    cases task with
    | call call =>
      refine (List.mem_append.mp member).imp_right fun made => ?_
      obtain ⟨deed, inside, same⟩ := List.mem_filterMap.mp made
      cases deed with
      | asks verb targets =>
        obtain rfl := Option.some.inj same
        exact inside
      | _ => cases same
    | background => exact .inl member
    | pump => exact .inl member

end

end Activity

end Subscriber
