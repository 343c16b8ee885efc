import Subscriber.Proofs.QueueSizes
import Subscriber.Proofs.RequestLine
import Subscriber.Proofs.Resting

/-! How the calls of a session stand to their turns, over a connection that may fail at any time: whoever can go on wants
a turn, nobody wants two of them, and nobody who waits for an answer is still to have one when the next answers come. -/

namespace Subscriber

/-- Whether a call goes on when it has a turn. -/
def Stage.wants : Stage → Bool
  | .starting _ | .released _ | .answered _ _ => true
  | .held _ | .sent _ => false

namespace Activity
open scoped List

/-- Calls, their turns and their connection. A call that is `busy` is just having its turn. -/
structure Arranged (busy : Option Nat) (activity : Activity Link) : Prop where
  sound : activity.transport.Sound
  collected : activity.transport.signals = []
  unclosed : activity.transport.closed = false
  numbered : (activity.calls.map Prod.fst).Nodup
  single : activity.errands.Nodup
  awake : ∀ call stage, busy ≠ some call → activity.stage? call = some stage → stage.wants = true →
    .call call ∈ activity.errands
  ahead : ∀ call phase, busy ≠ some call → activity.stage? call = some (.sent phase) →
    ¬ [.background, .call call] <+ activity.errands
  gated : activity.gate.calls.Nodup
  held : ∀ call ∈ activity.gate.calls, ∃ phase, activity.stage? call = some (.held phase)
  apart : ∀ call, busy = some call → .call call ∉ activity.errands

section
variable {a b : Activity Link} {busy : Option Nat} {call : Nat} {phase : Phase} {stage : Stage}

theorem Arranged.tends (arranged : a.Arranged busy) (delivers : Delivers Link.bare a b) (errands : b.errands = a.errands) :
    b.Arranged busy := by
  have parts := Link.eq_of_bare delivers.transport
  have stages (call : Nat) : b.stage? call = a.stage? call := congrArg (List.lookup call) delivers.calls
  refine ⟨?_, ?_, ?_, ?_, ?_, ?_, ?_, ?_, ?_, ?_⟩
  · rw [parts]
    exact { arranged.sound with }
  · rw [parts]
    exact arranged.collected
  · rw [parts]
    exact arranged.unclosed
  · rw [delivers.calls]
    exact arranged.numbered
  · rw [errands]
    exact arranged.single
  · intro call stage free found wants
    rw [errands]
    exact arranged.awake call stage free ((stages call).symm.trans found) wants
  · intro call phase free found
    rw [errands]
    exact arranged.ahead call phase free ((stages call).symm.trans found)
  · rw [delivers.gate]
    exact arranged.gated
  · rw [delivers.gate]
    intro call member
    obtain ⟨phase, found⟩ := arranged.held call member
    exact ⟨phase, (stages call).trans found⟩
  · rw [errands]
    exact arranged.apart

private theorem Arranged.adjusted (arranged : a.Arranged busy) : a.adjustPump.Arranged busy :=
  arranged.tends (adjustPump_delivers Link.steady_bare a) (errands_adjustPump a)

theorem Arranged.withSession (arranged : a.Arranged busy) (session : Session) : Arranged busy { a with session } :=
  { arranged with }

theorem Arranged.wake (arranged : a.Arranged none) (task : Task)
    (early : ∀ call phase, task = .call call → a.stage? call = some (.sent phase) → .background ∉ a.errands) :
    (a.wake task).Arranged none := by
  have stages (call : Nat) : (a.wake task).stage? call = a.stage? call := stage?_wake a task
  have errands := errands_wake a task
  refine ⟨by simpa using arranged.sound, by simpa using arranged.collected, by simpa using arranged.unclosed,
    by simpa using arranged.numbered, ?_, ?_, ?_, by simpa using arranged.gated, ?_, nofun⟩
  · rcases errands with same | ⟨fresh, more⟩
    · exact same ▸ arranged.single
    · rw [more, ← List.concat_eq_append]
      exact arranged.single.concat fresh
  · intro call stage free found wants
    have before := arranged.awake call stage free ((stages call).symm.trans found) wants
    rcases errands with same | ⟨-, more⟩
    · exact same ▸ before
    · exact more ▸ List.mem_append_left _ before
  · intro call phase free found pair
    rw [stages] at found
    rcases errands with same | ⟨-, more⟩
    · exact arranged.ahead call phase free found (same ▸ pair)
    · rcases pair_concat (more ▸ pair) with before | ⟨member, own⟩
      · exact arranged.ahead call phase free found before
      · exact early call phase own.symm found member
  · intro call member
    rw [wake_gate] at member
    obtain ⟨phase, found⟩ := arranged.held call member
    exact ⟨phase, (stages call).trans found⟩

theorem Arranged.place (arranged : a.Arranged (some call)) (sound : b.transport.Sound) (collected : b.transport.signals = [])
    (unclosed : b.transport.closed = false) (numbered : (b.calls.map Prod.fst).Nodup)
    (others : ∀ other, other ≠ call → b.stage? other = a.stage? other)
    (idle : ∀ stage, b.stage? call = some stage → stage.wants = false) (errands : b.errands = a.errands)
    (gated : b.gate.calls.Nodup)
    (held : ∀ other ∈ b.gate.calls, other ≠ call ∧ other ∈ a.gate.calls ∨ ∃ phase, b.stage? other = some (.held phase)) :
    b.Arranged none := by
  have free {other : Nat} (different : other ≠ call) : some call ≠ some other :=
    fun same => different (Option.some.inj same).symm
  refine ⟨sound, collected, unclosed, numbered, errands ▸ arranged.single, ?_, ?_, gated, ?_, nofun⟩
  · intro other stage _ found wants
    by_cases own : other = call
    · rw [idle stage (own ▸ found)] at wants
      cases wants
    · exact errands ▸ arranged.awake other stage (free own) ((others other own).symm.trans found) wants
  · intro other phase _ found pair
    rw [errands] at pair
    by_cases own : other = call
    · exact arranged.apart call rfl (own ▸ pair.subset (by simp))
    · exact arranged.ahead other phase (free own) ((others other own).symm.trans found) pair
  · intro other member
    rcases held other member with ⟨different, before⟩ | still
    · obtain ⟨phase, found⟩ := arranged.held other before
      exact ⟨phase, (others other different).trans found⟩
    · exact still

private theorem errands_forget_busy (arranged : a.Arranged (some call)) : (a.forget call).errands = a.errands := by
  refine (errands_forget a call).trans (List.filter_eq_self.mpr fun task member => bne_iff_ne.mpr ?_)
  rintro rfl
  exact arranged.apart call rfl member

theorem Arranged.finish (arranged : a.Arranged (some call)) (result : Except Error Unit) :
    (a.finish call result).Arranged none := by
  have gone : (a.finish call result).stage? call = none := stage?_forget_self a call
  refine arranged.place arranged.sound arranged.collected arranged.unclosed (distinct_forget arranged.numbered call)
    (fun other different => (stage?_forget a call).trans (if_neg different)) (fun stage found => ?_)
    (errands_forget_busy arranged) (arranged.gated.filter _) (fun other member => .inl ?_)
  · cases gone.symm.trans found
  · obtain ⟨before, different⟩ := List.mem_filter.mp member
    exact ⟨bne_iff_ne.mp different, before⟩

/-- Nobody waits at the gate who is having a turn and could not have gone on there. -/
theorem Arranged.passed (arranged : a.Arranged busy) (known : a.stage? call = some stage)
    (free : ∀ phase, stage ≠ .held phase) : call ∉ a.gate.calls := by
  intro member
  obtain ⟨phase, found⟩ := arranged.held call member
  exact free phase (Option.some.inj (known.symm.trans found))

theorem Arranged.hold (arranged : a.Arranged (some call)) (known : a.stage? call = some stage)
    (free : ∀ phase, stage ≠ .held phase) (phase : Phase) :
    (setStage { a with gate := { a.gate with calls := a.gate.calls ++ [call] } } call (.held phase)).Arranged none := by
  let lined : Activity Link := { a with gate := { a.gate with calls := a.gate.calls ++ [call] } }
  have now : (lined.setStage call (.held phase)).stage? call = _ := stage?_setStage_self known (.held phase)
  have numbered : (lined.calls.map Prod.fst).Nodup := arranged.numbered
  refine arranged.place arranged.sound arranged.collected arranged.unclosed (distinct_setStage numbered call _)
    (fun other different => stage?_setStage_other different _ _) (fun stage found => ?_) rfl ?_ (fun other member => ?_)
  · cases now.symm.trans found
    rfl
  · exact List.concat_eq_append ▸ arranged.gated.concat (arranged.passed known free)
  · by_cases own : other = call
    · exact .inr ⟨phase, own ▸ now⟩
    · refine .inl ⟨own, (List.mem_append.mp member).resolve_right fun last => own (List.mem_singleton.mp last)⟩

private theorem Arranged.asked (arranged : a.Arranged busy) {answer : Option (Except Error Unit)} {transport : Link}
    (submitted : Transport.submit a.transport call phase.verb phase.targets = (answer, transport)) :
    Arranged busy { a with transport } := by
  obtain ⟨queue, waiting, requested⟩ := Link.request_eq a.transport call phase.verb phase.targets
  have sound := arranged.sound.requested call phase.verb phase.targets
  have same : transport = (a.transport.request call phase.verb phase.targets).2 := (congrArg Prod.snd submitted).symm
  rw [← same] at sound requested
  exact { arranged with
    sound
    collected := by rw [requested]; exact arranged.collected
    unclosed := by rw [requested]; exact arranged.unclosed }

theorem Arranged.submit {a : Activity Link} (arranged : a.Arranged (some call)) (known : a.stage? call = some stage)
    (free : ∀ phase, stage ≠ .held phase) (phase : Phase) : (a.submit call phase).Arranged none := by
  unfold Activity.submit
  split
  next transport submitted =>
    have asked := arranged.asked submitted
    have now := stage?_setStage_self (a := { a with transport }) known (.sent phase)
    have sent : (setStage { a with transport } call (.sent phase)).Arranged none := by
      refine asked.place asked.sound asked.collected asked.unclosed (distinct_setStage asked.numbered call _)
        (fun other different => stage?_setStage_other different _ _) (fun stage found => ?_) rfl arranged.gated
        (fun other member => .inl ⟨?_, member⟩)
      · cases now.symm.trans found
        rfl
      · rintro rfl
        exact arranged.passed known free member
    exact sent.wake .background fun _ _ same => by cases same
  next answer transport submitted =>
    have asked := arranged.asked submitted
    split
    next result session _ => exact (asked.withSession session).finish result
    next next session _ =>
      have resumed : Arranged (some call) { a with transport, session } := asked.withSession session
      split
      · exact resumed.hold known free next
      · exact resumed.submit known free next
termination_by phase.rank
decreasing_by exact Session.resume_rank (by assumption)

private theorem Arranged.proceed (arranged : a.Arranged (some call)) (known : a.stage? call = some stage)
    (free : ∀ phase, stage ≠ .held phase) (progress : Progress) : (a.proceed call progress).Arranged none := by
  cases progress with
  | finished result => exact arranged.finish result
  | asking phase =>
    unfold Activity.proceed
    dsimp only
    split
    · exact arranged.hold known free phase
    · exact arranged.submit known free phase

section
variable {rest : List Task}

theorem Arranged.rests (arranged : a.Arranged none) {task : Task} (front : a.ready = task :: rest)
    (idle : ∀ call stage, task = .call call → a.stage? call = some stage → stage.wants = false) :
    Arranged none { a with ready := rest } := by
  have errands : errands { a with ready := rest } <+ a.errands := by
    unfold Activity.errands
    rw [front]
    exact (List.sublist_cons_self _ _).filter _
  refine { arranged with
    single := errands.nodup arranged.single
    awake := fun call stage free found wants => ?_
    ahead := fun call phase free found pair => arranged.ahead call phase free found (pair.trans errands)
    apart := nofun }
  have before := arranged.awake call stage free found wants
  have inside := List.mem_filter.mp before
  rw [front] at inside
  refine List.mem_filter.mpr ⟨(List.mem_cons.mp inside.1).resolve_left fun own => ?_, inside.2⟩
  rw [idle call stage own.symm found] at wants
  cases wants

theorem Arranged.turns (arranged : a.Arranged none) (front : a.ready = .call call :: rest) :
    Arranged (some call) { a with ready := rest } := by
  have whole : a.errands = .call call :: errands { a with ready := rest } := errands_front front nofun
  have errands : errands { a with ready := rest } <+ a.errands := whole ▸ List.sublist_cons_self _ _
  refine { arranged with
    single := errands.nodup arranged.single
    awake := fun other stage free found wants => ?_
    ahead := fun other phase _ found pair => arranged.ahead other phase nofun found (pair.trans errands)
    apart := fun other same => ?_ }
  · have before := arranged.awake other stage nofun found wants
    rw [whole] at before
    exact (List.mem_cons.mp before).resolve_left fun own => free (congrArg some (Task.call.inj own).symm)
  · cases same
    exact (List.nodup_cons.mp (whole ▸ arranged.single)).1

theorem Arranged.once (arranged : a.Arranged none) (front : a.ready = .call call :: rest) : .call call ∉ rest :=
  fun member => (arranged.turns front).apart call rfl (List.mem_filter.mpr ⟨member, rfl⟩)

private theorem Arranged.runCall (arranged : a.Arranged none) (front : a.ready = .call call :: rest) :
    (Activity.runCall { a with ready := rest } call).Arranged none := by
  have turning := arranged.turns front
  have still (idle : ∀ stage, a.stage? call = some stage → stage.wants = false) : Arranged none { a with ready := rest } :=
    arranged.rests front fun other stage same found => idle stage (Task.call.inj same ▸ found)
  have went (outcome : Progress × Session) {old : Stage} (known : a.stage? call = some old) (free : ∀ phase, old ≠ .held phase) :
      (Activity.proceed { a with ready := rest, session := outcome.2 } call outcome.1).adjustPump.Arranged none :=
    ((turning.withSession outcome.2).proceed known free outcome.1).adjusted
  unfold Activity.runCall
  split
  next operation found => exact went (a.session.start operation) found nofun
  next phase found => exact (turning.submit found nofun phase).adjusted
  next phase answer found => exact went (a.session.resume phase answer) found nofun
  next starting released answered =>
    refine still fun stage found => ?_
    cases stage with
    | starting operation => exact absurd found (starting operation)
    | released phase => exact absurd found (released phase)
    | answered phase answer => exact absurd found (answered phase answer)
    | _ => rfl

end

/-- Whoever has come to a stage in which it can go on wants a turn. -/
theorem Arranged.rouse (arranged : a.Arranged none) (transport : b.transport = a.transport) (gate : b.gate = a.gate)
    (ready : b.ready = a.ready) (numbered : (b.calls.map Prod.fst).Nodup)
    (stages : ∀ other, b.stage? other = if other = call then some stage else a.stage? other) (wants : stage.wants = true)
    (elsewhere : call ∉ a.gate.calls) : (b.wake (.call call)).Arranged none := by
  have same : b.errands = a.errands := congrArg (List.filter _) ready
  have errands : (b.wake (.call call)).errands = a.errands ∨ .call call ∉ a.errands ∧
      (b.wake (.call call)).errands = a.errands ++ [.call call] :=
    same ▸ errands_wake b (.call call)
  have wakes : .call call ∈ (b.wake (.call call)).errands :=
    List.mem_filter.mpr ⟨mem_wake _ _, rfl⟩
  have more {task : Task} (member : task ∈ a.errands) : task ∈ (b.wake (.call call)).errands := by
    rcases errands with same | ⟨-, added⟩
    · exact same ▸ member
    · exact added ▸ List.mem_append_left _ member
  refine ⟨?_, ?_, ?_, ?_, ?_, ?_, ?_, ?_, ?_, nofun⟩
  · rw [wake_transport, transport]
    exact arranged.sound
  · rw [wake_transport, transport]
    exact arranged.collected
  · rw [wake_transport, transport]
    exact arranged.unclosed
  · rw [wake_calls]
    exact numbered
  · rcases errands with same | ⟨fresh, added⟩
    · exact same ▸ arranged.single
    · rw [added, ← List.concat_eq_append]
      exact arranged.single.concat fresh
  · intro other found free waits wants
    rw [stage?_wake, stages] at waits
    by_cases own : other = call
    · exact own ▸ wakes
    · rw [if_neg own] at waits
      exact more (arranged.awake other found free waits wants)
  · intro other phase free found pair
    rw [stage?_wake, stages] at found
    by_cases own : other = call
    · rw [if_pos own] at found
      rw [Option.some.inj found] at wants
      cases wants
    · rw [if_neg own] at found
      rcases errands with same | ⟨-, added⟩
      · exact arranged.ahead other phase free found (same ▸ pair)
      · rcases pair_concat (added ▸ pair) with before | ⟨-, last⟩
        · exact arranged.ahead other phase free found before
        · exact own (Task.call.inj last)
  · rw [wake_gate, gate]
    exact arranged.gated
  · intro other member
    rw [wake_gate, gate] at member
    obtain ⟨phase, found⟩ := arranged.held other member
    have different : other ≠ call := fun own => elsewhere (own ▸ member)
    exact ⟨phase, by rw [stage?_wake, stages, if_neg different]; exact found⟩

theorem Arranged.freed (arranged : a.Arranged none) {old : Stage} (known : a.stage? call = some old) (wants : stage.wants = true)
    (elsewhere : call ∉ a.gate.calls) : ((a.setStage call stage).wake (.call call)).Arranged none :=
  arranged.rouse rfl rfl rfl (distinct_setStage arranged.numbered call stage) (stage?_setStage_known (known ▸ rfl) stage) wants
    elsewhere

theorem Arranged.hear (arranged : a.Arranged none) (busy : .background ∉ a.errands) (signal : Signal Error) :
    (a.hear signal).Arranged none ∧ .background ∉ (a.hear signal).errands := by
  have woken {b : Activity Link} {task : Task} (other : task ≠ .background) (busy : .background ∉ b.errands) :
      .background ∉ (b.wake task).errands := by
    rcases errands_wake b task with same | ⟨-, added⟩
    · exact same ▸ busy
    · rw [added]
      intro member
      exact (List.mem_append.mp member).elim busy fun last => other (List.mem_singleton.mp last).symm
  unfold Activity.hear
  cases signal with
  | answer call answer =>
    dsimp only
    split
    next phase found =>
      exact ⟨arranged.freed found rfl (arranged.passed found nofun), woken (b := a.setStage call _) nofun busy⟩
    · exact ⟨arranged, busy⟩
  | admitted call =>
    dsimp only
    split
    · exact ⟨arranged.wake _ fun _ _ _ _ => busy, woken nofun busy⟩
    · exact ⟨arranged, busy⟩
  | observed =>
    dsimp only
    split
    · exact ⟨arranged.wake _ nofun, woken nofun busy⟩
    · exact ⟨arranged, busy⟩
  | notice notice => exact ⟨arranged.withSession _, busy⟩

theorem Arranged.hearAll (arranged : a.Arranged none) (busy : .background ∉ a.errands) (signals : List (Signal Error)) :
    (signals.foldl Activity.hear a).Arranged none ∧ .background ∉ (signals.foldl Activity.hear a).errands := by
  induction signals generalizing a with
  | nil => exact ⟨arranged, busy⟩
  | cons signal signals ih =>
    obtain ⟨heard, still⟩ := arranged.hear busy signal
    exact ih heard still

theorem Arranged.worked {rest : List Task} (arranged : a.Arranged none) (front : a.ready = .background :: rest) :
    Arranged none { a with ready := rest, transport := { a.transport.work with signals := [] } } ∧
      .background ∉ errands { a with ready := rest } := by
  have resting := arranged.rests front fun _ _ same => by cases same
  refine ⟨{ resting with
    sound := { arranged.sound.work.1.sound with }
    collected := rfl
    unclosed := (Link.closed_work a.transport).trans arranged.unclosed }, ?_⟩
  exact (List.nodup_cons.mp (errands_front front nofun ▸ arranged.single)).1

private theorem Arranged.runBackground {rest : List Task} (arranged : a.Arranged none) (front : a.ready = .background :: rest) :
    (Activity.runBackground { a with ready := rest }).Arranged none := by
  obtain ⟨worked, busy⟩ := arranged.worked front
  exact (worked.hearAll busy _).1

/-- Whoever has its turn, afterwards all is in order again. -/
theorem Arranged.run {task : Task} {rest : List Task} (arranged : a.Arranged none) (front : a.ready = task :: rest) :
    (Activity.run { a with ready := rest } task).Arranged none := by
  cases task with
  | call call => exact arranged.runCall front
  | background => exact arranged.runBackground front
  | pump =>
    have resting := arranged.rests front fun _ _ same => by cases same
    exact resting.tends (runPump_delivers Link.steady_bare pumpTurn _) (errands_runPump pumpTurn _)

private theorem Arranged.start (arranged : a.Arranged none) (unknown : a.stage? call = none) (operation : Operation) :
    (Activity.start a call operation).Arranged none := by
  refine arranged.rouse rfl rfl rfl ?_ (fun other => ?_) (show (Stage.starting operation).wants = true from rfl) fun member => ?_
  · dsimp only
    rw [List.map_append, List.map_cons, List.map_nil, ← List.concat_eq_append]
    refine arranged.numbered.concat fun member => ?_
    obtain ⟨entry, inside, rfl⟩ := List.mem_map.mp member
    simpa using List.lookup_eq_none_iff.mp unknown entry inside
  · exact stage?_calls unknown rfl other
  · obtain ⟨phase, found⟩ := arranged.held call member
    cases unknown.symm.trans found

private theorem Arranged.letThrough (arranged : a.Arranged none) (call : Nat) : (a.letThrough call).2.Arranged none := by
  unfold Activity.letThrough
  split
  next phase found =>
    have freed : Arranged none { a with gate := { a.gate with calls := a.gate.calls.erase call } } :=
      { arranged with
        gated := arranged.gated.erase call
        held := fun other member => arranged.held other (List.mem_of_mem_erase member) }
    exact freed.freed found rfl fun member => (arranged.gated.mem_erase_iff.mp member).1 rfl
  · exact arranged

theorem Arranged.begin (arranged : a.Arranged none) {step : Step Link}
    (fresh : ∀ call operation, step = .call call operation → a.stage? call = none) (stays : ∀ call, step ≠ .abandon call) :
    (a.begin step).2.Arranged none := by
  cases step with
  | call call operation => exact arranged.start (fresh call operation rfl) operation
  | abandon call => exact absurd rfl (stays call)
  | openStream => exact arranged.tends (begin_delivers Link.steady_bare a .openStream trivial) rfl
  | poll stream =>
    exact arranged.tends (begin_delivers Link.steady_bare a (.poll stream) trivial) (errands_begin a (.poll stream) trivial)
  | drain stream =>
    exact arranged.tends (begin_delivers Link.steady_bare a (.drain stream) trivial) (errands_begin a (.drain stream) trivial)
  | drop stream =>
    exact arranged.tends (begin_delivers Link.steady_bare a (.drop stream) trivial) (errands_begin a (.drop stream) trivial)
  | setGate shut => exact { arranged with }
  | letThrough call => exact arranged.letThrough call
  | letFirstThrough =>
    unfold Activity.begin
    dsimp only
    split
    · exact arranged
    · exact arranged.letThrough _
  | cut kind =>
    exact arranged.tends (begin_delivers Link.steady_bare a (.cut kind) trivial) (errands_begin a (.cut kind) trivial)
  | transport event =>
    have met : Arranged none { a with transport := a.transport.meet event } := by
      cases event
      all_goals exact { arranged with sound := { arranged.sound with } }
    exact met.wake .background nofun

end

end Activity

end Subscriber
