import Subscriber.Proofs.Moves

/-! Turns. A move in which a call has no part brings it at most an answer or leave to go on, and never puts it
further back in line; so whoever wants a turn gets one before things come to rest. -/

namespace Subscriber

/-- How far a call can come without a turn of its own. -/
inductive Stage.Drifts : Stage → Stage → Prop where
  | stays (stage : Stage) : Drifts stage stage
  | freed (phase : Phase) : Drifts (.held phase) (.released phase)
  | answered (phase : Phase) (answer : Except Error Unit) : Drifts (.sent phase) (.answered phase answer)

private theorem Stage.Drifts.trans {a b c : Stage} (first : Drifts a b) (second : Drifts b c) : Drifts a c := by
  cases first with
  | stays => exact second
  | freed phase => cases second; exact .freed phase
  | answered phase answer => cases second; exact .answered phase answer

namespace Activity

/-- A call waits for its turn behind so many others at most. -/
def Queues (call : Nat) (ahead : Nat) (tasks : List Task) : Prop :=
  ∃ front behind, tasks = front ++ .call call :: behind ∧ front.length ≤ ahead

section
variable {call ahead : Nat} {tasks : List Task}

private theorem Queues.append (queues : Queues call ahead tasks) (more : List Task) : Queues call ahead (tasks ++ more) := by
  obtain ⟨front, behind, rfl, short⟩ := queues
  exact ⟨front, behind ++ more, by simp, short⟩

theorem Queues.filter (queues : Queues call ahead tasks) {keeps : Task → Bool} (kept : keeps (.call call) = true) :
    Queues call ahead (tasks.filter keeps) := by
  obtain ⟨front, behind, rfl, short⟩ := queues
  refine ⟨front.filter keeps, behind.filter keeps, ?_, Nat.le_trans (List.length_filter_le ..) short⟩
  rw [List.filter_append, List.filter_cons_of_pos kept]

private theorem Queues.erase (queues : Queues call ahead tasks) {task : Task} (other : task ≠ .call call) :
    Queues call ahead (tasks.erase task) := by
  obtain ⟨front, behind, rfl, short⟩ := queues
  rw [List.erase_append]
  split
  · exact ⟨front.erase task, behind, rfl, Nat.le_trans List.length_erase_le short⟩
  · rw [List.erase_cons_tail (by simpa using other.symm)]
    exact ⟨front, behind.erase task, rfl, short⟩

/-- The first in line is either this call or somebody who goes out of its way. -/
theorem Queues.next {task : Task} (queues : Queues call ahead (task :: tasks)) (other : task ≠ .call call) :
    ∃ less, ahead = less + 1 ∧ Queues call less tasks := by
  obtain ⟨front, behind, split, short⟩ := queues
  cases front with
  | nil => exact absurd (List.cons.inj split).1 other
  | cons head front =>
    obtain ⟨-, rest⟩ := List.cons.inj split
    cases ahead with
    | zero => exact absurd short (Nat.not_succ_le_zero _)
    | succ less => exact ⟨less, rfl, front, behind, rest, Nat.le_of_succ_le_succ short⟩

theorem Queues.mem (queues : Queues call ahead tasks) : .call call ∈ tasks := by
  obtain ⟨front, behind, rfl, -⟩ := queues
  exact List.mem_append_right _ List.mem_cons_self

theorem queues_of_mem (wants : .call call ∈ tasks) : Queues call tasks.length tasks := by
  obtain ⟨front, behind, split⟩ := List.append_of_mem wants
  refine ⟨front, behind, split, ?_⟩
  rw [split, List.length_append]
  exact Nat.le_add_right _ _

end

section
variable {τ : Type} {call : Nat} {a b c : Activity τ}

theorem stage?_setStage (a : Activity τ) (other : Nat) (stage : Stage) :
    (a.setStage other stage).stage? call = if call = other then (a.stage? call).map fun _ => stage else a.stage? call := by
  unfold stage? setStage
  dsimp only
  induction a.calls with
  | nil => exact (ite_self _).symm
  | cons entry entries ih =>
    obtain ⟨id, old⟩ := entry
    rw [List.map_cons]
    by_cases here : id = other
    · subst here
      rw [if_pos rfl, List.lookup_cons, List.lookup_cons, ih]
      by_cases own : call = id
      · subst own
        simp only [beq_self_eq_true, if_true, Option.map_some]
      · simp only [beq_false_of_ne own, if_neg own]
    · rw [if_neg here, List.lookup_cons, List.lookup_cons, ih]
      by_cases found : call = id
      · subst found
        simp only [beq_self_eq_true, if_neg here]
      · simp only [beq_false_of_ne found]

theorem stage?_setStage_self {old : Stage} (found : a.stage? call = some old) (stage : Stage) :
    (a.setStage call stage).stage? call = some stage := by
  rw [stage?_setStage, if_pos rfl, found]
  rfl

theorem stage?_setStage_other {other : Nat} (different : call ≠ other) (a : Activity τ) (stage : Stage) :
    (a.setStage other stage).stage? call = a.stage? call := by
  rw [stage?_setStage, if_neg different]

theorem stage?_setStage_known {other : Nat} (known : (a.stage? other).isSome) (stage : Stage) (call : Nat) :
    (a.setStage other stage).stage? call = if call = other then some stage else a.stage? call := by
  obtain ⟨old, found⟩ := Option.isSome_iff_exists.mp known
  split
  next own => exact own ▸ stage?_setStage_self found stage
  next different => exact stage?_setStage_other different a stage

theorem stage?_forget (a : Activity τ) (other : Nat) :
    (a.forget other).stage? call = if call = other then none else a.stage? call := by
  unfold stage? forget
  dsimp only
  induction a.calls with
  | nil => exact (ite_self _).symm
  | cons entry entries ih =>
    obtain ⟨id, old⟩ := entry
    rw [List.lookup_cons]
    by_cases here : id = other
    · subst here
      rw [List.filter_cons_of_neg (by simp), ih]
      by_cases own : call = id
      · rw [if_pos own, if_pos own]
      · simp only [beq_false_of_ne own, if_neg own]
    · rw [List.filter_cons_of_pos (by simpa using here), List.lookup_cons, ih]
      by_cases found : call = id
      · subst found
        simp only [beq_self_eq_true, if_neg here]
      · simp only [beq_false_of_ne found]

theorem stage?_forget_self (a : Activity τ) (call : Nat) : (a.forget call).stage? call = none := by
  rw [stage?_forget, if_pos rfl]

@[simp] theorem stage?_wake (a : Activity τ) (task : Task) : (a.wake task).stage? call = a.stage? call := by
  unfold stage?
  rw [wake_calls]

/-- What passes a call by. -/
structure Passes (call : Nat) (before after : Activity τ) : Prop where
  stage : Option.Rel Stage.Drifts (before.stage? call) (after.stage? call)
  finished : ∀ result, (call, result) ∈ after.finished ↔ (call, result) ∈ before.finished
  queues : ∀ ahead, Queues call ahead before.ready → Queues call ahead after.ready

theorem stays (stage : Option Stage) : Option.Rel Stage.Drifts stage stage := by
  cases stage with
  | none => exact .none
  | some stage => exact .some (.stays stage)

theorem Passes.refl (call : Nat) (a : Activity τ) : Passes call a a := ⟨stays _, fun _ => Iff.rfl, fun _ => id⟩

theorem Passes.of_eq (calls : b.calls = a.calls) (finished : b.finished = a.finished) (ready : b.ready = a.ready) :
    Passes call a b := by
  refine ⟨?_, fun _ => by rw [finished], fun _ => by rw [ready]; exact id⟩
  unfold stage?
  rw [calls]
  exact stays _

theorem Passes.trans (first : Passes call a b) (second : Passes call b c) : Passes call a c := by
  refine ⟨?_, fun result => (second.finished result).trans (first.finished result),
    fun ahead queues => second.queues ahead (first.queues ahead queues)⟩
  have earlier := first.stage
  have later := second.stage
  generalize a.stage? call = old at earlier
  generalize b.stage? call = between at earlier later
  generalize c.stage? call = new at later
  cases earlier with
  | none => exact later
  | some drifts =>
    cases later with
    | some more => exact .some (drifts.trans more)

theorem Passes.wake (passes : Passes call a b) (task : Task) : Passes call a (b.wake task) := by
  refine ⟨by rw [stage?_wake]; exact passes.stage, fun result => by rw [wake_finished]; exact passes.finished result,
    fun ahead queues => ?_⟩
  have queued := passes.queues ahead queues
  unfold Activity.wake
  split
  · exact queued
  · exact queued.append [task]

theorem setStage_passes {other : Nat} (different : call ≠ other) (a : Activity τ) (stage : Stage) :
    Passes call a (a.setStage other stage) := by
  refine ⟨?_, fun _ => Iff.rfl, fun _ => id⟩
  rw [stage?_setStage_other different]
  exact stays _

theorem forget_passes {other : Nat} (different : call ≠ other) (a : Activity τ) : Passes call a (a.forget other) := by
  refine ⟨?_, fun _ => Iff.rfl, fun _ queues => queues.filter ?_⟩
  · rw [stage?_forget, if_neg different]
    exact stays _
  · simpa using different

theorem finish_passes {other : Nat} (different : call ≠ other) (a : Activity τ) (result : Except Error Unit) :
    Passes call a (a.finish other result) := by
  have forgotten := forget_passes different a
  refine ⟨forgotten.stage, fun mine => ?_, forgotten.queues⟩
  simp [finish, different]

end

section
variable {τ : Type} [Transport τ] {call : Nat}

theorem adjustPump_passes (a : Activity τ) : Passes call a a.adjustPump := by
  have stopped : Passes call a a.stopPump := by
    unfold stopPump
    split
    · exact .refl call a
    · exact ⟨stays _, fun _ => Iff.rfl, fun _ queues => queues.filter rfl⟩
  unfold adjustPump
  split
  · exact stopped
  · split
    · exact .refl call a
    · apply stopped.trans
      unfold startPump
      apply Passes.wake
      exact .of_eq rfl rfl rfl

theorem submit_passes {other : Nat} (different : call ≠ other) (a : Activity τ) (phase : Phase) :
    Passes call a (a.submit other phase) := by
  unfold submit
  split
  next transport _ =>
    have sent : Passes call a { a with transport } := .of_eq rfl rfl rfl
    exact (sent.trans (setStage_passes different _ _)).wake .background
  next answer transport _ =>
    split
    next result session _ =>
      have told : Passes call a { a with transport, session } := .of_eq rfl rfl rfl
      exact told.trans (finish_passes different _ result)
    next next session _ =>
      split
      · have held : Passes call a
          { a with transport, session, gate := { a.gate with calls := a.gate.calls ++ [other] } } := .of_eq rfl rfl rfl
        exact held.trans (setStage_passes different _ _)
      · have told : Passes call a { a with transport, session } := .of_eq rfl rfl rfl
        exact told.trans (submit_passes different _ next)
termination_by phase.rank
decreasing_by exact Session.resume_rank (by assumption)

private theorem proceed_passes {other : Nat} (different : call ≠ other) (a : Activity τ) (progress : Progress) :
    Passes call a (a.proceed other progress) := by
  unfold proceed
  split
  next result => exact finish_passes different a result
  next phase =>
    split
    · have held : Passes call a { a with gate := { a.gate with calls := a.gate.calls ++ [other] } } := .of_eq rfl rfl rfl
      exact held.trans (setStage_passes different _ _)
    · exact submit_passes different a phase

private theorem runCall_passes {other : Nat} (different : call ≠ other) (a : Activity τ) : Passes call a (a.runCall other) := by
  have proceeds (session : Session) (progress : Progress) :
      Passes call a ({ a with session }.proceed other progress).adjustPump := by
    have told : Passes call a { a with session } := .of_eq rfl rfl rfl
    exact (told.trans (proceed_passes different _ progress)).trans (adjustPump_passes _)
  unfold runCall
  split
  · exact proceeds _ _
  next phase _ => exact (submit_passes different a phase).trans (adjustPump_passes _)
  · exact proceeds _ _
  · exact .refl call a

omit [Transport τ] in
private theorem hear_passes (a : Activity τ) (signal : Signal Error) : Passes call a (a.hear signal) := by
  unfold hear
  cases signal with
  | answer other answer =>
    dsimp only
    split
    next phase found =>
      by_cases own : call = other
      · subst own
        have told : Passes call a (a.setStage call (.answered phase answer)) := by
          refine ⟨?_, fun _ => Iff.rfl, fun _ => id⟩
          rw [stage?_setStage, if_pos rfl, found]
          exact .some (.answered phase answer)
        exact told.wake _
      · exact (setStage_passes own a _).wake _
    · exact .refl call a
  | admitted other =>
    dsimp only
    split
    · exact (Passes.refl call a).wake _
    · exact .refl call a
  | observed =>
    dsimp only
    split
    · exact (Passes.refl call a).wake _
    · exact .refl call a
  | notice notice => exact .of_eq rfl rfl rfl

omit [Transport τ] in
theorem foldl_hear_passes (signals : List (Signal Error)) (a : Activity τ) : Passes call a (signals.foldl hear a) := by
  induction signals generalizing a with
  | nil => exact .refl call a
  | cons signal signals ih => exact (hear_passes a signal).trans (ih _)

private theorem runPump_passes (budget : Nat) (a : Activity τ) : Passes call a (a.runPump budget) := by
  induction budget generalizing a with
  | zero =>
    unfold runPump
    split
    · exact .refl call a
    next pump _ =>
      have polled : Passes call a (a.pollPump pump askNothing).2 := .of_eq rfl rfl rfl
      exact polled.wake .pump
  | succ budget ih =>
    unfold runPump
    split
    · exact .refl call a
    next pump _ =>
      have polled : Passes call a (a.pollPump pump (askSide pump)).2 := .of_eq rfl rfl rfl
      split
      next found =>
        rw [found] at polled
        exact polled
      next between found =>
        rw [found] at polled
        have finished : Passes call between { between with session := between.session.finish pump.generation } :=
          .of_eq rfl rfl rfl
        exact (polled.trans finished).trans (adjustPump_passes _)
      next message between found =>
        rw [found] at polled
        have published : Passes call between
          { between with session := between.session.publish pump.generation (.ok message) } := .of_eq rfl rfl rfl
        exact (polled.trans published).trans (ih _)
      next error between found =>
        rw [found] at polled
        have published : Passes call between
          { between with session := between.session.publish pump.generation (.error (.upstream error)) } :=
          .of_eq rfl rfl rfl
        exact (polled.trans published).trans (adjustPump_passes _)

theorem run_passes {task : Task} (other : task ≠ .call call) (a : Activity τ) : Passes call a (a.run task) := by
  cases task with
  | call id => exact runCall_passes (fun same => other (congrArg Task.call same.symm)) a
  | background =>
    change Passes call a (a.runBackground)
    unfold runBackground
    dsimp only
    have worked : Passes call a { a with transport := (Transport.work a.transport).2 } := .of_eq rfl rfl rfl
    exact worked.trans (foldl_hear_passes _ _)
  | pump => exact runPump_passes pumpTurn a

omit [Transport τ] in
private theorem letThrough_passes (a : Activity τ) (other : Nat) : Passes call a (a.letThrough other).2 := by
  unfold letThrough
  split
  next phase found =>
    dsimp only
    apply Passes.wake
    have freed : Passes call a { a with gate := { a.gate with calls := a.gate.calls.erase other } } := .of_eq rfl rfl rfl
    by_cases own : call = other
    · subst own
      refine freed.trans ⟨?_, fun _ => Iff.rfl, fun _ => id⟩
      rw [stage?_setStage, if_pos rfl]
      have held : Activity.stage? { a with gate := { a.gate with calls := a.gate.calls.erase call } } call =
          some (.held phase) := found
      rw [held]
      exact .some (.freed phase)
    · exact freed.trans (setStage_passes own _ _)
  · exact .refl call a

/-- Steps have no part in a call unless they start it or abandon it. -/
theorem begin_passes (a : Activity τ) (step : Step τ) (started : ∀ operation, step ≠ .call call operation)
    (abandoned : step ≠ .abandon call) : Passes call a (a.begin step).2 := by
  cases step with
  | call id operation =>
    have different : call ≠ id := fun same => started operation (same ▸ rfl)
    have listed : Passes call a { a with calls := a.calls ++ [(id, Stage.starting operation)] } := by
      refine ⟨?_, fun _ => Iff.rfl, fun _ queues => queues⟩
      have same : Activity.stage? { a with calls := a.calls ++ [(id, Stage.starting operation)] } call = a.stage? call := by
        unfold stage?
        rw [List.lookup_append, List.lookup_cons, beq_false_of_ne different]
        exact Option.or_none
      rw [same]
      exact stays _
    exact listed.wake _
  | abandon other =>
    have different : call ≠ other := fun same => abandoned (same ▸ rfl)
    change Passes call a (a.abandon other).2
    unfold abandon
    split
    · exact .refl call a
    · exact (forget_passes different a).trans (.of_eq rfl rfl rfl)
  | openStream => exact .of_eq rfl rfl rfl
  | poll stream =>
    unfold begin
    dsimp only
    split
    · exact .refl call a
    · have polled : Passes call a { a with session := (a.session.poll stream).2 } := .of_eq rfl rfl rfl
      exact polled.trans (adjustPump_passes _)
  | drain stream =>
    unfold begin
    dsimp only
    split
    · exact .refl call a
    · have drained : Passes call a { a with session := (a.session.drain stream).2.2 } := .of_eq rfl rfl rfl
      exact drained.trans (adjustPump_passes _)
  | drop stream =>
    have dropped : Passes call a { a with session := a.session.drop stream } := .of_eq rfl rfl rfl
    exact dropped.trans (adjustPump_passes _)
  | setGate shut => exact .of_eq rfl rfl rfl
  | letThrough other => exact letThrough_passes a other
  | letFirstThrough =>
    unfold begin
    dsimp only
    split
    · exact .refl call a
    next other _ _ => exact letThrough_passes a other
  | cut kind =>
    change Passes call a (a.cut kind)
    unfold cut
    split
    · exact .refl call a
    · apply Passes.wake
      exact .of_eq rfl rfl rfl
  | transport event =>
    change Passes call a (a.affect event)
    unfold affect
    dsimp only
    have met : Passes call a { a with transport := (Transport.meet a.transport event).2 } := .of_eq rfl rfl rfl
    exact (met.trans (foldl_hear_passes _ _)).wake .background

/-- The moves in which a call has a part. -/
def Move.Concerns (call : Nat) : Move τ → Prop
  | .step (.call id _) => id = call
  | .step (.abandon id) => id = call
  | .turn task => task = .call call
  | .step _ => False

theorem move_passes (a : Activity τ) (move : Move τ) (other : ¬ move.Concerns call) : Passes call a (a.move move) := by
  cases move with
  | step step =>
    refine begin_passes a step (fun operation same => ?_) (fun same => ?_)
    · exact other (same ▸ rfl)
    · exact other (same ▸ rfl)
  | turn task =>
    change Passes call a (if task ∈ a.ready then { a with ready := a.ready.erase task }.run task else a)
    split
    · have taken : Passes call a { a with ready := a.ready.erase task } :=
        ⟨stays _, fun _ => Iff.rfl, fun _ queues => queues.erase other⟩
      exact taken.trans (run_passes other _)
    · exact .refl call a

/-- A call waits for leave to send its command, or for the answer to it. -/
def Waits (activity : Activity τ) (call : Nat) : Prop :=
  ∃ phase, activity.stage? call = some (.held phase) ∨ activity.stage? call = some (.sent phase)

/-- Once a call has had its turn it is up to others to go on, unless it has returned. -/
def Rests (activity : Activity τ) (call : Nat) : Prop := (∃ result, (call, result) ∈ activity.finished) ∨ activity.Waits call

omit [Transport τ] in
theorem rests_finish (a : Activity τ) (result : Except Error Unit) : (a.finish call result).Rests call :=
  .inl ⟨result, List.mem_append_right _ List.mem_cons_self⟩

omit [Transport τ] in
theorem Rests.passes {a b : Activity τ} (rests : a.Rests call) (same : b.stage? call = a.stage? call)
    (passes : Passes call a b) : b.Rests call := by
  rcases rests with ⟨result, finished⟩ | ⟨phase, waits⟩
  · exact .inl ⟨result, (passes.finished result).mpr finished⟩
  · exact .inr ⟨phase, same ▸ waits⟩

theorem stage?_adjustPump (a : Activity τ) : a.adjustPump.stage? call = a.stage? call := by
  have steady : Steady fun _ : τ => () := ⟨fun _ _ => rfl, fun _ _ => rfl, fun _ _ => rfl⟩
  unfold stage?
  rw [(adjustPump_delivers steady a).calls]

omit [Transport τ] in
theorem waits_setStage {a : Activity τ} {old stage : Stage} (found : a.stage? call = some old)
    (waits : ∃ phase, stage = .held phase ∨ stage = .sent phase) : (a.setStage call stage).Waits call := by
  have now := stage?_setStage_self found stage
  obtain ⟨phase, rfl | rfl⟩ := waits
  · exact ⟨phase, .inl now⟩
  · exact ⟨phase, .inr now⟩

theorem submit_rests {a : Activity τ} {stage : Stage} (found : a.stage? call = some stage) (phase : Phase) :
    (a.submit call phase).Rests call := by
  unfold submit
  split
  next transport _ =>
    have waits := @waits_setStage _ call { a with transport } _ (.sent phase) found ⟨phase, .inr rfl⟩
    exact Rests.passes (.inr waits) (stage?_wake _ _) ((Passes.refl call _).wake .background)
  next answer transport _ =>
    split
    · exact rests_finish _ _
    next next session _ =>
      split
      · exact .inr (waits_setStage
          (a := { a with transport, session, gate := { a.gate with calls := a.gate.calls ++ [call] } }) found
          ⟨next, .inl rfl⟩)
      · exact submit_rests (a := { a with transport, session }) found next
termination_by phase.rank
decreasing_by exact Session.resume_rank (by assumption)

private theorem proceed_rests {a : Activity τ} {stage : Stage} (found : a.stage? call = some stage) (progress : Progress) :
    (a.proceed call progress).Rests call := by
  unfold proceed
  split
  · exact rests_finish a _
  next phase =>
    split
    · exact .inr (waits_setStage (a := { a with gate := { a.gate with calls := a.gate.calls ++ [call] } }) found
        ⟨phase, .inl rfl⟩)
    · exact submit_rests found phase

theorem runCall_rests {a : Activity τ} {stage : Stage} (found : a.stage? call = some stage) :
    (a.runCall call).Rests call := by
  have adjusted {b : Activity τ} (rests : b.Rests call) : b.adjustPump.Rests call :=
    rests.passes (stage?_adjustPump b) (adjustPump_passes b)
  unfold runCall
  rw [found]
  cases stage with
  | starting operation =>
    exact adjusted (proceed_rests (a := { a with session := (a.session.start operation).2 }) found _)
  | held phase => exact .inr ⟨phase, .inl found⟩
  | released phase => exact adjusted (submit_rests found phase)
  | sent phase => exact .inr ⟨phase, .inr found⟩
  | answered phase answer =>
    exact adjusted (proceed_rests (a := { a with session := (a.session.resume phase answer).2 }) found _)

theorem move_own {a : Activity τ} (wants : .call call ∈ a.ready) :
    a.move (.turn (.call call)) = runCall { a with ready := a.ready.erase (.call call) } call := if_pos wants

/-- Whoever waits behind fewer others than there are turns to come gets one of them. Until then it stands where it
stood, or has been given leave to go on, or an answer. -/
theorem runTasks_reaches {turns ahead : Nat} (enough : ahead < turns) {a : Activity τ} (queues : Queues call ahead a.ready) :
    ∃ earlier later : List Task, Passes call a (a.moves (earlier.map .turn)) ∧
      .call call ∈ (a.moves (earlier.map .turn)).ready ∧
      runTasks turns a = ((a.moves (earlier.map .turn)).move (.turn (.call call))).moves (later.map .turn) := by
  induction turns generalizing a ahead with
  | zero => exact absurd enough (Nat.not_lt_zero _)
  | succ turns ih =>
    cases wanting : a.ready with
    | nil =>
      have wants := queues.mem
      rw [wanting] at wants
      cases wants
    | cons task ready =>
      have ran : runTasks (turns + 1) a = runTasks turns (a.move (.turn task)) := by
        rw [move_turn wanting, runTasks, wanting]
      rw [ran]
      by_cases own : task = .call call
      · subst own
        obtain ⟨later, rest⟩ := runTasks_moves turns (a.move (.turn (.call call)))
        exact ⟨[], later, .refl call a, wanting ▸ List.mem_cons_self, rest⟩
      · rw [wanting] at queues
        obtain ⟨less, rfl, waits⟩ := queues.next own
        have passed : Queues call less (a.move (.turn task)).ready := by
          rw [move_turn wanting]
          exact (run_passes own { a with ready }).queues less waits
        obtain ⟨earlier, later, waited, wants, rest⟩ := ih (Nat.lt_of_succ_lt_succ enough) passed
        exact ⟨task :: earlier, later, (move_passes a (.turn task) own).trans waited, wants, rest⟩

end

end Activity

end Subscriber
