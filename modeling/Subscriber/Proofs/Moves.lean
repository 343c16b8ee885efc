import Subscriber.Proofs.Histories

/-! A session at work, move by move: steps from outside and the turns of tasks, in any order. What the operations of a
session keep, every move keeps; and what a move means to a call that has no part in it is very little. -/

namespace Subscriber

namespace Session

structure Advancing (holds : Session → Prop) : Prop where
  start : ∀ session operation, holds session → holds (session.start operation).2
  resume : ∀ session phase answer, holds session → holds (session.resume phase answer).2

/-- What everything keeps that is not done to one stream in particular. -/
structure Stable (holds : Session → Prop) : Prop extends Advancing holds where
  openStream : ∀ session : Session, holds session → holds { session with fanout := session.fanout.openStream.2 }
  publish : ∀ session generation item, holds session → holds (session.publish generation item)
  finish : ∀ session generation, holds session → holds (session.finish generation)
  note : ∀ session notice, holds session → holds (session.note notice)

structure Lasting (holds : Session → Prop) : Prop extends Stable holds where
  poll : ∀ session stream, holds session → holds (session.poll stream).2
  drop : ∀ session stream, holds session → holds (session.drop stream)

/-- What all of that keeps but for the steps of calls. -/
structure Passive (holds : Session → Prop) : Prop where
  openStream : ∀ session : Session, holds session → holds { session with fanout := session.fanout.openStream.2 }
  publish : ∀ session generation item, holds session → holds (session.publish generation item)
  finish : ∀ session generation, holds session → holds (session.finish generation)
  note : ∀ session notice, holds session → holds (session.note notice)

theorem Stable.passive {holds : Session → Prop} (stable : Stable holds) : Passive holds :=
  ⟨stable.openStream, stable.publish, stable.finish, stable.note⟩

private theorem drainOnto_holds {holds : Session → Prop} {stream : Nat}
    (poll : ∀ session : Session, holds session → holds (session.poll stream).2) (items : List Item) (more : Nat)
    (session : Session) (before : holds session) : holds (session.drainOnto items more stream).2.2 := by
  induction more generalizing items session with
  | zero => exact poll session before
  | succ more ih =>
    have polled := poll session before
    unfold drainOnto
    split
    next found =>
      rw [found] at polled
      exact ih _ _ polled
    next found =>
      rw [found] at polled
      exact polled

end Session

namespace Activity

/-- What can come next: a step from outside, or the turn of a task that wants one. -/
inductive Move (τ : Type) [Transport τ] where
  | step (step : Step τ)
  | turn (task : Task)

section
variable {τ : Type} [Transport τ]

def Move.call? : Move τ → Option Nat
  | .step (.call call _) => some call
  | _ => none

/-- No two calls have the same number. -/
def Numbered (moves : List (Move τ)) : Prop := (moves.filterMap Move.call?).Nodup

/-- Nobody is given a turn who does not want one. -/
def move (activity : Activity τ) : Move τ → Activity τ
  | .step step => (activity.begin step).2
  | .turn task =>
    if task ∈ activity.ready then { activity with ready := activity.ready.erase task }.run task else activity

def moves (activity : Activity τ) (list : List (Move τ)) : Activity τ := list.foldl move activity

theorem moves_append (activity : Activity τ) (earlier later : List (Move τ)) :
    activity.moves (earlier ++ later) = (activity.moves earlier).moves later := List.foldl_append

theorem move_turn {activity : Activity τ} {task : Task} {ready : List Task} (wanting : activity.ready = task :: ready) :
    activity.move (.turn task) = { activity with ready }.run task := by
  have wants : task ∈ activity.ready := wanting ▸ List.mem_cons_self
  change (if task ∈ activity.ready then { activity with ready := activity.ready.erase task }.run task else activity) = _
  rw [if_pos wants, wanting, List.erase_cons_head]

theorem runTasks_moves (turns : Nat) (activity : Activity τ) :
    ∃ tasks : List Task, runTasks turns activity = activity.moves (tasks.map .turn) := by
  induction turns generalizing activity with
  | zero => exact ⟨[], rfl⟩
  | succ turns ih =>
    unfold runTasks
    split
    · exact ⟨[], rfl⟩
    next task ready wanting =>
      obtain ⟨tasks, later⟩ := ih ({ activity with ready }.run task)
      have turned := move_turn wanting
      rw [← turned] at later ⊢
      exact ⟨task :: tasks, later⟩

/-- A step with all that follows from it is one of the ways to move. -/
theorem step_moves (activity : Activity τ) (step : Step τ) :
    ∃ tasks : List Task, (activity.step step).2 = activity.moves (.step step :: tasks.map .turn) :=
  runTasks_moves _ (activity.begin step).2

section
variable {holds : Session → Prop}

theorem adjustPump_session (a : Activity τ) : a.adjustPump.session = a.session := by
  have stopped : a.stopPump.session = a.session := by
    unfold stopPump
    split <;> rfl
  unfold adjustPump
  split
  · exact stopped
  · split
    · rfl
    · exact (wake_session _ _).trans stopped

theorem submit_advances (advancing : Session.Advancing holds) (a : Activity τ) (call : Nat) (phase : Phase)
    (before : holds a.session) : holds (a.submit call phase).session := by
  unfold submit
  split
  · rw [wake_session]
    exact before
  next answer transport _ =>
    have resumed := advancing.resume a.session phase answer before
    split
    next found =>
      rw [found] at resumed
      exact resumed
    next found =>
      rw [found] at resumed
      split
      · exact resumed
      · exact submit_advances advancing _ call _ resumed
termination_by phase.rank
decreasing_by exact Session.resume_rank (by assumption)

theorem proceed_advances (advancing : Session.Advancing holds) (a : Activity τ) (call : Nat) (progress : Progress)
    (before : holds a.session) : holds (a.proceed call progress).session := by
  unfold proceed
  split
  · exact before
  · split
    · exact before
    · exact submit_advances advancing a call _ before

theorem runCall_advances (advancing : Session.Advancing holds) (a : Activity τ) (call : Nat) (before : holds a.session) :
    holds (a.runCall call).session := by
  unfold runCall
  split
  next operation _ =>
    rw [adjustPump_session]
    exact proceed_advances advancing _ call _ (advancing.start a.session operation before)
  next phase _ =>
    rw [adjustPump_session]
    exact submit_advances advancing a call phase before
  next phase answer _ =>
    rw [adjustPump_session]
    exact proceed_advances advancing _ call _ (advancing.resume a.session phase answer before)
  · exact before

omit [Transport τ] in
theorem foldl_hear_passive (passive : Session.Passive holds) (signals : List (Signal Error)) (a : Activity τ)
    (before : holds a.session) : holds (signals.foldl hear a).session := by
  induction signals generalizing a with
  | nil => exact before
  | cons signal signals ih =>
    apply ih
    cases signal with
    | answer call answer =>
      unfold hear
      dsimp only
      split
      · rw [wake_session]
        exact before
      · exact before
    | admitted call =>
      unfold hear
      dsimp only
      split
      · rw [wake_session]
        exact before
      · exact before
    | observed =>
      unfold hear
      dsimp only
      split
      · rw [wake_session]
        exact before
      · exact before
    | notice notice => exact passive.note a.session notice before

theorem runPump_passive (passive : Session.Passive holds) (budget : Nat) (a : Activity τ) (before : holds a.session) :
    holds (a.runPump budget).session := by
  induction budget generalizing a with
  | zero =>
    unfold runPump
    split
    · exact before
    · rw [wake_session]
      exact before
  | succ budget ih =>
    unfold runPump
    split
    · exact before
    next pump _ =>
      have same : (a.pollPump pump (askSide pump)).2.session = a.session := rfl
      rw [← same] at before
      split
      next found =>
        rw [found] at before
        exact before
      next found =>
        rw [found] at before
        rw [adjustPump_session]
        exact passive.finish _ _ before
      next message polled found =>
        rw [found] at before
        exact ih _ (passive.publish polled.session pump.generation (.ok message) before)
      next error polled found =>
        rw [found] at before
        rw [adjustPump_session]
        exact passive.publish polled.session pump.generation (.error (.upstream error)) before

private theorem run_stable (stable : Session.Stable holds) (a : Activity τ) (task : Task) (before : holds a.session) :
    holds (a.run task).session := by
  cases task with
  | call call => exact runCall_advances stable.toAdvancing a call before
  | background => exact foldl_hear_passive stable.passive _ _ before
  | pump => exact runPump_passive stable.passive pumpTurn a before

omit [Transport τ] in
theorem letThrough_session (a : Activity τ) (call : Nat) : (a.letThrough call).2.session = a.session := by
  unfold letThrough
  split
  · exact wake_session _ _
  · rfl

theorem begin_poll_none {a : Activity τ} {stream : Nat} (found : a.session.fanout.stream? stream = none) :
    a.begin (.poll stream) = (.noStream, a) := by
  rw [begin, found]

theorem begin_poll_some {a : Activity τ} {stream : Nat} {attachment : Attachment}
    (found : a.session.fanout.stream? stream = some attachment) : a.begin (.poll stream) =
      (.item (a.session.poll stream).1, adjustPump { a with session := (a.session.poll stream).2 }) := by
  rw [begin, found]

theorem begin_drain_none {a : Activity τ} {stream : Nat} (found : a.session.fanout.stream? stream = none) :
    a.begin (.drain stream) = (.noStream, a) := by
  rw [begin, found]

theorem begin_drain_some {a : Activity τ} {stream : Nat} {attachment : Attachment}
    (found : a.session.fanout.stream? stream = some attachment) : a.begin (.drain stream) =
      (.items (a.session.drain stream).1 (a.session.drain stream).2.1,
        adjustPump { a with session := (a.session.drain stream).2.2 }) := by
  rw [begin, found]

theorem begin_poll_session (a : Activity τ) (stream : Nat) :
    (a.begin (.poll stream)).2.session = a.session ∨ (a.begin (.poll stream)).2.session = (a.session.poll stream).2 := by
  cases found : a.session.fanout.stream? stream with
  | none =>
    rw [begin_poll_none found]
    exact .inl rfl
  | some attachment =>
    rw [begin_poll_some found]
    exact .inr (adjustPump_session _)

theorem begin_drain_session (a : Activity τ) (stream : Nat) :
    (a.begin (.drain stream)).2.session = a.session ∨
      (a.begin (.drain stream)).2.session = (a.session.drain stream).2.2 := by
  cases found : a.session.fanout.stream? stream with
  | none =>
    rw [begin_drain_none found]
    exact .inl rfl
  | some attachment =>
    rw [begin_drain_some found]
    exact .inr (adjustPump_session _)

theorem begin_drop_session (a : Activity τ) (stream : Nat) :
    (a.begin (.drop stream)).2.session = a.session.drop stream :=
  adjustPump_session { a with session := a.session.drop stream }

theorem begin_passive (passive : Session.Passive holds) (a : Activity τ) (step : Step τ)
    (other : match step with
      | .poll _ | .drain _ | .drop _ => False
      | _ => True) (before : holds a.session) : holds (a.begin step).2.session := by
  cases step with
  | call id operation =>
    change holds (Activity.start a id operation).session
    unfold start
    rw [wake_session]
    exact before
  | abandon call =>
    change holds (a.abandon call).2.session
    unfold abandon
    split <;> exact before
  | openStream => exact passive.openStream a.session before
  | poll stream => exact other.elim
  | drain stream => exact other.elim
  | drop stream => exact other.elim
  | setGate shut => exact before
  | letThrough call =>
    change holds (a.letThrough call).2.session
    rw [letThrough_session]
    exact before
  | letFirstThrough =>
    unfold begin
    dsimp only
    split
    · exact before
    next call _ _ =>
      change holds (a.letThrough call).2.session
      rw [letThrough_session]
      exact before
  | cut kind =>
    change holds (a.cut kind).session
    unfold cut
    split
    · exact before
    · rw [wake_session]
      exact before
  | transport event =>
    change holds (a.affect event).session
    unfold affect
    dsimp only
    rw [wake_session]
    exact foldl_hear_passive passive _ _ before

theorem begin_stable (stable : Session.Stable holds) (a : Activity τ) (step : Step τ)
    (other : match step with
      | .poll _ | .drain _ | .drop _ => False
      | _ => True) (before : holds a.session) : holds (a.begin step).2.session :=
  begin_passive stable.passive a step other before

/-- No step from outside goes on with a call. -/
theorem begin_outside (passive : Session.Passive holds)
    (poll : ∀ session stream, holds session → holds (Session.poll session stream).2)
    (drop : ∀ session stream, holds session → holds (Session.drop session stream)) (a : Activity τ) (step : Step τ)
    (before : holds a.session) : holds (a.begin step).2.session := by
  cases step with
  | poll stream =>
    rcases begin_poll_session a stream with same | polled
    · exact same ▸ before
    · exact polled ▸ poll a.session stream before
  | drain stream =>
    rcases begin_drain_session a stream with same | drained
    · exact same ▸ before
    · exact drained ▸ Session.drainOnto_holds (fun session => poll session stream) [] _ a.session before
  | drop stream => exact (begin_drop_session a stream).symm ▸ drop a.session stream before
  | _ => exact begin_passive passive a _ trivial before

/-- Whoever takes a turn keeps what the session's operations keep. -/
theorem turn_stable (stable : Session.Stable holds) (a : Activity τ) (task : Task) (before : holds a.session) :
    holds (a.move (.turn task)).session := by
  unfold move
  dsimp only
  split
  · exact run_stable stable { a with ready := a.ready.erase task } task before
  · exact before

theorem move_lasting (lasting : Session.Lasting holds) (a : Activity τ) (move : Move τ) (before : holds a.session) :
    holds (a.move move).session := by
  cases move with
  | turn task => exact turn_stable lasting.toStable a task before
  | step step => exact begin_outside lasting.passive lasting.poll lasting.drop a step before

theorem moves_lasting (lasting : Session.Lasting holds) (a : Activity τ) (list : List (Move τ)) (before : holds a.session) :
    holds (a.moves list).session := by
  induction list generalizing a with
  | nil => exact before
  | cons move list ih => exact ih (a.move move) (move_lasting lasting a move before)

end

end

end Activity

end Subscriber
