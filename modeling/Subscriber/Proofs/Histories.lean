import Mathlib.Data.List.Nodup
import Subscriber.Activity

/-! Histories of a session at work: which states can be reached, and what each part of the machinery
leaves alone. Steps from outside may come between any two turns, and turns may be given in any order,
so what is proved of all histories does not depend on how tasks are scheduled. -/

namespace Subscriber

namespace Merge
variable {σ α β : Type} {ask : Side → σ → Poll α × σ} {view : σ → β}

private theorem pollLast_keeps (asked : ∀ side source, view (ask side source).2 = view source)
    (merge : Merge) (side : Side) (source : σ) : view (merge.pollLast ask side source).2.2 = view source := by
  have kept := asked side source
  unfold pollLast
  split
  all_goals
    next found =>
      rw [found] at kept
      exact kept

/-- A poll of two merged sides changes their source only by asking them. -/
theorem poll_keeps (asked : ∀ side source, view (ask side source).2 = view source)
    (merge : Merge) (source : σ) : view (merge.poll ask source).2.2 = view source := by
  unfold poll
  split
  · rfl
  · exact pollLast_keeps asked merge .right source
  · exact pollLast_keeps asked merge .left source
  · have first := asked merge.turn source
    dsimp only
    split
    next found => rw [found] at first; exact first
    next between found =>
      rw [found] at first
      exact (pollLast_keeps asked _ _ between).trans first
    next between found =>
      rw [found] at first
      have second := asked merge.turn.other between
      split
      all_goals
        next found =>
          rw [found] at second
          exact second.trans first

end Merge

namespace Session

/-- What a session tracks and has told its listener is the same; only its streams may differ. -/
structure SameRecord (before after : Session) : Prop where
  channels : after.channels = before.channels
  patterns : after.patterns = before.patterns
  cancelled : after.cancelled = before.cancelled
  changes : after.changes = before.changes

theorem SameRecord.refl (session : Session) : SameRecord session session := ⟨rfl, rfl, rfl, rfl⟩

theorem SameRecord.trans {a b c : Session} (first : SameRecord a b) (second : SameRecord b c) : SameRecord a c :=
  ⟨second.channels.trans first.channels, second.patterns.trans first.patterns,
    second.cancelled.trans first.cancelled, second.changes.trans first.changes⟩

theorem SameRecord.tracked {a b : Session} (same : SameRecord a b) (kind : Message.Kind) :
    b.tracked kind = a.tracked kind := by
  cases kind
  · exact same.channels
  · exact same.patterns

theorem publish_sameRecord (session : Session) (generation : Nat) (item : Item) :
    SameRecord session (session.publish generation item) := by
  unfold publish
  cases item with
  | ok message => exact ⟨rfl, rfl, rfl, rfl⟩
  | error interruption => dsimp only; split <;> exact ⟨rfl, rfl, rfl, rfl⟩

theorem finish_sameRecord (session : Session) (generation : Nat) :
    SameRecord session (session.finish generation) := by
  unfold finish
  dsimp only
  split <;> exact ⟨rfl, rfl, rfl, rfl⟩

theorem poll_sameRecord (session : Session) (stream : Nat) : SameRecord session (session.poll stream).2 := by
  unfold poll
  dsimp only
  split <;> exact ⟨rfl, rfl, rfl, rfl⟩

theorem drop_sameRecord (session : Session) (stream : Nat) : SameRecord session (session.drop stream) := by
  unfold drop
  dsimp only
  split <;> exact ⟨rfl, rfl, rfl, rfl⟩

private theorem drainOnto_sameRecord (items : List Item) (more : Nat) (session : Session) (stream : Nat) :
    SameRecord session (session.drainOnto items more stream).2.2 := by
  induction more generalizing items session with
  | zero => exact poll_sameRecord session stream
  | succ more ih =>
    have polled := poll_sameRecord session stream
    unfold drainOnto
    split
    next found =>
      rw [found] at polled
      exact polled.trans (ih _ _)
    next found =>
      rw [found] at polled
      exact polled

end Session

namespace Activity

section
variable {τ : Type} [Transport τ]

/-- The steps from outside that lead to a state. Every call has a number of its own; `allowed` says
which turns a history may give. -/
inductive Reaches (allowed : Activity τ → Task → Prop) (first : Activity τ) :
    List (Step τ) → Activity τ → Prop where
  | first : Reaches allowed first [] first
  | step {steps activity} (reached : Reaches allowed first steps activity) (step : Step τ)
      (fresh : ∀ call operation, step = .call call operation → ∀ other, Step.call call other ∉ steps) :
      Reaches allowed first (steps ++ [step]) (activity.begin step).2
  | turn {steps activity task} (reached : Reaches allowed first steps activity)
      (ready : task ∈ activity.ready) (permitted : allowed activity task) :
      Reaches allowed first steps ({ activity with ready := activity.ready.erase task }.run task)

def Permits (allowed : Activity τ → Task → Prop) : Nat → Activity τ → Prop
  | 0, _ => True
  | turns + 1, activity =>
    match activity.ready with
    | [] => True
    | task :: ready => allowed activity task ∧ Permits allowed turns ({ activity with ready }.run task)

section
variable {allowed : Activity τ → Task → Prop} {a : Activity τ}

theorem Permits.turn {turns : Nat} {task : Task} {rest : List Task} (permits : Permits allowed (turns + 1) a)
    (front : a.ready = task :: rest) : allowed a task ∧ Permits allowed turns ({ a with ready := rest }.run task) := by
  simpa only [Permits, front] using permits

theorem Permits.fewer {few many : Nat} (permits : Permits allowed many a) (fewer : few ≤ many) : Permits allowed few a := by
  induction few generalizing many a with
  | zero => trivial
  | succ few ih =>
    cases many with
    | zero => exact absurd fewer (Nat.not_succ_le_zero _)
    | succ many =>
      cases front : a.ready with
      | nil => simp only [Permits, front]
      | cons task rest =>
        obtain ⟨first, later⟩ := permits.turn front
        simp only [Permits, front]
        exact ⟨first, ih later (Nat.le_of_succ_le_succ fewer)⟩

end

instance decidablePermits (allowed : Activity τ → Task → Prop) [∀ activity task, Decidable (allowed activity task)] :
    ∀ (turns : Nat) (activity : Activity τ), Decidable (Permits allowed turns activity)
  | 0, _ => isTrue trivial
  | turns + 1, activity =>
    have := decidablePermits allowed turns
    match known : activity.ready with
    | [] => isTrue (by simp only [Permits, known])
    | task :: ready =>
      decidable_of_iff (allowed activity task ∧ Permits allowed turns ({ activity with ready }.run task)) <| by
        simp only [Permits, known]

private theorem Reaches.runTasks {allowed : Activity τ → Task → Prop} {first activity : Activity τ}
    {steps : List (Step τ)} (reached : Reaches allowed first steps activity) (turns : Nat)
    (permitted : Permits allowed turns activity) : Reaches allowed first steps (runTasks turns activity) := by
  induction turns generalizing activity with
  | zero => exact reached
  | succ turns ih =>
    cases wanting : activity.ready with
    | nil => simpa only [Activity.runTasks, wanting] using reached
    | cons task ready =>
      simp only [Permits, wanting] at permitted
      simp only [Activity.runTasks, wanting]
      have turned := Reaches.turn reached (wanting ▸ List.mem_cons_self) permitted.1
      rw [wanting, List.erase_cons_head] at turned
      exact ih turned permitted.2

theorem Reaches.andSettle {allowed : Activity τ → Task → Prop} {first activity : Activity τ}
    {steps : List (Step τ)} (reached : Reaches allowed first steps activity) (step : Step τ)
    (fresh : ∀ call operation, step = .call call operation → ∀ other, Step.call call other ∉ steps)
    (permitted : Permits allowed (activity.begin step).2.turns (activity.begin step).2) :
    Reaches allowed first (steps ++ [step]) (activity.step step).2 :=
  (reached.step step fresh).runTasks _ permitted

end

section
variable {τ : Type}

private theorem lookup_mem {calls : List (Nat × Stage)} {call : Nat} {stage : Stage}
    (found : calls.lookup call = some stage) : (call, stage) ∈ calls := by
  obtain ⟨before, after, rfl, -⟩ := List.lookup_eq_some_iff.mp found
  simp

theorem stage?_mem {activity : Activity τ} {call : Nat} {stage : Stage}
    (found : activity.stage? call = some stage) : (call, stage) ∈ activity.calls := lookup_mem found

theorem mem_setStage {activity : Activity τ} {call id : Nat} {new stage : Stage} :
    (id, stage) ∈ (activity.setStage call new).calls ↔
      (id = call ∧ stage = new ∧ ∃ old, (call, old) ∈ activity.calls) ∨
      (id ≠ call ∧ (id, stage) ∈ activity.calls) := by
  simp only [setStage, List.mem_map, Prod.exists]
  constructor
  · rintro ⟨other, old, member, same⟩
    split at same
    next selected =>
      subst selected
      cases same
      exact Or.inl ⟨rfl, rfl, old, member⟩
    next different =>
      cases same
      exact Or.inr ⟨different, member⟩
  · rintro (⟨rfl, rfl, old, member⟩ | ⟨different, member⟩)
    · exact ⟨id, old, member, by simp⟩
    · exact ⟨id, stage, member, by simp [different]⟩

theorem mem_forget {activity : Activity τ} {call id : Nat} {stage : Stage} :
    (id, stage) ∈ (activity.forget call).calls ↔ id ≠ call ∧ (id, stage) ∈ activity.calls := by
  simp only [forget, List.mem_filter, bne_iff_ne, and_comm]

theorem stage_unique {activity : Activity τ} (distinct : (activity.calls.map Prod.fst).Nodup) {call : Nat}
    {a b : Stage} (first : (call, a) ∈ activity.calls) (second : (call, b) ∈ activity.calls) : a = b :=
  congrArg Prod.snd (List.inj_on_of_nodup_map distinct first second rfl)

theorem distinct_setStage {activity : Activity τ} (distinct : (activity.calls.map Prod.fst).Nodup) (call : Nat)
    (stage : Stage) : ((activity.setStage call stage).calls.map Prod.fst).Nodup := by
  have same : (activity.setStage call stage).calls.map Prod.fst = activity.calls.map Prod.fst := by
    simp only [setStage, List.map_map]
    apply List.map_congr_left
    intro entry _
    dsimp only [Function.comp]
    split
    next selected => exact selected.symm
    next => rfl
  exact same ▸ distinct

theorem distinct_forget {activity : Activity τ} (distinct : (activity.calls.map Prod.fst).Nodup) (call : Nat) :
    ((activity.forget call).calls.map Prod.fst).Nodup :=
  (List.filter_sublist.map _).nodup distinct

@[simp] theorem wake_calls (activity : Activity τ) (task : Task) : (activity.wake task).calls = activity.calls := by
  unfold wake; split <;> rfl

@[simp] theorem wake_session (activity : Activity τ) (task : Task) :
    (activity.wake task).session = activity.session := by
  unfold wake; split <;> rfl

@[simp] theorem wake_transport (activity : Activity τ) (task : Task) :
    (activity.wake task).transport = activity.transport := by
  unfold wake; split <;> rfl

@[simp] theorem wake_gate (activity : Activity τ) (task : Task) : (activity.wake task).gate = activity.gate := by
  unfold wake; split <;> rfl

@[simp] theorem wake_pump (activity : Activity τ) (task : Task) : (activity.wake task).pump = activity.pump := by
  unfold wake; split <;> rfl

@[simp] theorem wake_finished (activity : Activity τ) (task : Task) :
    (activity.wake task).finished = activity.finished := by
  unfold wake; split <;> rfl

theorem mem_wake (activity : Activity τ) (task : Task) : task ∈ (activity.wake task).ready := by
  unfold wake
  split
  next ready => exact List.contains_iff_mem.mp ready
  · exact List.mem_append_right _ List.mem_cons_self

theorem wake_mono {activity : Activity τ} {task : Task} (ready : task ∈ activity.ready) (other : Task) :
    task ∈ (activity.wake other).ready := by
  unfold wake
  split
  · exact ready
  · exact List.mem_append_left _ ready

/-- What only has to do with the delivery of messages; `view` is what there is of a transport besides
its observers. -/
structure Delivers {α : Type} (view : τ → α) (before after : Activity τ) : Prop where
  calls : after.calls = before.calls
  gate : after.gate = before.gate
  finished : after.finished = before.finished
  session : Session.SameRecord before.session after.session
  transport : view after.transport = view before.transport

end

namespace Delivers
variable {τ α : Type} {view : τ → α} {a b c : Activity τ}

theorem refl (a : Activity τ) : Delivers view a a := ⟨rfl, rfl, rfl, .refl _, rfl⟩

theorem trans (first : Delivers view a b) (second : Delivers view b c) : Delivers view a c :=
  ⟨second.calls.trans first.calls, second.gate.trans first.gate, second.finished.trans first.finished,
    first.session.trans second.session, second.transport.trans first.transport⟩

theorem wake (same : Delivers view a b) (task : Task) : Delivers view a (b.wake task) :=
  ⟨by simp [same.calls], by simp [same.gate], by simp [same.finished], by simpa using same.session,
    by simp [same.transport]⟩

theorem withSession (a : Activity τ) {session : Session} (same : Session.SameRecord a.session session) :
    Delivers view a { a with session } := ⟨rfl, rfl, rfl, same, rfl⟩

end Delivers

section
variable {τ α : Type} [Transport τ] {view : τ → α}

/-- Observers come and go and are read without a change to the rest of the transport. -/
structure Steady (view : τ → α) : Prop where
  observe : ∀ transport kind, view (Transport.observe transport kind).2 = view transport
  release : ∀ transport observer, view (Transport.release transport observer) = view transport
  poll : ∀ transport observer, view (Transport.poll transport observer).2 = view transport

private theorem stopPump_delivers (steady : Steady view) (a : Activity τ) : Delivers view a a.stopPump := by
  unfold stopPump
  split
  · exact Delivers.refl a
  · refine ⟨rfl, rfl, rfl, .refl _, ?_⟩
    exact (steady.release _ _).trans (steady.release _ _)

private theorem startPump_delivers (steady : Steady view) (a : Activity τ) (generation : Nat) :
    Delivers view a (a.startPump generation) := by
  unfold startPump
  apply Delivers.wake
  exact ⟨rfl, rfl, rfl, .refl _, (steady.observe _ _).trans (steady.observe _ _)⟩

theorem adjustPump_delivers (steady : Steady view) (a : Activity τ) : Delivers view a a.adjustPump := by
  unfold adjustPump
  split
  · exact stopPump_delivers steady a
  · split
    · exact Delivers.refl a
    · exact (stopPump_delivers steady a).trans (startPump_delivers steady _ _)

private theorem askSide_steady (steady : Steady view) (pump : Pump) (side : Side) (transport : τ) :
    view (askSide pump side transport).2 = view transport := by
  unfold askSide
  cases side
  all_goals
    dsimp only
    split
    · rfl
    · exact steady.poll _ _

omit [Transport τ] in
private theorem pollPump_delivers (a : Activity τ) (pump : Pump)
    (ask : Side → τ → Poll (Except Error Message) × τ)
    (asked : ∀ side transport, view (ask side transport).2 = view transport) :
    Delivers view a (a.pollPump pump ask).2 :=
  ⟨rfl, rfl, rfl, .refl _, Merge.poll_keeps asked pump.merge a.transport⟩

theorem runPump_delivers (steady : Steady view) (budget : Nat) (a : Activity τ) :
    Delivers view a (a.runPump budget) := by
  induction budget generalizing a with
  | zero =>
    unfold runPump
    split
    · exact Delivers.refl a
    · exact (pollPump_delivers a _ _ fun _ _ => rfl).wake _
  | succ budget ih =>
    unfold runPump
    split
    · exact Delivers.refl a
    next pump _ =>
      have polled := pollPump_delivers a pump (askSide pump) (askSide_steady steady pump)
      split
      next found =>
        rw [found] at polled
        exact polled
      next found =>
        rw [found] at polled
        exact polled.trans ((Delivers.withSession _ (Session.finish_sameRecord _ _)).trans (adjustPump_delivers steady _))
      next found =>
        rw [found] at polled
        exact polled.trans ((Delivers.withSession _ (Session.publish_sameRecord _ _ _)).trans (ih _))
      next found =>
        rw [found] at polled
        exact polled.trans ((Delivers.withSession _ (Session.publish_sameRecord _ _ _)).trans (adjustPump_delivers steady _))

theorem begin_delivers (steady : Steady view) (a : Activity τ) (step : Step τ)
    (quiet : match step with
      | .openStream | .poll _ | .drain _ | .drop _ | .cut _ => True
      | _ => False) : Delivers view a (a.begin step).2 := by
  cases step with
  | openStream => exact ⟨rfl, rfl, rfl, ⟨rfl, rfl, rfl, rfl⟩, rfl⟩
  | poll stream =>
    unfold begin
    dsimp only
    split
    · exact Delivers.refl a
    · exact (Delivers.withSession a (Session.poll_sameRecord _ stream)).trans (adjustPump_delivers steady _)
  | drain stream =>
    unfold begin
    dsimp only
    split
    · exact Delivers.refl a
    · exact (Delivers.withSession a (Session.drainOnto_sameRecord _ _ _ stream)).trans (adjustPump_delivers steady _)
  | drop stream => exact (Delivers.withSession a (Session.drop_sameRecord _ stream)).trans (adjustPump_delivers steady _)
  | cut kind =>
    change Delivers view a (a.cut kind)
    unfold cut
    split
    · exact Delivers.refl a
    · apply Delivers.wake
      exact ⟨rfl, rfl, rfl, .refl _, rfl⟩
  | _ => exact False.elim quiet

end

end Activity

end Subscriber
