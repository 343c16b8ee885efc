import Subscriber.Loopback
import Subscriber.Proofs.SessionAgreement

/-! A session over a connection that answers at once, with any number of calls under way. Whatever the
order of calls, releases and turns, when no call is unfinished the session tracks exactly what the
commands have left subscribed, and after a cancellation that is nothing. -/

namespace Subscriber

open Targets (replay)

def Stage.phase? : Stage → Option Phase
  | .starting _ => none
  | .held phase | .released phase | .sent phase | .answered phase _ => some phase

namespace Activity

section
variable {τ : Type}

def Awaits (activity : Activity τ) (phase : Phase) : Prop :=
  ∃ call stage, (call, stage) ∈ activity.calls ∧ stage.phase? = some phase

def AwaitsBeside (activity : Activity τ) (call : Nat) (phase : Phase) : Prop :=
  ∃ other stage, other ≠ call ∧ (other, stage) ∈ activity.calls ∧ stage.phase? = some phase

private theorem awaits_forget (activity : Activity τ) (call : Nat) (phase : Phase) :
    (activity.forget call).Awaits phase ↔ activity.AwaitsBeside call phase := by
  simp only [Awaits, AwaitsBeside, mem_forget, and_assoc]

private theorem awaits_setStage {activity : Activity τ} {call : Nat} {old new : Stage} (present : (call, old) ∈ activity.calls)
    (phase : Phase) : (activity.setStage call new).Awaits phase ↔
      new.phase? = some phase ∨ activity.AwaitsBeside call phase := by
  constructor
  · rintro ⟨other, stage, member, same⟩
    rcases mem_setStage.mp member with ⟨-, rfl, -⟩ | ⟨different, member⟩
    · exact Or.inl same
    · exact Or.inr ⟨other, stage, different, member, same⟩
  · rintro (same | ⟨other, stage, different, member, same⟩)
    · exact ⟨call, new, mem_setStage.mpr (Or.inl ⟨rfl, rfl, old, present⟩), same⟩
    · exact ⟨other, stage, mem_setStage.mpr (Or.inr ⟨different, member⟩), same⟩

theorem awaits_split {activity : Activity τ} (distinct : (activity.calls.map Prod.fst).Nodup) {call : Nat}
    {stage : Stage} (present : (call, stage) ∈ activity.calls) (phase : Phase) :
    activity.Awaits phase ↔ stage.phase? = some phase ∨ activity.AwaitsBeside call phase := by
  constructor
  · rintro ⟨other, found, member, same⟩
    by_cases selected : other = call
    · subst selected
      exact Or.inl (stage_unique distinct present member ▸ same)
    · exact Or.inr ⟨other, found, selected, member, same⟩
  · rintro (same | ⟨other, found, -, member, same⟩)
    · exact ⟨call, stage, present, same⟩
    · exact ⟨other, found, member, same⟩

end

end Activity

namespace Loopback

theorem steady : Activity.Steady Loopback.commands := ⟨fun _ _ => rfl, fun _ _ => rfl, fun _ _ => rfl⟩

theorem steady_refusal : Activity.Steady Loopback.refusal := ⟨fun _ _ => rfl, fun _ _ => rfl, fun _ _ => rfl⟩

private theorem affect_delivers (activity : Activity Loopback) (event : Event) :
    Activity.Delivers Loopback.commands activity (activity.affect event) := by
  have heard (signals : List (Signal Error)) (some : signals = [] ∨ signals = [.observed])
      (transport : Loopback) (kept : transport.commands = activity.transport.commands) :
      Activity.Delivers Loopback.commands activity (signals.foldl Activity.hear { activity with transport }) := by
    have moved : Activity.Delivers Loopback.commands activity { activity with transport } :=
      ⟨rfl, rfl, rfl, .refl _, kept⟩
    rcases some with rfl | rfl
    · exact moved
    · simp only [List.foldl_cons, List.foldl_nil, Activity.hear]
      split
      · exact moved.wake _
      · exact moved
  have observed (kind : Message.Kind) :
      activity.transport.observed kind = [] ∨ activity.transport.observed kind = [.observed] := by
    unfold Loopback.observed
    split
    · exact Or.inl rfl
    · exact Or.inr rfl
  cases event with
  | refuseNext refusal =>
    exact (heard [] (Or.inl rfl) { activity.transport with refusal := some refusal } rfl).wake _
  | emit message =>
    exact (heard _ (observed message.kind)
      { activity.transport with observers := activity.transport.observers.deliver message } rfl).wake _
  | fail kind refusal =>
    exact (heard _ (observed kind)
      { activity.transport with observers := activity.transport.observers.fail kind refusal } rfl).wake _

theorem submit_recorded {loopback after : Loopback} {call : Nat} {phase : Phase} {answer : Option (Except Error Unit)}
    (submitted : Transport.submit loopback call phase.verb phase.targets = (answer, after)) :
    ∃ given, answer = some given ∧ after.commands = Session.recorded loopback.commands phase given ∧
      after.refusal = none ∧ (loopback.refusal = none → given = .ok ()) := by
  cases told : loopback.refusal with
  | none =>
    simp only [Transport.submit, execute, told] at submitted
    cases submitted
    exact ⟨_, rfl, rfl, rfl, fun _ => rfl⟩
  | some refusal =>
    simp only [Transport.submit, execute, told] at submitted
    cases submitted
    exact ⟨_, rfl, rfl, rfl, nofun⟩

end Loopback

namespace Activity

/-- The command that the next turn of a task brings to the connection. A call that goes on in the same
turn sends more commands, but they meet no refusal: the first one has used it up. -/
def upcoming (activity : Activity Loopback) : Task → Option Phase
  | .call call =>
    match activity.stage? call with
    | some (.starting operation) =>
      match activity.session.start operation with
      | (.asking phase, _) => if activity.gate.shut then none else some phase
      | (.finished _, _) => none
    | some (.released phase) => some phase
    | _ => none
  | .background | .pump => none

/-- The turn refuses no command of a cancellation and none that takes back a late subscription. -/
def Grants (activity : Activity Loopback) (task : Task) : Prop :=
  ∀ phase, activity.upcoming task = some phase → phase.Compensates → activity.transport.refusal = none

/-- The calls under way are among those that were started, and none of them waits with an answer. -/
structure Tidy (steps : List (Step Loopback)) (activity : Activity Loopback) : Prop where
  known : ∀ id stage, (id, stage) ∈ activity.calls → ∃ operation, .call id operation ∈ steps
  distinct : (activity.calls.map Prod.fst).Nodup
  prompt : ∀ id phase answer, (id, .answered phase answer) ∉ activity.calls

/-- One call is taking its turn, which is not yet reflected in its stage. -/
structure Handling (steps : List (Step Loopback)) (activity : Activity Loopback) (call : Nat) : Prop
    extends Tidy steps activity where
  present : ∃ old, (call, old) ∈ activity.calls
  cancelled : ∀ id, .call id .cancel ∈ steps →
    activity.session.cancelled = true ∨ id ≠ call ∧ (id, .starting .cancel) ∈ activity.calls

structure Sound (steps : List (Step Loopback)) (activity : Activity Loopback) : Prop extends Tidy steps activity where
  cancelled : ∀ id, .call id .cancel ∈ steps →
    activity.session.cancelled = true ∨ (id, .starting .cancel) ∈ activity.calls
  agrees : activity.session.Agrees activity.transport.commands activity.Awaits

variable {steps : List (Step Loopback)} {activity : Activity Loopback} {call : Nat}

theorem Handling.finish (handling : Handling steps activity call)
    (agrees : activity.session.Agrees activity.transport.commands (activity.AwaitsBeside call))
    (result : Except Error Unit) : Sound steps (activity.finish call result) := by
  refine ⟨⟨?_, distinct_forget handling.distinct call, ?_⟩, ?_, ?_⟩
  · exact fun id stage member => handling.known id stage (mem_forget.mp member).2
  · exact fun id phase answer member => handling.prompt id phase answer (mem_forget.mp member).2
  · intro id started
    rcases handling.cancelled id started with cancelled | ⟨other, waits⟩
    · exact Or.inl cancelled
    · exact Or.inr (mem_forget.mpr ⟨other, waits⟩)
  · exact agrees.congr (awaits_forget activity call)

theorem Handling.setStage (handling : Handling steps activity call) {phase : Phase} {stage : Stage}
    (agrees : activity.session.Agrees activity.transport.commands (Session.adding (activity.AwaitsBeside call) phase))
    (asks : stage.phase? = some phase) (unanswered : ∀ phase answer, stage ≠ .answered phase answer) :
    Sound steps (activity.setStage call stage) := by
  obtain ⟨old, present⟩ := handling.present
  refine ⟨⟨?_, distinct_setStage handling.distinct call stage, ?_⟩, ?_, ?_⟩
  · intro id found member
    rcases mem_setStage.mp member with ⟨rfl, -, kept, member⟩ | ⟨-, member⟩
    · exact handling.known id kept member
    · exact handling.known id found member
  · intro id found answer member
    rcases mem_setStage.mp member with ⟨-, same, -⟩ | ⟨-, member⟩
    · exact unanswered _ _ same.symm
    · exact handling.prompt id found answer member
  · intro id started
    rcases handling.cancelled id started with cancelled | ⟨other, waits⟩
    · exact Or.inl cancelled
    · exact Or.inr (mem_setStage.mpr (Or.inr ⟨other, waits⟩))
  · refine agrees.congr fun found => ?_
    rw [awaits_setStage present, asks]
    simp only [Session.adding, Option.some.injEq, eq_comm]

theorem Handling.advance {after : Activity Loopback} (handling : Handling steps activity call)
    (calls : after.calls = activity.calls)
    (cancelled : activity.session.cancelled = true → after.session.cancelled = true) : Handling steps after call := by
  refine ⟨⟨?_, ?_, ?_⟩, ?_, ?_⟩
  all_goals rw [calls]
  · exact handling.known
  · exact handling.distinct
  · exact handling.prompt
  · exact handling.present
  · intro id started
    rcases handling.cancelled id started with before | waits
    · exact Or.inl (cancelled before)
    · exact Or.inr waits

theorem Handling.hold {phase : Phase} (handling : Handling steps activity call)
    (agrees : activity.session.Agrees activity.transport.commands (Session.adding (activity.AwaitsBeside call) phase))
    (gate : Gate) : Sound steps ({ activity with gate }.setStage call (.held phase)) := by
  have moved : Handling steps { activity with gate } call := handling.advance rfl id
  exact moved.setStage agrees rfl fun _ _ impossible => by cases impossible

/-- A command that goes to the connection is answered at once, and so are those that follow in the same
turn. -/
theorem Handling.submit {activity : Activity Loopback} {phase : Phase} (handling : Handling steps activity call)
    (agrees : activity.session.Agrees activity.transport.commands (Session.adding (activity.AwaitsBeside call) phase))
    (granted : phase.Compensates → activity.transport.refusal = none) : Sound steps (activity.submit call phase) := by
  unfold Activity.submit
  split
  next transport submitted =>
    obtain ⟨_, impossible, -⟩ := Loopback.submit_recorded submitted
    cases impossible
  next answer transport submitted =>
    obtain ⟨_, same, recorded, fresh, unrefused⟩ := Loopback.submit_recorded submitted
    cases same
    split
    next result session resumed =>
      have after := agrees.resumed (fun compensates => unrefused (granted compensates)) resumed
      rw [← recorded] at after
      have moved : Handling steps { activity with transport, session } call :=
        handling.advance rfl fun cancelled => (Session.resume_cancelled resumed).trans cancelled
      exact moved.finish after result
    next next session resumed =>
      have after := agrees.resumed (fun compensates => unrefused (granted compensates)) resumed
      rw [← recorded] at after
      have kept (cancelled : activity.session.cancelled = true) : session.cancelled = true :=
        (Session.resume_cancelled resumed).trans cancelled
      have moved : Handling steps { activity with transport, session } call := handling.advance rfl kept
      split
      · exact moved.hold after _
      · exact moved.submit after fun _ => fresh
termination_by phase.rank
decreasing_by exact Session.resume_rank (by assumption)

theorem Sound.ofDelivers {after : Activity Loopback} (sound : Sound steps activity)
    (same : Delivers Loopback.commands activity after) : Sound steps after := by
  refine ⟨⟨?_, ?_, ?_⟩, ?_, ?_⟩
  · rw [same.calls]; exact sound.known
  · rw [same.calls]; exact sound.distinct
  · rw [same.calls]; exact sound.prompt
  · rw [same.calls, same.session.cancelled]; exact sound.cancelled
  · have waits : after.Awaits = activity.Awaits := by unfold Awaits; rw [same.calls]
    rw [same.transport, waits]
    exact sound.agrees.ofRecord same.session

private theorem Handling.proceed {progress : Progress} (handling : Handling steps activity call)
    (agrees : activity.session.Agrees activity.transport.commands
      (Session.awaits (activity.AwaitsBeside call) progress))
    (granted : ∀ phase, progress = .asking phase → activity.gate.shut = false → phase.Compensates →
      activity.transport.refusal = none) : Sound steps (activity.proceed call progress) := by
  cases progress with
  | finished result => exact handling.finish agrees result
  | asking phase =>
    unfold Activity.proceed
    dsimp only
    split
    · exact handling.hold agrees _
    next ajar => exact handling.submit agrees (granted phase rfl (by simpa using ajar))

theorem Sound.inHand {stage : Stage} {phase : Phase} (sound : Sound steps activity)
    (present : (call, stage) ∈ activity.calls) (asks : stage.phase? = some phase) :
    Handling steps activity call ∧ activity.session.Agrees activity.transport.commands
      (Session.adding (activity.AwaitsBeside call) phase) := by
  refine ⟨⟨sound.toTidy, ⟨stage, present⟩, ?_⟩, ?_⟩
  · intro id started
    rcases sound.cancelled id started with cancelled | waits
    · exact Or.inl cancelled
    · refine Or.inr ⟨?_, waits⟩
      rintro rfl
      cases stage_unique sound.distinct present waits
      cases asks
  · refine sound.agrees.congr fun other => ?_
    rw [awaits_split sound.distinct present, asks]
    simp only [Session.adding, Option.some.injEq, eq_comm]

private theorem Sound.runCall (sound : Sound steps activity) (grants : activity.Grants (.call call)) :
    Sound steps (activity.runCall call) := by
  unfold Activity.runCall
  split
  next operation found =>
    have present := stage?_mem found
    rcases stepped : activity.session.start operation with ⟨progress, session⟩
    have beside (phase : Phase) : activity.Awaits phase ↔ activity.AwaitsBeside call phase := by
      rw [awaits_split sound.distinct present]
      simp [Stage.phase?]
    have agrees := (sound.agrees.congr fun phase => (beside phase).symm).started stepped
    have handling : Handling steps { activity with session } call := by
      refine ⟨⟨sound.known, sound.distinct, sound.prompt⟩, ⟨_, present⟩, ?_⟩
      intro id started
      rcases sound.cancelled id started with cancelled | waits
      · exact Or.inl ((Session.start_cancelled stepped).1 cancelled)
      · by_cases selected : id = call
        · subst selected
          have same := stage_unique sound.distinct present waits
          cases same
          exact Or.inl ((Session.start_cancelled stepped).2 rfl)
        · exact Or.inr ⟨selected, waits⟩
    refine (handling.proceed agrees ?_).ofDelivers (adjustPump_delivers Loopback.steady _)
    intro phase asks ajar compensates
    refine grants phase ?_ compensates
    have open' : activity.gate.shut = false := ajar
    simp [upcoming, found, stepped, asks, open']
  next phase found =>
    obtain ⟨handling, agrees⟩ := sound.inHand (stage?_mem found) rfl
    refine (handling.submit agrees ?_).ofDelivers (adjustPump_delivers Loopback.steady _)
    exact grants phase (by simp [upcoming, found])
  next found => exact False.elim (sound.prompt _ _ _ (stage?_mem found))
  next => exact sound

private theorem Sound.turn (sound : Sound steps activity) (task : Task) (grants : activity.Grants task) :
    Sound steps ({ activity with ready := activity.ready.erase task }.run task) := by
  have unready : Sound steps { activity with ready := activity.ready.erase task } :=
    ⟨⟨sound.known, sound.distinct, sound.prompt⟩, sound.cancelled, sound.agrees⟩
  cases task with
  | call call => exact unready.runCall grants
  | background => exact unready
  | pump => exact unready.ofDelivers (runPump_delivers Loopback.steady _ _)

private theorem Sound.more (sound : Sound steps activity) {step : Step Loopback}
    (other : ∀ call operation, step ≠ .call call operation) : Sound (steps ++ [step]) activity := by
  refine ⟨⟨?_, sound.distinct, sound.prompt⟩, ?_, sound.agrees⟩
  · intro id stage member
    obtain ⟨operation, started⟩ := sound.known id stage member
    exact ⟨operation, List.mem_append_left _ started⟩
  · intro id started
    rcases List.mem_append.mp started with before | last
    · exact sound.cancelled id before
    · exact False.elim (other id .cancel (List.mem_singleton.mp last).symm)

private theorem Sound.start (sound : Sound steps activity) (id : Nat) (operation : Operation)
    (fresh : ∀ other, .call id other ∉ steps) :
    Sound (steps ++ [.call id operation]) (activity.start id operation) := by
  have absent (stage : Stage) : (id, stage) ∉ activity.calls := by
    intro member
    obtain ⟨other, started⟩ := sound.known id stage member
    exact fresh other started
  have calls : (activity.start id operation).calls = activity.calls ++ [(id, .starting operation)] := by
    simp [Activity.start]
  have same (phase : Phase) : (activity.start id operation).Awaits phase ↔ activity.Awaits phase := by
    unfold Awaits
    rw [calls]
    constructor
    · rintro ⟨call, stage, member, waits⟩
      rcases List.mem_append.mp member with before | last
      · exact ⟨call, stage, before, waits⟩
      · cases List.mem_singleton.mp last
        cases waits
    · rintro ⟨call, stage, member, waits⟩
      exact ⟨call, stage, List.mem_append_left _ member, waits⟩
  refine ⟨⟨?_, ?_, ?_⟩, ?_, ?_⟩
  · rw [calls]
    intro call stage member
    rcases List.mem_append.mp member with before | last
    · obtain ⟨earlier, started⟩ := sound.known call stage before
      exact ⟨earlier, List.mem_append_left _ started⟩
    · cases List.mem_singleton.mp last
      exact ⟨operation, List.mem_append_right _ (List.mem_singleton.mpr rfl)⟩
  · rw [calls, List.map_append, List.nodup_append]
    refine ⟨sound.distinct, by simp, ?_⟩
    intro other member last singleton equal
    obtain ⟨⟨call, stage⟩, inside, rfl⟩ := List.mem_map.mp member
    simp only [List.map_cons, List.map_nil, List.mem_singleton] at singleton
    exact absent stage ((equal.trans singleton) ▸ inside)
  · rw [calls]
    intro call phase answer member
    rcases List.mem_append.mp member with before | last
    · exact sound.prompt call phase answer before
    · cases List.mem_singleton.mp last
  · rw [calls]
    intro call started
    rcases List.mem_append.mp started with before | last
    · rcases sound.cancelled call before with cancelled | waits
      · exact Or.inl (by simpa [Activity.start] using cancelled)
      · exact Or.inr (List.mem_append_left _ waits)
    · cases List.mem_singleton.mp last
      exact Or.inr (List.mem_append_right _ (List.mem_singleton.mpr rfl))
  · have agrees := sound.agrees.congr same
    simpa [Activity.start] using agrees

private theorem Sound.letThrough (sound : Sound steps activity) (call : Nat) : Sound steps (activity.letThrough call).2 := by
  unfold Activity.letThrough
  split
  next phase found =>
    obtain ⟨handling, agrees⟩ := sound.inHand (stage?_mem found) rfl
    let gate := { activity.gate with calls := activity.gate.calls.erase call }
    have moved : Handling steps { activity with gate } call := handling.advance rfl id
    have released : Sound steps ({ activity with gate }.setStage call (.released phase)) :=
      moved.setStage agrees rfl fun _ _ impossible => by cases impossible
    exact released.ofDelivers (Delivers.wake (Delivers.refl _) _)
  next => exact sound

private theorem Sound.begin (sound : Sound steps activity) (step : Step Loopback)
    (fresh : ∀ call operation, step = .call call operation → ∀ other, .call call other ∉ steps)
    (kept : ∀ call, step ≠ .abandon call) : Sound (steps ++ [step]) (activity.begin step).2 := by
  have quiet (stream : Step Loopback) (delivers : Delivers Loopback.commands activity (activity.begin stream).2)
      (other : ∀ call operation, stream ≠ .call call operation) :
      Sound (steps ++ [stream]) (activity.begin stream).2 := (sound.ofDelivers delivers).more other
  cases step with
  | call id operation => exact sound.start id operation (fresh id operation rfl)
  | abandon call => exact False.elim (kept call rfl)
  | setGate shut =>
    have changed : Sound steps { activity with gate := { activity.gate with shut } } :=
      ⟨⟨sound.known, sound.distinct, sound.prompt⟩, sound.cancelled, sound.agrees⟩
    exact changed.more fun _ _ impossible => by cases impossible
  | letThrough call => exact (sound.letThrough call).more fun _ _ impossible => by cases impossible
  | letFirstThrough =>
    refine Sound.more ?_ fun _ _ impossible => by cases impossible
    unfold Activity.begin
    dsimp only
    split
    · exact sound
    · exact sound.letThrough _
  | transport event =>
    exact (sound.ofDelivers (Loopback.affect_delivers activity event)).more fun _ _ impossible => by cases impossible
  | openStream => exact quiet .openStream (begin_delivers Loopback.steady activity .openStream trivial) nofun
  | poll stream => exact quiet (.poll stream) (begin_delivers Loopback.steady activity (.poll stream) trivial) nofun
  | drain stream => exact quiet (.drain stream) (begin_delivers Loopback.steady activity (.drain stream) trivial) nofun
  | drop stream => exact quiet (.drop stream) (begin_delivers Loopback.steady activity (.drop stream) trivial) nofun
  | cut kind => exact quiet (.cut kind) (begin_delivers Loopback.steady activity (.cut kind) trivial) nofun

private theorem sound_fresh : Sound [] ({ transport := {} } : Activity Loopback) := by
  refine ⟨⟨?_, List.nodup_nil, ?_⟩, ?_, ?_⟩
  · intro _ _ member
    cases member
  · intro _ _ _ member
    cases member
  · intro _ started
    cases started
  refine ⟨⟨?_, ?_, ?_, ?_, ?_, ?_⟩, nofun⟩
  · rintro (_ | _) <;> exact List.nodup_nil
  · rintro - (_ | _) <;> rfl
  · rintro - phase ⟨_, _, member, -⟩
    cases member
  · exact nofun
  · rintro _ _ ⟨_, _, member, -⟩
    cases member
  · rintro _ _ _ ⟨_, _, member, -⟩
    cases member

private theorem Reaches.sound (reached : Reaches Grants { transport := {} } steps activity)
    (kept : ∀ call, .abandon call ∉ steps) : Sound steps activity := by
  induction reached with
  | first => exact sound_fresh
  | step reached step fresh ih =>
    have before := ih fun call member => kept call (List.mem_append_left _ member)
    exact before.begin step fresh fun call same => kept call (List.mem_append_right _ (by simp [same]))
  | turn reached ready permitted ih => exact (ih kept).turn _ permitted

theorem submit_unrefused (activity : Activity Loopback) (call : Nat) (phase : Phase) :
    (activity.submit call phase).transport.refusal = none := by
  unfold submit
  split
  next transport submitted =>
    obtain ⟨_, impossible, -⟩ := Loopback.submit_recorded submitted
    cases impossible
  next answer transport submitted =>
    obtain ⟨_, -, -, fresh, -⟩ := Loopback.submit_recorded submitted
    split
    · exact fresh
    · split
      · exact fresh
      · exact submit_unrefused _ call _
termination_by phase.rank
decreasing_by exact Session.resume_rank (by assumption)

theorem adjustPump_refusal (activity : Activity Loopback) :
    activity.adjustPump.transport.refusal = activity.transport.refusal :=
  (adjustPump_delivers Loopback.steady_refusal activity).transport

private theorem proceed_unrefused (activity : Activity Loopback) (unrefused : activity.transport.refusal = none) (call : Nat)
    (progress : Progress) : (activity.proceed call progress).transport.refusal = none := by
  cases progress with
  | finished result => exact unrefused
  | asking phase =>
    unfold proceed
    dsimp only
    split
    · exact unrefused
    · exact submit_unrefused _ call phase

theorem run_unrefused (activity : Activity Loopback) (unrefused : activity.transport.refusal = none) (task : Task) :
    (activity.run task).transport.refusal = none := by
  cases task with
  | call call =>
    change (activity.runCall call).transport.refusal = none
    have proceeded (session : Session) (progress : Progress) :
        ({ activity with session }.proceed call progress).adjustPump.transport.refusal = none := by
      rw [adjustPump_refusal]
      exact proceed_unrefused { activity with session } unrefused call progress
    unfold runCall
    split
    · exact proceeded _ _
    · exact (adjustPump_refusal _).trans (submit_unrefused _ call _)
    · exact proceeded _ _
    · exact unrefused
  | background => exact unrefused
  | pump => exact (runPump_delivers Loopback.steady_refusal pumpTurn activity).transport.trans unrefused

private theorem permits_unrefused (unrefused : activity.transport.refusal = none) (turns : Nat) :
    Permits Grants turns activity := by
  induction turns generalizing activity with
  | zero => trivial
  | succ turns ih =>
    unfold Permits
    split
    · trivial
    next task ready _ =>
      have next : ({ activity with ready }.run task).transport.refusal = none :=
        run_unrefused { activity with ready } unrefused task
      exact ⟨fun _ _ _ => unrefused, ih next⟩

/-- However calls, releases and turns are ordered, and whichever other commands are refused: when no
call is unfinished the session tracks exactly what its commands have left subscribed, and nothing at
all once it has been cancelled. -/
theorem settled_session_agrees (reached : Reaches Grants { transport := {} } steps activity)
    (kept : ∀ call, .abandon call ∉ steps) (settled : activity.calls = []) :
    replay .channel activity.transport.commands = activity.session.channels ∧
    replay .pattern activity.transport.commands = activity.session.patterns ∧
    ((∃ call, .call call .cancel ∈ steps) →
      replay .channel activity.transport.commands = {} ∧ replay .pattern activity.transport.commands = {}) := by
  have sound := reached.sound kept
  have idle (phase : Phase) : ¬ activity.Awaits phase := by
    rintro ⟨_, _, member, -⟩
    rw [settled] at member
    cases member
  have closed (cancelled : activity.session.cancelled = true) (kind : Message.Kind) :
      replay kind activity.transport.commands = {} ∧ activity.session.tracked kind = {} := by
    have empty : ∀ kind, activity.session.tracked kind = {} := by
      rcases sound.agrees.clearing cancelled with empty | ⟨phase, waits, -⟩
      · exact empty
      · exact False.elim (idle phase waits)
    refine ⟨Targets.eq_empty fun name member => ?_, empty kind⟩
    rcases sound.agrees.owed cancelled kind name member with kept | ⟨_, waits, -⟩
    · rw [empty kind] at kept
      cases kept
    · exact idle _ waits
  have agree (kind : Message.Kind) :
      replay kind activity.transport.commands = activity.session.tracked kind := by
    cases open' : activity.session.cancelled with
    | false => exact sound.agrees.same open' kind
    | true => exact (closed open' kind).1.trans (closed open' kind).2.symm
  refine ⟨agree .channel, agree .pattern, ?_⟩
  rintro ⟨call, started⟩
  rcases sound.cancelled call started with cancelled | waits
  · exact ⟨(closed cancelled .channel).1, (closed cancelled .pattern).1⟩
  · rw [settled] at waits
    cases waits

/-- A subscription that is let through after the session was cancelled is taken back. -/
theorem settled_session_agrees_late :
    ∃ activity, Reaches Grants { transport := ({} : Loopback) }
        [.setGate true, .call 0 (.add .channel [[1]]), .setGate false, .call 1 .cancel, .letThrough 0] activity ∧
      activity.calls = [] ∧
      activity.transport.commands = [(.subscribe, [[1]]), (.unsubscribe, [[1]])] ∧
      replay .channel activity.transport.commands = {} := by
  have start : Reaches Grants { transport := ({} : Loopback) } [] { transport := {} } := .first
  have shut := start.andSettle (.setGate true) nofun (permits_unrefused (by decide +kernel) _)
  have added := shut.andSettle (.call 0 (.add .channel [[1]])) (by simp) (permits_unrefused (by decide +kernel) _)
  have ajar := added.andSettle (.setGate false) nofun (permits_unrefused (by decide +kernel) _)
  have cancelled := ajar.andSettle (.call 1 .cancel) (by simp) (permits_unrefused (by decide +kernel) _)
  have late := cancelled.andSettle (.letThrough 0) nofun (permits_unrefused (by decide +kernel) _)
  have settled := (settled_session_agrees late (by simp) (by decide +kernel)).2.2 ⟨1, by simp⟩
  exact ⟨_, late, by decide +kernel, by decide +kernel, settled.1⟩

end Activity

end Subscriber
