import Subscriber.Proofs.Closing
import Subscriber.Proofs.LoopbackPumps

/-! One registration upstream for any number of streams. The first stream to attach opens it; the last to leave, the
first failure that the pump comes upon and a cancellation release it, in whatever order they come. -/

namespace Subscriber

namespace Fanout
variable {fanout : Fanout}

def Manned (fanout : Fanout) : Prop := fanout.pump = none ↔ fanout.consumers = []

private theorem Manned.isActive_iff (manned : fanout.Manned) : fanout.isActive = true ↔ 0 < fanout.consumers.length := by
  rw [isActive, Option.isSome_iff_ne_none, List.length_pos_iff]
  exact not_congr manned

theorem Manned.detach (manned : fanout.Manned) (consumer : Nat) : (fanout.detach consumer).Manned := by
  unfold Fanout.detach
  split
  · by_cases last : fanout.consumers.erase consumer = []
    · simp [Manned, last]
    · have others : fanout.consumers ≠ [] := fun none => last (by rw [none]; rfl)
      have running : fanout.pump ≠ none := fun stopped => others (manned.mp stopped)
      simp [Manned, last, running]
  · exact manned

theorem attach_manned (fanout : Fanout) (stream : Nat) : (fanout.attach stream).Manned := by
  obtain ⟨generation, pump, attached, running, -⟩ := attach_eq fanout stream
  rw [attached]
  exact iff_of_false running (List.append_ne_nil_of_right_ne_nil _ (List.cons_ne_nil _ _))

theorem Manned.setStream (manned : fanout.Manned) (stream : Nat) (attachment : Option Attachment) :
    (fanout.setStream stream attachment).Manned := manned

private theorem Manned.poll (manned : fanout.Manned) (stream : Nat) : (fanout.poll stream).2.Manned := by
  unfold Fanout.poll
  split
  · exact manned
  · exact manned
  · split
    · exact manned.setStream ..
    · exact attach_manned fanout stream
  · split
    · exact manned
    · exact (manned.setStream ..).detach _
  · exact manned.setStream ..
  · exact (manned.setStream ..).detach _

private theorem Manned.drop (manned : fanout.Manned) (stream : Nat) : (fanout.drop stream).Manned := by
  unfold Fanout.drop
  split
  · exact (manned.setStream ..).detach _
  · exact manned.setStream ..

private theorem Manned.publish (manned : fanout.Manned) {item : Item} {after : Fanout} (publishes : Publishes fanout item after) :
    after.Manned := by
  cases publishes with
  | idle => exact manned
  | delivers => exact manned
  | interrupts => exact iff_of_true rfl rfl

private theorem Manned.finish (manned : fanout.Manned) {after : Fanout} (finishes : Finishes fanout after) : after.Manned := by
  cases finishes with
  | idle => exact manned
  | releases => exact iff_of_true rfl rfl

private theorem Manned.act (manned : fanout.Manned) (event : Event) : (fanout.act event).Manned := by
  cases event with
  | openStream => exact manned
  | poll stream => exact manned.poll stream
  | drop stream => exact manned.drop stream
  | publish item => exact manned.publish (act_publish fanout item)
  | finish => exact manned.finish (act_finish fanout)
  | late generation found => rwa [act_late]
  | cancel => exact iff_of_true rfl rfl

end Fanout

namespace Activity

/-- A session has one observer of each kind for all its consumers. -/
structure Registered {τ ε : Type} (observers : τ → Observers ε) (activity : Activity τ) : Prop where
  observers : ∀ kind, (observers activity.transport).liveOf kind = if activity.session.fanout.isActive then 1 else 0
  consumers : activity.session.fanout.isActive = true ↔ 0 < activity.session.fanout.consumers.length

private theorem moves_manned {τ : Type} [Transport τ] (transport : τ) (list : List (Move τ)) :
    (moves { transport } list).session.fanout.Manned := by
  have lasting := @Session.lasting_acts Fanout.Manned fun _ event manned => manned.act event
  have fresh : ({} : Fanout).Manned := iff_of_true rfl rfl
  exact moves_lasting lasting { transport } list fresh

section
variable {a : Activity Loopback}

private theorem Staffed.liveOf (staffed : a.Staffed) (rested : .pump ∉ a.ready) (kind : Message.Kind) :
    a.transport.observers.liveOf kind = if a.session.fanout.isActive then 1 else 0 := by
  rw [Fanout.isActive, ← staffed.aligned]
  cases piped : a.pump with
  | none =>
    unfold Observers.liveOf
    rw [staffed.vacant piped]
    rfl
  | some pump =>
    obtain ⟨-, pair⟩ := staffed.manned pump piped
    refine pair.liveOf (fun observer member => ?_) kind
    by_contra waits
    exact rested (staffed.awake observer member waits)

end

section
variable {a : Activity Link} {waiting : List Message}

private theorem Piped.liveOf (piped : a.Piped waiting) (rested : .pump ∉ a.ready) (kind : Message.Kind) :
    a.transport.observers.liveOf kind = if a.session.fanout.isActive then 1 else 0 := by
  have members := piped.carries.members
  rw [Fanout.isActive, ← piped.aligned]
  unfold Observers.liveOf
  rw [members]
  cases found : a.pump with
  | none => rfl
  | some pump =>
    have alive : a.transport.failure = none := by
      by_contra failed
      rcases piped.carries.told (by rw [found]; rfl) (.inr (Option.isSome_iff_ne_none.mpr failed)) with awake | told
      · exact rested awake
      · rw [piped.collected] at told
        cases told
    rw [alive]
    cases kind <;> rfl

private theorem run_piped (piped : a.Piped waiting) (task : Task) :
    ∃ left, (run { a with ready := a.ready.erase task } task).Piped left := by
  have unready (other : task ≠ .pump) : Piped { a with ready := a.ready.erase task } waiting :=
    piped.aside (.unready other a) rfl
  cases task with
  | call call => exact ⟨_, (runCall_piped (unready nofun) call).1⟩
  | background => exact ⟨_, (runBackground_piped (unready nofun)).1⟩
  | pump =>
    change ∃ left, (runPump { a with ready := a.ready.erase .pump } pumpTurn).Piped left
    by_cases stopped : a.pump = none
    · have idle : ¬ a.pump.isSome := by rw [stopped]; nofun
      rw [show pumpTurn = 127 + 1 from rfl, runPump_stopped (a := { a with ready := a.ready.erase .pump }) stopped]
      exact ⟨waiting, ⟨⟨piped.sound, piped.whole,
        ⟨piped.carries.members, fun some => absurd some idle, piped.carries.opened⟩, piped.collected⟩, piped.aligned⟩⟩
    · obtain ⟨pump, found⟩ := Option.ne_none_iff_exists'.mp stopped
      rcases runPump_piped piped found (a.ready.erase .pump) with ⟨-, ongoing⟩ | ⟨-, -, broken⟩
      · exact ⟨_, ongoing⟩
      · exact ⟨_, broken⟩

private theorem moves_piped (list : List (Move Link)) (uncut : ∀ kind, .step (.cut kind) ∉ list) (piped : a.Piped waiting) :
    ∃ left, (a.moves list).Piped left := by
  induction list generalizing a waiting with
  | nil => exact ⟨waiting, piped⟩
  | cons move list ih =>
    have moved : ∃ left, (a.move move).Piped left := by
      cases move with
      | step step => exact ⟨_, begin_piped piped step fun kind same => uncut kind (same ▸ List.mem_cons_self)⟩
      | turn task =>
        unfold Activity.move
        dsimp only
        split
        · exact run_piped piped task
        · exact ⟨waiting, piped⟩
    obtain ⟨left, piped⟩ := moved
    exact ih (fun kind member => uncut kind (List.mem_cons_of_mem _ member)) piped

end

/-- Whatever happens to a session over a loopback or over a connection, with turns in any order: when nobody wants a turn
any more, there is one live observer of each kind if the session is active and none if it is not, and it is active as
long as it has consumers. Only the streams of its observers must not be cut off. -/
theorem registered_once :
    (∀ list : List (Move Loopback), (∀ kind, .step (.cut kind) ∉ list) →
      (moves { transport := {} } list).ready = [] → (moves { transport := {} } list).Registered Loopback.observers) ∧
    ∀ (connection : Connection) (queueSize : Nat) (list : List (Move Link)), (∀ kind, .step (.cut kind) ∉ list) →
      (moves { transport := .ofConnection connection queueSize } list).ready = [] →
      (moves { transport := .ofConnection connection queueSize } list).Registered Link.observers := by
  have rested {ready : List Task} (idle : ready = []) : .pump ∉ ready := idle ▸ List.not_mem_nil
  refine ⟨fun list uncut idle => ?_, fun connection queueSize list uncut idle => ?_⟩
  · have fresh : Staffed { transport := {} } := .unmanned rfl rfl rfl
    have staffed := moves_staffed list uncut fresh
    exact ⟨staffed.liveOf (rested idle), (moves_manned _ list).isActive_iff⟩
  · have fresh : Piped { transport := .ofConnection connection queueSize } [] :=
      ⟨⟨⟨nofun, nofun, fun some => absurd rfl some⟩, nofun, ⟨rfl, nofun, rfl⟩, rfl⟩, rfl⟩
    obtain ⟨left, piped⟩ := moves_piped list uncut fresh
    exact ⟨piped.liveOf (rested idle), (moves_manned _ list).isActive_iff⟩

/-- Two streams attach. Over the loopback the observer of channels fails, and the pump lets go of the other as well; over
the connection one of the streams goes, and the other keeps both observers. -/
theorem registered_once_shared :
    let failing : List (Move Loopback) := [.step .openStream, .step .openStream, .step (.poll 0), .turn .pump,
      .step (.poll 1), .step (.transport (.fail .channel { text := "gone" })), .turn .pump, .turn .background]
    let leaving : List (Move Link) := [.step .openStream, .step .openStream, .step (.poll 0), .turn .pump,
      .step (.poll 1), .step (.drop 0)]
    let mock := moves { transport := {} } failing
    let wire := moves { transport := .ofConnection {} 1 } leaving
    mock.Registered Loopback.observers ∧ mock.session.fanout.isActive = false ∧
      wire.Registered Link.observers ∧ wire.session.fanout.isActive = true := by
  intro failing leaving mock wire
  refine ⟨registered_once.1 failing ?_ (by decide +kernel), by decide +kernel,
    registered_once.2 {} 1 leaving ?_ (by decide +kernel), by decide +kernel⟩
  · simp [failing]
  · simp [leaving]

end Activity

end Subscriber
