import Subscriber.Proofs.Bypassing
import Subscriber.Proofs.Recasting

/-! The pump of a session over a loopback. A loopback may fail the observers of one kind and go on with the others, so
what waits with the two of a pump is not one line with one end. But an observer is only let go with a failure to tell,
and whoever has something to tell wakes the pump. -/

namespace Subscriber

/-- The connection lets go of an observer only with a failure. -/
def Observer.Excused {ε : Type} (observer : Observer ε) : Prop :=
  observer.live = false → ∃ fault, .error fault ∈ observer.queued

theorem Observer.Excused.live {ε : Type} {observer : Observer ε} (excused : observer.Excused)
    (empty : observer.queued = []) : observer.live = true := by
  cases known : observer.live with
  | true => rfl
  | false =>
    obtain ⟨fault, waits⟩ := excused known
    rw [empty] at waits
    cases waits

private theorem Message.Kind.one_of {first second : Message.Kind} {side : Side} (own : first.side = side)
    (other : second.side = side.other) (kind : Message.Kind) : kind = first ∨ kind = second := by
  subst own
  cases first <;> cases second <;> cases kind <;> simp_all [Message.Kind.side, Side.other]

namespace Observers
variable {ε : Type} {pump : Pump} {observers after : Observers ε}

structure Pair (pump : Pump) (observers : Observers ε) : Prop where
  posts : observers.members.map (fun observer => (observer.id, observer.kind)) =
    [(pump.channels, .channel), (pump.patterns, .pattern)]
  excused : ∀ observer ∈ observers.members, observer.Excused

theorem Pair.own (pair : Pair pump observers) {observer : Observer ε} (member : observer ∈ observers.members) :
    observer.id = pump.channels ∨ observer.id = pump.patterns := by
  have listed := List.mem_map_of_mem (f := fun observer => (observer.id, observer.kind)) member
  rw [pair.posts] at listed
  rcases List.mem_cons.mp listed with first | later
  · exact .inl (congrArg Prod.fst first)
  · exact .inr (congrArg Prod.fst (List.mem_singleton.mp later))

private theorem Pair.find (pair : Pair pump observers) (apart : pump.channels ≠ pump.patterns) (kind : Message.Kind) :
    ∃ observer ∈ observers.members, observers.find? (pump.observer kind) = some observer ∧ observer.kind = kind ∧
      ∀ other ∈ observers.members, other.id = pump.observer kind ∨ other.kind = kind → other = observer := by
  obtain ⟨channels, others, members, first, rest⟩ := List.map_eq_cons_iff.mp pair.posts
  obtain ⟨patterns, none, rfl, second, empty⟩ := List.map_eq_cons_iff.mp rest
  cases List.map_eq_nil_iff.mp empty
  simp only [Prod.mk.injEq] at first second
  unfold find?
  rw [members]
  cases kind with
  | channel => exact ⟨channels, by simp [first, second, Pump.observer, apart.symm]⟩
  | pattern => exact ⟨patterns, by simp [first, second, Pump.observer, apart]⟩

theorem Pair.map (pair : Pair pump observers) {update : Observer ε → Observer ε}
    (same : ∀ observer, (update observer).id = observer.id ∧ (update observer).kind = observer.kind)
    (excused : ∀ observer ∈ observers.members, (update observer).Excused) :
    Pair pump { observers with members := observers.members.map update } := by
  refine ⟨?_, fun observer member => ?_⟩
  · rw [← pair.posts]
    simp only [List.map_map, Function.comp_def, same]
  · obtain ⟨old, inside, rfl⟩ := List.mem_map.mp member
    exact excused old inside

private theorem Pair.deliver (pair : Pair pump observers) (message : Message) : Pair pump (observers.deliver message) := by
  refine pair.map (fun observer => ?_) fun observer member => ?_
  · split <;> exact ⟨rfl, rfl⟩
  · have before := pair.excused observer member
    split
    · intro gone
      obtain ⟨fault, waits⟩ := before gone
      exact ⟨fault, List.mem_append_left _ waits⟩
    · exact before

private theorem Pair.fail (pair : Pair pump observers) (kind : Message.Kind) (fault : ε) :
    Pair pump (observers.fail kind fault) := by
  refine pair.map (fun observer => ?_) fun observer member => ?_
  · split <;> exact ⟨rfl, rfl⟩
  · split
    · exact fun _ => ⟨fault, List.mem_append_right _ List.mem_cons_self⟩
    · exact pair.excused observer member

/-- What a pump finds with its observer of a kind. It does not come to an end there. -/
inductive Finds (pump : Pump) (kind : Message.Kind) (observers : Observers ε) :
    Poll (Except ε Message) → Observers ε → Prop where
  | message {message : Message} {after : Observers ε} (pair : Pair pump after) :
    Finds pump kind observers (.ready (.ok message)) after
  | failure {fault : ε} {after : Observers ε}
    (own : ∀ observer ∈ after.members, observer.id = pump.channels ∨ observer.id = pump.patterns) :
    Finds pump kind observers (.ready (.error fault)) after
  | nothing (empty : ∀ observer ∈ observers.members, observer.kind = kind → observer.queued = []) :
    Finds pump kind observers .pending observers

private theorem Pair.poll (pair : Pair pump observers) (apart : pump.channels ≠ pump.patterns) (kind : Message.Kind) :
    Finds pump kind observers (observers.poll (pump.observer kind)).1 (observers.poll (pump.observer kind)).2 := by
  obtain ⟨observer, member, found, -, only⟩ := pair.find apart kind
  have excused := pair.excused observer member
  cases queued : observer.queued with
  | nil =>
    have polled : observers.poll (pump.observer kind) = (.pending, observers) := by
      simp only [Observers.poll, found, queued, excused.live queued, if_true]
    rw [polled]
    exact .nothing fun other inside same => by rw [only other inside (.inr same), queued]
  | cons item later =>
    let take (other : Observer ε) : Observer ε :=
      if other.id = pump.observer kind then { other with queued := later } else other
    have polled : observers.poll (pump.observer kind) =
        (.ready item, { observers with members := observers.members.map take }) := by
      simp only [Observers.poll, found, queued, take]
    have same (other : Observer ε) : (take other).id = other.id ∧ (take other).kind = other.kind := by
      unfold take
      split <;> exact ⟨rfl, rfl⟩
    rw [polled]
    cases item with
    | ok message =>
      refine .message (pair.map same fun other inside => ?_)
      unfold take
      split
      next own =>
        cases only other inside (.inl own)
        intro gone
        obtain ⟨fault, waits⟩ := excused gone
        rw [queued] at waits
        cases waits with
        | tail _ waits => exact ⟨fault, waits⟩
      · exact pair.excused other inside
    | error fault =>
      refine .failure fun left inside => ?_
      obtain ⟨other, before, rfl⟩ := List.mem_map.mp inside
      rw [(same other).1]
      exact pair.own before

theorem Pair.liveOf (pair : Pair pump observers) (empty : ∀ observer ∈ observers.members, observer.queued = [])
    (kind : Message.Kind) : observers.liveOf kind = 1 := by
  have kinds : observers.members.map (·.kind) = [.channel, .pattern] := by
    have posts := congrArg (List.map Prod.snd) pair.posts
    rwa [List.map_map] at posts
  calc
    observers.liveOf kind = (observers.members.filter fun observer => observer.kind == kind).length := by
      unfold Observers.liveOf
      congr 1
      refine List.filter_congr fun observer member => ?_
      rw [feeds, (pair.excused observer member).live (empty observer member), Bool.true_and]
    _ = ((observers.members.map (·.kind)).filter (· == kind)).length := by
      rw [List.filter_map, List.length_map]
      rfl
    _ = 1 := by
      rw [kinds]
      cases kind <;> rfl

end Observers

theorem Loopback.reserved : Activity.Reserved Loopback.observers := by
  refine ⟨fun loopback call verb targets => ?_, fun _ _ => rfl⟩
  change (loopback.execute verb targets).2.observers = loopback.observers
  unfold Loopback.execute
  split <;> rfl

namespace Activity
open Observers (Pair Finds)

section
variable {a b : Activity Loopback} {pump : Pump}

/-- The pump and its observers, while the pump may not be the one that is wanted. -/
structure Posted (activity : Activity Loopback) : Prop where
  vacant : activity.pump = none → activity.transport.observers.members = []
  manned : ∀ pump, activity.pump = some pump → pump.Whole ∧ Pair pump activity.transport.observers
  awake : ∀ observer ∈ activity.transport.observers.members, observer.queued ≠ [] → .pump ∈ activity.ready

structure Staffed (activity : Activity Loopback) : Prop extends Posted activity where
  aligned : activity.pump.map (·.generation) = activity.session.fanout.pump

theorem Staffed.unmanned (stopped : a.pump = none) (alone : a.transport.observers.members = [])
    (unwanted : a.session.fanout.pump = none) : a.Staffed := by
  refine ⟨⟨fun _ => alone, fun pump piped => ?_, fun observer member => ?_⟩, ?_⟩
  · cases stopped.symm.trans piped
  · rw [alone] at member
    cases member
  · rw [stopped, unwanted]
    rfl

theorem Staffed.piped (piped : a.pump = some pump) (whole : pump.Whole) (pair : Pair pump a.transport.observers)
    (aligned : a.session.fanout.pump = some pump.generation)
    (awake : ∀ observer ∈ a.transport.observers.members, observer.queued ≠ [] → .pump ∈ a.ready) : a.Staffed := by
  refine ⟨⟨fun stopped => ?_, fun other same => ?_, awake⟩, ?_⟩
  · cases stopped.symm.trans piped
  · cases piped.symm.trans same
    exact ⟨whole, pair⟩
  · rw [piped, aligned]
    rfl

theorem Posted.bypass (posted : a.Posted) (bypasses : Bypasses Loopback.observers a b) : b.Posted := by
  refine ⟨fun stopped => ?_, fun pump piped => ?_, fun observer member waits => ?_⟩
  · rw [bypasses.transport]
    exact posted.vacant (bypasses.pump.symm.trans stopped)
  · rw [bypasses.transport]
    exact posted.manned pump (bypasses.pump.symm.trans piped)
  · rw [bypasses.transport] at member
    exact bypasses.awake (posted.awake observer member waits)

theorem Staffed.bypass (staffed : a.Staffed) (bypasses : Bypasses Loopback.observers a b)
    (same : b.session.fanout = a.session.fanout) : b.Staffed := by
  refine ⟨staffed.toPosted.bypass bypasses, ?_⟩
  rw [bypasses.pump, same]
  exact staffed.aligned

theorem stopPump_vacant (vacant : a.pump = none → a.transport.observers.members = [])
    (own : ∀ pump, a.pump = some pump →
      ∀ observer ∈ a.transport.observers.members, observer.id = pump.channels ∨ observer.id = pump.patterns) :
    a.stopPump.pump = none ∧ a.stopPump.transport.observers.members = [] ∧ a.stopPump.session = a.session := by
  unfold stopPump
  cases piped : a.pump with
  | none => exact ⟨piped, vacant piped, rfl⟩
  | some pump =>
    refine ⟨rfl, List.filter_eq_nil_iff.mpr fun observer member => ?_, rfl⟩
    obtain ⟨inside, different⟩ := List.mem_filter.mp member
    rcases own pump piped observer inside with same | same
    · exact absurd same (bne_iff_ne.mp different)
    · simp [same]

private theorem startPump_staffed (alone : a.transport.observers.members = []) {generation : Nat}
    (wanted : a.session.fanout.pump = some generation) : (a.startPump generation).Staffed := by
  let first := a.transport.observers.next
  let pump : Pump := { generation, channels := first, patterns := first + 1 }
  let observers : Observers Refusal := {
    next := first + 2,
    members := [{ id := first, kind := .channel }, { id := first + 1, kind := .pattern }] }
  have started : a.startPump generation =
      Activity.wake { a with transport := { a.transport with observers }, pump := some pump } .pump := by
    have registered : Transport.observe (Transport.observe a.transport .channel).2 .pattern =
        (first + 1, { a.transport with observers }) := by
      let later : Observers Refusal := {
        next := first + 2,
        members := a.transport.observers.members ++ [{ id := first, kind := .channel }] ++
          [{ id := first + 1, kind := .pattern }] }
      change (first + 1, { a.transport with observers := later }) = _
      rw [show later = observers by simp only [later, observers, alone, List.nil_append, List.cons_append]]
    unfold startPump
    dsimp only
    rw [registered]
    rfl
  have whole : pump.Whole := ⟨Nat.ne_of_lt (Nat.lt_succ_self first), rfl, rfl, rfl, rfl⟩
  have pair : Pair pump observers := by
    refine ⟨rfl, fun observer member gone => ?_⟩
    rcases List.mem_cons.mp member with rfl | last
    · cases gone
    · cases List.mem_singleton.mp last
      cases gone
  rw [started]
  refine .piped (wake_pump _ _) whole ?_ ?_ fun _ _ _ => mem_wake _ _
  · rw [wake_transport]
    exact pair
  · rw [wake_session]
    exact wanted

private theorem released_staffed (piped : a.pump = some pump)
    (own : ∀ observer ∈ a.transport.observers.members, observer.id = pump.channels ∨ observer.id = pump.patterns)
    (released : a.session.fanout.pump = none) : a.adjustPump.Staffed := by
  obtain ⟨stopped, alone, same⟩ := stopPump_vacant (fun none => by cases none.symm.trans piped) fun other found => by
    cases found.symm.trans piped
    exact own
  rw [adjustPump, released]
  exact .unmanned stopped alone (same.symm ▸ released)

theorem adjustPump_staffed (posted : a.Posted) : a.adjustPump.Staffed := by
  obtain ⟨stopped, alone, same⟩ := stopPump_vacant posted.vacant fun pump piped _ member =>
    (posted.manned pump piped).2.own member
  unfold adjustPump
  split
  next unwanted => exact .unmanned stopped alone (same.symm ▸ unwanted)
  next generation wanted =>
    split
    next current =>
      refine ⟨posted, ?_⟩
      obtain ⟨pump, piped, generation⟩ := (Option.any_eq_true _ _).mp current
      rw [piped, wanted]
      exact congrArg some (beq_iff_eq.mp generation)
    · exact startPump_staffed alone (same.symm ▸ wanted)

private theorem session_staffed (staffed : a.Staffed) (session : Session) : (adjustPump { a with session }).Staffed :=
  adjustPump_staffed (a := { a with session }) ⟨staffed.vacant, staffed.manned, staffed.awake⟩

private theorem askSide_finds (whole : pump.Whole) (loopback : Loopback) (kind : Message.Kind) :
    askSide pump kind.side loopback = ((loopback.observers.poll (pump.observer kind)).1.mapFault Refusal.toError,
      { loopback with observers := (loopback.observers.poll (pump.observer kind)).2 }) := by
  cases kind with
  | channel =>
    simp only [askSide, Message.Kind.side, whole.channels]
    rfl
  | pattern =>
    simp only [askSide, Message.Kind.side, whole.patterns]
    rfl

theorem runPump_stopped {τ : Type} [Transport τ] {a : Activity τ} (stopped : a.pump = none) (budget : Nat) :
    a.runPump (budget + 1) = a := by
  rw [runPump, stopped]

inductive Polls (a : Activity Loopback) (pump : Pump) : Poll (Except Error Message) → Activity Loopback → Prop where
  | message {message : Message} {observers : Observers Refusal} (pair : Pair pump observers) :
    Polls a pump (.ready (.ok message))
      { a with transport := { a.transport with observers }, pump := some pump.turned }
  | failure {error : Error} {observers : Observers Refusal}
    (own : ∀ observer ∈ observers.members, observer.id = pump.channels ∨ observer.id = pump.patterns) :
    Polls a pump (.ready (.error error))
      { a with transport := { a.transport with observers }, pump := some pump.turned }
  | nothing (empty : ∀ observer ∈ a.transport.observers.members, observer.queued = []) :
    Polls a pump .pending { a with pump := some pump.turned }

private theorem pollPump_polls (whole : pump.Whole) (pair : Pair pump a.transport.observers) :
    Polls a pump (a.pollPump pump (askSide pump)).1 (a.pollPump pump (askSide pump)).2 := by
  obtain ⟨kind, asked⟩ := Message.Kind.of_side pump.merge.turn
  obtain ⟨next, other⟩ := Message.Kind.of_side pump.merge.turn.other
  have first := askSide_finds whole a.transport kind
  have second := askSide_finds whole a.transport next
  have found := pair.poll whole.apart kind
  have again := pair.poll whole.apart next
  rw [asked] at first
  rw [other] at second
  generalize a.transport.observers.poll (pump.observer kind) = polled at first found
  generalize a.transport.observers.poll (pump.observer next) = repolled at second again
  obtain ⟨answer, observers⟩ := polled
  obtain ⟨reply, others⟩ := repolled
  dsimp only at first second found again
  have merged {item : Poll (Except Error Message)} {transport : Loopback}
      (polled : pump.merge.poll (askSide pump) a.transport =
        (item, { pump.merge with turn := pump.merge.turn.other }, transport)) :
      a.pollPump pump (askSide pump) = (item, { a with transport, pump := some pump.turned }) := by
    unfold pollPump
    rw [polled]
    rfl
  cases found with
  | message left =>
    rw [merged (Merge.poll_first whole.left whole.right first)]
    exact .message left
  | failure own =>
    rw [merged (Merge.poll_first whole.left whole.right first)]
    exact .failure own
  | nothing empty =>
    cases again with
    | message left =>
      rw [merged (Merge.poll_second whole.left whole.right first second nofun)]
      exact .message left
    | failure own =>
      rw [merged (Merge.poll_second whole.left whole.right first second nofun)]
      exact .failure own
    | nothing none =>
      rw [merged (Merge.poll_second whole.left whole.right first second nofun)]
      refine .nothing fun observer member => ?_
      rcases Message.Kind.one_of asked other observer.kind with same | same
      · exact empty observer member same
      · exact none observer member same

private theorem runPump_staffed (budget : Nat) (piped : a.pump = some pump) (whole : pump.Whole)
    (pair : Pair pump a.transport.observers) (aligned : a.session.fanout.pump = some pump.generation) :
    (a.runPump budget).Staffed := by
  -- Whatever a poll finds, the pump after it has the same observers and one poll less to go.
  induction budget generalizing a pump with
  | zero =>
    have turn : a.runPump 0 = Activity.wake { a with pump := some pump.turned } .pump := by
      have polled : pump.merge.poll askNothing a.transport = _ :=
        Merge.poll_second whole.left whole.right rfl rfl fun same => by cases same
      rw [runPump, piped]
      dsimp only
      rw [pollPump, polled]
      rfl
    rw [turn]
    refine .piped (wake_pump _ _) whole.turned ?_ ?_ fun _ _ _ => mem_wake _ _
    · rw [wake_transport]
      exact ⟨pair.posts, pair.excused⟩
    · rw [wake_session]
      exact aligned
  | succ budget ih =>
    have outcome := pollPump_polls whole pair
    rcases polled : a.pollPump pump (askSide pump) with ⟨item, next⟩
    rw [polled] at outcome
    cases outcome with
    | message left =>
      rw [runPump_message piped polled]
      refine ih rfl whole.turned ⟨left.posts, left.excused⟩ ?_
      dsimp only
      rw [Session.fanout_publish, Fanout.publish_ok aligned]
      exact aligned
    | @failure error observers own =>
      let last : Activity Loopback := { a with
        transport := { a.transport with observers }, pump := some pump.turned,
        session := a.session.publish pump.generation (.error (.upstream error)) }
      have turn : a.runPump (budget + 1) = last.adjustPump := by
        rw [runPump, piped]
        dsimp only
        rw [polled]
      have released : last.session.fanout.pump = none := by
        change (a.session.publish pump.generation (.error (.upstream error))).fanout.pump = none
        rw [Session.fanout_publish, Fanout.publish_error aligned]
        rfl
      rw [turn]
      exact released_staffed (show last.pump = some pump.turned from rfl) own released
    | nothing empty =>
      rw [runPump_idle piped polled]
      exact .piped rfl whole.turned ⟨pair.posts, pair.excused⟩ aligned fun observer member waits =>
        absurd (empty observer member) waits

private theorem Staffed.told (staffed : a.Staffed) {kind : Message.Kind} {update : Observer Refusal → Observer Refusal}
    (pair : ∀ pump, Pair pump a.transport.observers →
      Pair pump { a.transport.observers with members := a.transport.observers.members.map update })
    (others : ∀ observer, Observers.feeds kind observer = false → update observer = observer) :
    ((a.transport.observed kind).foldl hear { a with
      transport := { a.transport with
        observers := { a.transport.observers with members := a.transport.observers.members.map update } } }).Staffed := by
  have vacant (stopped : a.pump = none) : a.transport.observers.members.map update = [] := by
    rw [staffed.vacant stopped]
    rfl
  have manned (pump : Pump) (piped : a.pump = some pump) :=
    (⟨(staffed.manned pump piped).1, pair pump (staffed.manned pump piped).2⟩ : _ ∧ _)
  unfold Loopback.observed
  split
  next deaf =>
    refine ⟨⟨vacant, manned, fun observer member waits => ?_⟩, staffed.aligned⟩
    obtain ⟨old, inside, rfl⟩ := List.mem_map.mp member
    have unheard : Observers.feeds kind old = false := by
      have empty := List.length_eq_zero_iff.mp deaf
      simpa using List.filter_eq_nil_iff.mp empty old inside
    rw [others old unheard] at waits
    exact staffed.awake old inside waits
  next heard =>
    cases piped : a.pump with
    | none =>
      rw [Observers.liveOf, staffed.vacant piped] at heard
      exact absurd rfl heard
    | some pump =>
      simp only [List.foldl_cons, List.foldl_nil, hear, Option.isSome_some, if_true]
      obtain ⟨whole, pair⟩ := manned pump piped
      refine .piped (wake_pump _ _) whole ?_ ?_ fun _ _ _ => mem_wake _ _
      · rw [wake_transport]
        exact pair
      · rw [wake_session]
        exact staffed.aligned.symm.trans (congrArg _ piped)

private theorem Staffed.wake (staffed : a.Staffed) (task : Task) : (a.wake task).Staffed :=
  staffed.bypass (Bypasses.wake ⟨rfl, rfl, id⟩ task) (by rw [wake_session])

private theorem affect_staffed (staffed : a.Staffed) (event : Loopback.Event) : (a.affect event).Staffed := by
  apply Staffed.wake
  cases event with
  | refuseNext refusal => exact staffed.bypass ⟨rfl, rfl, id⟩ rfl
  | emit message => exact staffed.told (fun _ pair => pair.deliver message) fun observer deaf => by simp [deaf]
  | fail kind refusal => exact staffed.told (fun _ pair => pair.fail kind refusal) fun observer deaf => by simp [deaf]

private theorem begin_staffed (staffed : a.Staffed) (step : Step Loopback) (uncut : ∀ kind, step ≠ .cut kind) :
    (a.begin step).2.Staffed := by
  have aside {b : Activity Loopback} (past : Bypasses Loopback.observers a b ∧ b.session = a.session) : b.Staffed :=
    staffed.bypass past.1 (congrArg Session.fanout past.2)
  cases step with
  | cut kind => exact absurd rfl (uncut kind)
  | openStream => exact ⟨⟨staffed.vacant, staffed.manned, staffed.awake⟩, staffed.aligned⟩
  | poll stream =>
    cases found : a.session.fanout.stream? stream with
    | none => exact (begin_poll_none found).symm ▸ staffed
    | some attachment => exact (begin_poll_some found).symm ▸ session_staffed staffed _
  | drain stream =>
    cases found : a.session.fanout.stream? stream with
    | none => exact (begin_drain_none found).symm ▸ staffed
    | some attachment => exact (begin_drain_some found).symm ▸ session_staffed staffed _
  | drop stream => exact session_staffed staffed _
  | transport event => exact affect_staffed staffed event
  | _ => exact aside (begin_bypasses Loopback.reserved a _ trivial)

private theorem run_staffed (staffed : a.Staffed) (task : Task) :
    (run { a with ready := a.ready.erase task } task).Staffed := by
  have unready (other : task ≠ .pump) : ({ a with ready := a.ready.erase task } : Activity Loopback).Staffed :=
    staffed.bypass ⟨rfl, rfl, fun awake => (List.mem_erase_of_ne other.symm).mpr awake⟩ rfl
  cases task with
  | call call =>
    change (runCall { a with ready := a.ready.erase (.call call) } call).Staffed
    rcases runCall_bypasses Loopback.reserved { a with ready := a.ready.erase (.call call) } call with
      same | ⟨after, past, adjusted⟩
    · rw [same]
      exact unready nofun
    · rw [adjusted]
      exact adjustPump_staffed ((unready nofun).toPosted.bypass past)
  | background => exact unready nofun
  | pump =>
    change (runPump { a with ready := a.ready.erase .pump } (127 + 1)).Staffed
    have aligned := staffed.aligned
    by_cases stopped : a.pump = none
    · rw [runPump_stopped (a := { a with ready := a.ready.erase .pump }) stopped]
      rw [stopped] at aligned
      exact .unmanned stopped (staffed.vacant stopped) aligned.symm
    · obtain ⟨pump, piped⟩ := Option.ne_none_iff_exists'.mp stopped
      obtain ⟨whole, pair⟩ := staffed.manned pump piped
      rw [piped] at aligned
      exact runPump_staffed pumpTurn piped whole pair aligned.symm

private theorem move_staffed (staffed : a.Staffed) (move : Move Loopback) (uncut : ∀ kind, move ≠ .step (.cut kind)) :
    (a.move move).Staffed := by
  cases move with
  | step step => exact begin_staffed staffed step fun kind same => uncut kind (same ▸ rfl)
  | turn task =>
    unfold Activity.move
    dsimp only
    split
    · exact run_staffed staffed task
    · exact staffed

theorem moves_staffed (list : List (Move Loopback)) (uncut : ∀ kind, .step (.cut kind) ∉ list) (staffed : a.Staffed) :
    (a.moves list).Staffed := by
  induction list generalizing a with
  | nil => exact staffed
  | cons move list ih =>
    have whole : ∀ kind, move ≠ .step (.cut kind) := fun kind same => uncut kind (same ▸ List.mem_cons_self)
    exact ih (fun kind member => uncut kind (List.mem_cons_of_mem _ member)) (move_staffed staffed move whole)

end

end Activity

end Subscriber
