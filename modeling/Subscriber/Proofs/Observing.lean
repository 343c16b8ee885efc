import Subscriber.Activity
import Subscriber.Proofs.LinkFailure
import Subscriber.Proofs.Merging

/-! What the two observers of a pump hold. Together they have the messages that were read and not taken, each
the messages of its own kind in the order of their arrival, and behind them the failure of the connection. -/

namespace Subscriber
open Merge (lane)

def Push.message? : Push → Option Message
  | .message found => some found
  | _ => none

def Observer.holding (id : Nat) (kind : Message.Kind) (waiting : List Message) (failure : Option Fault) : Observer Fault :=
  { id, kind, queued := (lane kind.side waiting).map .ok ++ failure.toList.map .error, live := failure.isNone }

/-- The observers of a connection that only one session uses. -/
def Pump.holding (waiting : List Message) (failure : Option Fault) : Option Pump → List (Observer Fault)
  | none => []
  | some pump =>
    [.holding pump.channels .channel waiting failure, .holding pump.patterns .pattern waiting failure]

theorem Pump.mem_holding {pump : Pump} {waiting : List Message} {failure : Option Fault} {observer : Observer Fault}
    (member : observer ∈ Pump.holding waiting failure (some pump)) :
    observer.id = pump.channels ∨ observer.id = pump.patterns := by
  rcases List.mem_cons.mp member with rfl | last
  · exact Or.inl rfl
  · exact Or.inr (List.mem_singleton.mp last ▸ rfl)

namespace Observers

private theorem holding_deliver (message : Message) (id : Nat) (kind : Message.Kind) (waiting : List Message) :
    (if feeds message.kind (.holding id kind waiting none) then
      { Observer.holding id kind waiting none with
        queued := (Observer.holding id kind waiting none).queued ++ [.ok message] }
      else .holding id kind waiting none) = Observer.holding id kind (waiting ++ [message]) none := by
  by_cases own : kind = message.kind
  · subst own
    have last : lane message.kind.side [message] = [message] := Merge.lane_cons_same rfl
    simp [feeds, Observer.holding, Merge.lane_append, last]
  · have apart : message.kind.side ≠ kind.side := by
      intro same
      apply own
      cases kind <;> cases known : message.kind <;> simp_all [Message.Kind.side]
    have last : lane kind.side [message] = [] := Merge.lane_cons_other apart
    simp [feeds, Observer.holding, Merge.lane_append, last, own]

private theorem holding_fail (fault : Fault) (kind : Message.Kind) (id : Nat) (own : Message.Kind) (waiting : List Message) :
    (if feeds kind (.holding id own waiting none) then
      { Observer.holding id own waiting none with
        queued := (Observer.holding id own waiting none).queued ++ [.error fault], live := false }
      else .holding id own waiting none) =
      Observer.holding id own waiting (if own = kind then some fault else none) := by
  by_cases same : own = kind
  · simp [feeds, Observer.holding, same]
  · simp [feeds, Observer.holding, same]

private theorem holding_failed (fault : Fault) (kind : Message.Kind) (id : Nat) (own : Message.Kind) (waiting : List Message) :
    feeds kind (.holding id own waiting (some fault)) = false := rfl

theorem members_deliver {observers : Observers Fault} {pump : Option Pump} {waiting : List Message}
    (held : observers.members = Pump.holding waiting none pump) (message : Message) :
    (observers.deliver message).members = Pump.holding (waiting ++ [message]) none pump := by
  unfold deliver
  rw [held]
  cases pump with
  | none => rfl
  | some pump =>
    simp only [Pump.holding, List.map_cons, List.map_nil]
    rw [holding_deliver message pump.channels, holding_deliver message pump.patterns]

private theorem members_deliver_failed {observers : Observers Fault} {pump : Option Pump} {waiting : List Message} {fault : Fault}
    (held : observers.members = Pump.holding waiting (some fault) pump) (message : Message) :
    (observers.deliver message).members = Pump.holding waiting (some fault) pump := by
  unfold deliver
  rw [held]
  cases pump with
  | none => rfl
  | some pump => rfl

private theorem members_fail {observers : Observers Fault} {pump : Option Pump} {waiting : List Message}
    (held : observers.members = Pump.holding waiting none pump) (fault : Fault) :
    ((observers.fail .channel fault).fail .pattern fault).members = Pump.holding waiting (some fault) pump := by
  unfold fail
  rw [held]
  cases pump with
  | none => rfl
  | some pump =>
    simp only [Pump.holding, List.map_cons, List.map_nil]
    rw [holding_fail fault .channel pump.channels, holding_fail fault .channel pump.patterns]
    simp only [if_true, reduceCtorEq, if_false]
    rw [holding_failed, holding_fail fault .pattern pump.patterns]
    rfl

theorem live_holding {observers : Observers Fault} {pump : Pump} {waiting : List Message}
    (held : observers.members = Pump.holding waiting none (some pump)) :
    observers.live ≠ 0 ∧ ∀ kind, observers.liveOf kind ≠ 0 := by
  refine ⟨?_, fun kind => ?_⟩
  · rw [live, held]
    exact nofun
  · rw [liveOf, held]
    cases kind <;> exact nofun

end Observers

namespace Link

def arriving (link : Link) : List Message :=
  if link.reading && link.failure.isNone then
    link.inbound.readAll.frames.filterMap fun frame => (Push.ofFrame frame).message?
  else []

/-- What waits for a pump is with its observers. A pump that has something to do is awake, or will be
told of it. -/
structure Carries (awake : Prop) (pump : Option Pump) (waiting : List Message) (link : Link) : Prop where
  members : link.observers.members = Pump.holding waiting link.failure pump
  told : pump.isSome = true → waiting ≠ [] ∨ link.failure.isSome = true → awake ∨ .observed ∈ link.signals
  opened : link.closed = false

section
variable {awake : Prop} {pump : Option Pump} {waiting : List Message} {link after : Link}

theorem Carries.aside (carries : link.Carries awake pump waiting) (observers : after.observers = link.observers)
    (failure : after.failure = link.failure) (closed : after.closed = link.closed)
    (signals : link.signals ⊆ after.signals) : after.Carries awake pump waiting := by
  refine ⟨by rw [observers, failure]; exact carries.members, fun some busy => ?_, closed.trans carries.opened⟩
  rw [failure] at busy
  exact (carries.told some busy).imp_right fun told => signals told

private theorem receive_carries (carries : link.Carries awake pump waiting) (alive : link.failure = none) (push : Push) :
    (link.receive push).Carries awake pump (waiting ++ push.message?.toList) := by
  obtain ⟨pending, signals, received⟩ := receive_eq link push
  cases push with
  | message message =>
    have held := carries.members
    rw [alive] at held
    refine ⟨?_, fun piped _ => Or.inr ?_, ?_⟩
    · rw [received, alive]
      exact Observers.members_deliver held message
    · obtain ⟨pump, rfl⟩ := Option.isSome_iff_exists.mp piped
      unfold receive
      dsimp only
      rw [if_neg ((Observers.live_holding held).2 message.kind)]
      exact List.mem_append_right _ List.mem_cons_self
    · rw [received]
      exact carries.opened
  | _ =>
    rw [received]
    have same : Carries awake pump (waiting ++ []) { link with pending, signals := link.signals ++ signals } := by
      rw [List.append_nil]
      exact carries.aside rfl rfl rfl (List.subset_append_left _ _)
    exact same

/-- Whoever has seen a failure sees nothing that comes behind it. -/
theorem receive_carries_failed {fault : Fault} (carries : link.Carries awake pump waiting)
    (failed : link.failure = some fault) (push : Push) : (link.receive push).Carries awake pump waiting := by
  obtain ⟨pending, signals, received⟩ := receive_eq link push
  have held := carries.members
  rw [failed] at held
  refine ⟨?_, fun piped busy => ?_, ?_⟩
  · rw [received, failed]
    cases push with
    | message message => exact Observers.members_deliver_failed held message
    | _ => exact held
  · rw [received] at busy ⊢
    exact (carries.told piped busy).imp_right (List.mem_append_left signals)
  · rw [received]
    exact carries.opened

private theorem receiveAll_carries (frames : List Frame) (carries : link.Carries awake pump waiting)
    (alive : link.failure = none) :
    (link.receiveAll frames).Carries awake pump
        (waiting ++ frames.filterMap fun frame => (Push.ofFrame frame).message?) ∧
      (link.receiveAll frames).failure = none := by
  induction frames generalizing link waiting with
  | nil =>
    rw [List.filterMap_nil, List.append_nil]
    exact ⟨carries, alive⟩
  | cons frame frames ih =>
    have next := receive_carries carries alive (.ofFrame frame)
    have rest := ih next ((failure_receive link _).trans alive)
    rw [List.append_assoc] at rest
    rw [List.filterMap_cons]
    cases found : (Push.ofFrame frame).message? with
    | none =>
      rw [found] at rest
      exact rest
    | some message =>
      rw [found] at rest
      exact rest

private theorem receiveAll_carries_failed {fault : Fault} (frames : List Frame) (carries : link.Carries awake pump waiting)
    (failed : link.failure = some fault) : (link.receiveAll frames).Carries awake pump waiting := by
  induction frames generalizing link with
  | nil => exact carries
  | cons frame frames ih =>
    exact ih (receive_carries_failed carries failed _) ((failure_receive link _).trans failed)

theorem fail_carries (carries : link.Carries awake pump waiting) (fault : Fault) :
    (link.fail fault).Carries awake pump waiting := by
  cases known : link.failure with
  | some first =>
    rw [fail_failed known]
    exact carries
  | none =>
    have held := carries.members
    rw [known] at held
    rw [fail_alive known]
    refine ⟨Observers.members_fail held fault, fun piped _ => Or.inr ?_, carries.opened⟩
    obtain ⟨pump, rfl⟩ := Option.isSome_iff_exists.mp piped
    dsimp only
    rw [if_neg (Observers.live_holding held).1]
    exact List.mem_append_right _ List.mem_cons_self

private theorem read_carries (carries : link.Carries awake pump waiting) :
    link.read.Carries awake pump (waiting ++ link.arriving) := by
  cases reading : link.reading with
  | false =>
    have quiet : link.arriving = [] := by simp [arriving, reading]
    rw [read, if_neg (by simp [reading]), quiet, List.append_nil]
    exact carries
  | true =>
    have opened : Carries awake pump waiting { link with inbound := link.inbound.readAll.rest } :=
      carries.aside rfl rfl rfl (List.Subset.refl _)
    have passed : link.passed.Carries awake pump (waiting ++ link.arriving) := by
      cases known : link.failure with
      | none =>
        have new : link.arriving = link.inbound.readAll.frames.filterMap fun frame => (Push.ofFrame frame).message? := by
          simp [arriving, reading, known]
        rw [new]
        exact (receiveAll_carries _ opened known).1
      | some fault =>
        have quiet : link.arriving = [] := by simp [arriving, known]
        rw [quiet, List.append_nil]
        exact receiveAll_carries_failed _ opened known
    cases ends : link.inbound.readAll.failure with
    | none =>
      rw [read_complete reading ends]
      exact passed
    | some error =>
      rw [read_broken reading ends]
      exact (fail_carries passed (.ofError error)).aside rfl rfl rfl (List.Subset.refl _)

private theorem stopWriting_carries (carries : link.Carries awake pump waiting) : link.stopWriting.Carries awake pump waiting := by
  rw [stopWriting_eq]
  exact carries.aside rfl rfl rfl (List.subset_append_left _ _)

theorem send_carries (carries : link.Carries awake pump waiting) (bytes : Bytes) :
    (link.send bytes).Carries awake pump waiting := by
  unfold send
  split
  · exact carries.aside rfl rfl rfl (List.Subset.refl _)
  · exact carries.aside rfl rfl rfl (List.Subset.refl _)
  next cause outbound _ =>
    have sent : Carries awake pump waiting { link with outbound } := carries.aside rfl rfl rfl (List.Subset.refl _)
    exact stopWriting_carries (fail_carries sent (.io cause))

private theorem dequeue_carries (carries : link.Carries awake pump waiting) (queue : List Request) :
    (link.dequeue queue).Carries awake pump waiting := by
  unfold dequeue
  split
  · exact carries.aside rfl rfl rfl (List.Subset.refl _)
  · dsimp only
    split
    · exact carries.aside rfl rfl rfl (List.Subset.refl _)
    · exact carries.aside rfl rfl rfl (List.subset_append_left _ _)

private theorem perform_carries (carries : link.Carries awake pump waiting) (request : Request) :
    (link.perform request).Carries awake pump waiting := by
  unfold perform
  split
  · exact carries.aside rfl rfl rfl (List.subset_append_left _ _)
  · apply send_carries
    exact carries.aside rfl rfl rfl (List.Subset.refl _)

private theorem serve_carries {link : Link} (carries : link.Carries awake pump waiting) : link.serve.Carries awake pump waiting := by
  fun_induction serve link with
  | case1 => exact carries
  | case2 link request queue front idle ih => exact ih (perform_carries (dequeue_carries carries queue) request)
  | case3 => exact carries

private theorem write_carries (carries : link.Carries awake pump waiting) : link.write.Carries awake pump waiting := by
  unfold write
  split
  · exact serve_carries (send_carries carries _)
  · exact serve_carries carries

private theorem wind_carries (carries : link.Carries awake pump waiting) : link.wind.Carries awake pump waiting := by
  unfold wind
  rw [carries.opened]
  exact carries

theorem work_carries (carries : link.Carries awake pump waiting) :
    link.work.Carries awake pump (waiting ++ link.arriving) := wind_carries (write_carries (read_carries carries))

end

end Link

end Subscriber
