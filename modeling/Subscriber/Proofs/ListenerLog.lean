import Mathlib.Data.List.Induction
import Subscriber.Loopback
import Subscriber.Proofs.Clearing
import Subscriber.Proofs.OwnTurns

/-! The listener's log. Whoever keeps two sets by what the listener is told, and by nothing else, has the sets of the
session, until a cancellation has failed to take something back and clears it nevertheless. -/

namespace Subscriber

namespace Change

def follow (kind : Message.Kind) (targets : Targets) (change : Change) : Targets :=
  if change.kind = kind then
    if change.added then targets.insert change.name else targets.erase change.name
  else targets

/-- The names of a kind behind all the events, when there were none before. -/
def replay (kind : Message.Kind) (changes : List Change) : Targets := changes.foldl (follow kind) {}

def Tallied (changes : List Change) : Prop :=
  ∀ earlier change later, changes = earlier ++ change :: later →
    (replay change.kind (earlier ++ [change])).size = change.count

private theorem replay_concat (kind : Message.Kind) (changes : List Change) (change : Change) :
    replay kind (changes ++ [change]) = follow kind (replay kind changes) change := by
  simp only [replay, List.foldl_append, List.foldl_cons, List.foldl_nil]

private theorem distinct_follow (kind : Message.Kind) {targets : Targets} (distinct : targets.Distinct) (change : Change) :
    (follow kind targets change).Distinct := by
  unfold follow
  split
  · split
    · exact Targets.distinct_insert distinct _
    · exact Targets.distinct_erase distinct _
  · exact distinct

private theorem distinct_replay (kind : Message.Kind) (changes : List Change) : (replay kind changes).Distinct :=
  List.foldlRecOn changes (follow kind) List.nodup_nil fun _ distinct change _ => distinct_follow kind distinct change

private theorem tallied_nil : Tallied [] := fun earlier change later split => by simp at split

private theorem Tallied.concat {changes : List Change} (tallied : Tallied changes) {change : Change}
    (counted : (replay change.kind (changes ++ [change])).size = change.count) : Tallied (changes ++ [change]) := by
  intro earlier other later split
  rcases List.eq_nil_or_concat later with rfl | ⟨between, last, rfl⟩
  · obtain ⟨rfl, same⟩ := List.append_inj' split rfl
    obtain rfl := List.singleton_injective same
    exact counted
  · rw [List.concat_eq_append, ← List.cons_append, ← List.append_assoc] at split
    exact tallied earlier other between (List.append_inj' split rfl).1

end Change

namespace Session
variable {session : Session}

/-- The log as it should be. -/
structure Logged (session : Session) : Prop where
  tallied : Change.Tallied session.changes
  tracked : ∀ kind, session.tracked kind = Change.replay kind session.changes

private theorem Logged.distinct (logged : session.Logged) : session.Distinct := by
  intro kind
  rw [logged.tracked]
  exact Change.distinct_replay kind _

theorem Logged.same (logged : session.Logged) {after : Session} (same : SameRecord session after) : after.Logged := by
  refine ⟨same.changes ▸ logged.tallied, fun kind => ?_⟩
  rw [same.tracked, same.changes]
  exact logged.tracked kind

private theorem Logged.hear (logged : session.Logged) (phase : Phase) (answer : Except Error Unit) :
    (session.hear phase answer).Logged := by
  cases answer <;> exact logged.same ⟨rfl, rfl, rfl, rfl⟩

private theorem update_nil (session : Session) (kind : Message.Kind) (added sweeping : Bool) :
    session.update kind added [] sweeping = session := by
  cases kind <;> simp [update, setTracked, tracked, Targets.change]

private theorem update_cons (session : Session) (kind : Message.Kind) (added : Bool) (name : Bytes) (names : List Bytes)
    (sweeping : Bool) : session.update kind added (name :: names) sweeping =
      (session.update kind added [name] sweeping).update kind added names sweeping := by
  cases kind <;> simp [update, setTracked, tracked, Targets.change]

private theorem changes_update_one (session : Session) (kind : Message.Kind) (added : Bool) (name : Bytes) (sweeping : Bool) :
    (session.update kind added [name] sweeping).changes = session.changes ++
      [{ kind, added, name, sweeping, count := ((session.update kind added [name] sweeping).tracked kind).size }] := by
  cases kind <;> rfl

private theorem Logged.update_one (logged : session.Logged) (kind : Message.Kind) (added : Bool) (name : Bytes)
    (sweeping : Bool) : (session.update kind added [name] sweeping).Logged := by
  have told := changes_update_one session kind added name sweeping
  have tracked (other : Message.Kind) : (session.update kind added [name] sweeping).tracked other =
      Change.replay other (session.update kind added [name] sweeping).changes := by
    rw [told, Change.replay_concat, tracked_update, logged.tracked other]
    rfl
  refine ⟨?_, tracked⟩
  have counted := congrArg Targets.size (tracked kind)
  rw [told] at counted ⊢
  exact logged.tallied.concat counted.symm

private theorem Logged.update (logged : session.Logged) (kind : Message.Kind) (added : Bool) (names : List Bytes)
    (sweeping : Bool) : (session.update kind added names sweeping).Logged := by
  induction names generalizing session with
  | nil =>
    rw [update_nil]
    exact logged
  | cons name names ih =>
    rw [update_cons]
    exact ih (logged.update_one kind added name sweeping)

private theorem Logged.finishCancel (logged : session.Logged) (none : ∀ kind, session.tracked kind = {}) (first : Bool)
    (channels patterns : Except Error Unit) : (session.finishCancel first channels patterns).2.Logged := by
  have told := (finishCancel_record session first channels patterns).2.2.2.1
  refine ⟨told ▸ logged.tallied, fun kind => ?_⟩
  rw [finishCancel_tracked, told, ← none kind]
  exact logged.tracked kind

/-- How far a call has come whose own steps are looked at while the log is as it should be. A cancellation that has
failed has still told of everything it has taken back. -/
def Logs (operation : Operation) (_ : List Deed) : Progress → Session → Prop
  | .asking phase, session => ((phase.Clears → operation = .cancel) ∧ session.Clearing phase) ∧ session.Logged
  | .finished result, session =>
    Change.Tallied session.changes ∧ ((operation = .cancel → result = .ok ()) → session.Logged)

section
variable {deeds : List Deed} {first : Bool} {channels : Except Error Unit}

theorem Logged.finished (logged : session.Logged) (operation : Operation) (result : Except Error Unit) :
    Logs operation deeds (.finished result) session := ⟨logged.tallied, fun _ => logged⟩

theorem Logged.finishCancel_logs (logged : session.Logged) (patterns : Except Error Unit)
    (none : channels = .ok () → patterns = .ok () → ∀ kind, session.tracked kind = {}) :
    Logs .cancel deeds (session.finishCancel first channels patterns).1 (session.finishCancel first channels patterns).2 := by
  have told := (finishCancel_record session first channels patterns).2.2.2.1
  refine ⟨told ▸ logged.tallied, fun granted => ?_⟩
  have both : channels = .ok () ∧ patterns = .ok () := by
    have result := granted rfl
    cases channels with
    | error error => cases result
    | ok => exact ⟨rfl, result⟩
  exact logged.finishCancel (none both.1 both.2) first channels patterns

theorem Logged.cancelPatterns_logs (logged : session.Logged) (cancelled : session.cancelled = true)
    (empty : channels = .ok () → session.tracked .channel = {}) :
    Logs .cancel deeds (session.cancelPatterns first channels).1 (session.cancelPatterns first channels).2 := by
  rcases stepped : session.cancelPatterns first channels with ⟨result | next, after⟩
  · unfold cancelPatterns at stepped
    split at stepped
    next none =>
      rw [← stepped]
      refine logged.finishCancel_logs _ fun granted _ kind => ?_
      cases kind with
      | channel => exact empty granted
      | pattern => exact sorted_nil none
    · cases stepped
  · exact ⟨⟨fun _ => rfl, cancelPatterns_clearing cancelled empty stepped⟩, cancelPatterns_still stepped ▸ logged⟩

private theorem Logged.start_logs (logged : session.Logged) (operation : Operation) :
    Logs operation deeds (session.start operation).1 (session.start operation).2 := by
  have removes (kind : Message.Kind) (names : List Bytes) (sweeping : Bool) :
      Logs operation deeds (session.remove kind names sweeping).1 (session.remove kind names sweeping).2 := by
    unfold Session.remove
    split
    · exact logged.finished operation _
    · exact ⟨⟨False.elim, trivial⟩, logged⟩
  unfold start
  cases operation with
  | add kind names =>
    dsimp only
    split
    · exact logged.finished _ _
    · split
      · exact logged.finished _ _
      · exact ⟨⟨False.elim, trivial⟩, logged⟩
  | remove kind names =>
    dsimp only
    split
    · exact logged.finished _ _
    · exact removes kind names false
  | removeAll kind => exact removes kind _ true
  | cancel =>
    have cancelled : ({ session with cancelled := true } : Session).cancelled = true := rfl
    have still : ({ session with cancelled := true } : Session).Logged := by
      refine ⟨logged.tallied, fun kind => ?_⟩
      cases kind with
      | channel => exact logged.tracked .channel
      | pattern => exact logged.tracked .pattern
    dsimp only
    split
    next none => exact still.cancelPatterns_logs cancelled fun _ => sorted_nil none
    next => exact ⟨⟨fun _ => rfl, within_sorted .channel cancelled⟩, still⟩

end

private theorem path_logs (operation : Operation) : Path operation Logged (Logs operation) := by
  refine ⟨fun session logged => logged.start_logs operation, fun deeds phase session answer asked => ?_⟩
  obtain ⟨⟨only, clearing⟩, logged⟩ := asked
  have heard := logged.hear phase answer
  have distinct := heard.distinct
  cases phase with
  | adding kind targets =>
    cases answer with
    | ok =>
      simp only [resume]
      split
      · exact ⟨⟨False.elim, trivial⟩, heard⟩
      · exact (heard.update kind true targets false).finished _ _
    | error error => exact heard.finished _ _
  | undoing kind targets => exact heard.finished _ _
  | removing kind targets sweeping =>
    cases answer with
    | ok => exact (heard.update kind false targets sweeping).finished _ _
    | error error => exact heard.finished _ _
  | clearingChannels targets first =>
    obtain rfl := only trivial
    have within := Within.hear clearing (.clearingChannels targets first) answer
    cases answer with
    | ok =>
      exact (heard.update .channel false targets true).cancelPatterns_logs ((cancelled_update ..).trans within.cancelled)
        fun _ => tracked_cleared (distinct .channel) within.covered
    | error error => exact heard.cancelPatterns_logs within.cancelled fun granted => by cases granted
  | clearingPatterns targets first channels =>
    obtain rfl := only trivial
    have within := Within.hear clearing.2 (.clearingPatterns targets first channels) answer
    cases answer with
    | ok =>
      refine (heard.update .pattern false targets true).finishCancel_logs _ fun granted _ kind => ?_
      cases kind with
      | channel => exact ((clearing.1 granted).erased .pattern targets true).none
      | pattern => exact tracked_cleared (distinct .pattern) within.covered
    | error error => exact heard.finishCancel_logs _ fun _ granted => by cases granted

end Session

namespace Activity
open Session (Logged)

section
variable {τ : Type} [Transport τ] {transport : τ} {list : List (Move τ)}

/-- Every cancellation that has returned has taken back what it found. -/
def Unfailing (transport : τ) (list : List (Move τ)) : Prop :=
  ∀ call result, .step (.call call .cancel) ∈ list → (call, result) ∈ (moves { transport } list).finished → result = .ok ()

private theorem Unfailing.left {move : Move τ} (unfailing : Unfailing transport (list ++ [move]))
    (numbered : Numbered (list ++ [move])) : Unfailing transport list := fun call result started finished =>
  unfailing call result (List.mem_append_left _ started) (finished_concat numbered started finished)

private theorem followed_logged : Followed Logged Session.Logs := by
  refine ⟨⟨?_, ?_, ?_, ?_⟩, ?_, ?_, Session.path_logs, ?_⟩
  · exact fun session logged => logged.same ⟨rfl, rfl, rfl, rfl⟩
  · exact fun session generation item logged => logged.same (Session.publish_sameRecord session generation item)
  · exact fun session generation logged => logged.same (Session.finish_sameRecord session generation)
  · exact fun session notice logged => logged.same ⟨rfl, rfl, rfl, rfl⟩
  · exact fun session stream logged => logged.same (Session.poll_sameRecord session stream)
  · exact fun session stream logged => logged.same (Session.drop_sameRecord session stream)
  · exact fun operation deeds phase session asked logged => ⟨asked.1, logged⟩

/-- One move keeps the log as it should be, unless it is the turn in which a cancellation fails; and even then every
event reports what it should. -/
theorem move_logged (numbered : Numbered list) (logged : (moves { transport } list).session.Logged) (move : Move τ) :
    Change.Tallied (moves { transport } (list ++ [move])).session.changes ∧
      (Unfailing transport (list ++ [move]) → (moves { transport } (list ++ [move])).session.Logged) := by
  rcases followed_logged.move numbered logged move with still | ⟨call, operation, _, progress, started, asserted, returned⟩
  · exact ⟨still.tallied, fun _ => still⟩
  · cases progress with
    | asking phase => exact ⟨asserted.2.tallied, fun _ => asserted.2⟩
    | finished result =>
      refine ⟨asserted.1, fun unfailing => asserted.2 fun cancels => ?_⟩
      subst cancels
      exact unfailing call result (List.mem_append_left _ started) (returned result rfl)

private theorem moves_logged (numbered : Numbered list) (unfailing : Unfailing transport list) :
    (moves { transport } list).session.Logged := by
  induction list using List.reverseRecOn with
  | nil =>
    refine ⟨Change.tallied_nil, fun kind => ?_⟩
    cases kind <;> rfl
  | append_singleton list move ih => exact (move_logged numbered.left (ih numbered.left (unfailing.left numbered)) move).2 unfailing

/-- The listener's log is the session's history. However calls, failures and abandonments are interleaved: as long as no
cancellation has returned a failure, whoever starts with two empty sets and follows the events has the session's own sets,
and up to the turn in which one does, every event reports the size of the set that it leads to. -/
theorem log_is_history (transport : τ) (before : List (Move τ)) (numbered : Numbered before)
    (unfailing : Unfailing transport before) :
    (∀ kind, (moves { transport } before).session.tracked kind =
      Change.replay kind (moves { transport } before).session.changes) ∧
    Change.Tallied (moves { transport } before).session.changes ∧
    ∀ move, Change.Tallied (moves { transport } (before ++ [move])).session.changes := by
  have logged := moves_logged numbered unfailing
  exact ⟨logged.tracked, logged.tallied, fun move => (move_logged numbered logged move).1⟩

end

/-- Names come twice or were never there, a call is abandoned at the gate, and the server refuses to take the channels
back: the cancellation clears what its last event still counts. -/
theorem log_is_history_refused :
    let quiet : Loopback := {}
    let before : List (Move Loopback) :=
      [.step (.call 0 (.add .channel [[97], [98], [97]])), .turn (.call 0), .step (.call 1 (.add .pattern [[42]])),
        .turn (.call 1), .step (.call 2 (.remove .channel [[99], [97]])), .turn (.call 2), .step (.setGate true),
        .step (.call 3 (.add .channel [[100]])), .turn (.call 3), .step (.abandon 3), .step (.setGate false),
        .step (.call 4 .cancel), .step (.transport (.refuseNext ⟨"no"⟩))]
    let last : Move Loopback := .turn (.call 4)
    let completed := moves { transport := quiet } (before ++ [last])
    Numbered before ∧ Unfailing quiet before ∧
      (moves { transport := quiet } before).session.tracked .channel =
        Change.replay .channel (moves { transport := quiet } before).session.changes ∧
      Change.Tallied (moves { transport := quiet } (before ++ [last])).session.changes ∧
      (4, .error (.server "no")) ∈ completed.finished ∧
      completed.session.changes.map (·.count) = [1, 2, 2, 1, 2, 1, 0] ∧
      completed.session.tracked .channel ≠ Change.replay .channel completed.session.changes := by
  intro quiet before last completed
  have numbered : Numbered before := by
    unfold Numbered
    decide +kernel
  have unfailing : Unfailing quiet before := by
    have finished : (moves { transport := quiet } before).finished = [(0, .ok ()), (1, .ok ()), (2, .ok ())] := by
      decide +kernel
    intro call result _ member
    rw [finished] at member
    simp only [List.mem_cons, Prod.mk.injEq, List.not_mem_nil, or_false] at member
    obtain ⟨-, same⟩ | ⟨-, same⟩ | ⟨-, same⟩ := member <;> exact same
  obtain ⟨tracked, -, tallied⟩ := log_is_history quiet before numbered unfailing
  refine ⟨numbered, unfailing, tracked .channel, tallied last, ?_, ?_, ?_⟩ <;> decide +kernel

end Activity

end Subscriber
