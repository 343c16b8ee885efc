import Subscriber.Session
import Subscriber.Proofs.Histories
import Subscriber.Proofs.Targets

/-! What a session tracks beside what its server has. Calls overlap and their commands are executed in
any order; a subscription that comes through after the cancellation owes the server its removal, and
what is owed is part of the invariant. Here each step of one call is shown to keep it. -/

namespace Subscriber

open Targets (replay insertAll eraseAll)

/-- A command that takes away what a cancelled session must not keep. -/
def Phase.Compensates : Phase → Prop
  | .undoing .. | .clearingChannels .. | .clearingPatterns .. => True
  | .adding .. | .removing .. => False

def Phase.Clears : Phase → Prop
  | .clearingChannels .. | .clearingPatterns .. => True
  | .adding .. | .removing .. | .undoing .. => False

namespace Session

@[simp] theorem tracked_update (session : Session) (kind other : Message.Kind) (added : Bool) (names : List Bytes)
    (sweeping : Bool) : (session.update kind added names sweeping).tracked other =
      if kind = other then
        if added then (session.tracked other).insertAll names else (session.tracked other).eraseAll names
      else session.tracked other := by
  cases kind <;> cases other <;> cases added <;> simp [update, setTracked, tracked, Targets.change_snd, insertAll, eraseAll]

@[simp] theorem cancelled_update (session : Session) (kind : Message.Kind) (added : Bool) (names : List Bytes)
    (sweeping : Bool) : (session.update kind added names sweeping).cancelled = session.cancelled := by
  cases kind <;> rfl

@[simp] theorem cancelled_hear (session : Session) (phase : Phase) (answer : Except Error Unit) :
    (session.hear phase answer).cancelled = session.cancelled := by
  cases answer <;> rfl

theorem finishCancel_cancelled {session after : Session} {first : Bool} {channels patterns : Except Error Unit}
    {progress : Progress} (stepped : session.finishCancel first channels patterns = (progress, after)) :
    after.cancelled = session.cancelled := by
  cases first <;> (cases stepped; rfl)

theorem cancelPatterns_cancelled {session after : Session} {first : Bool} {channels : Except Error Unit}
    {progress : Progress} (stepped : session.cancelPatterns first channels = (progress, after)) :
    after.cancelled = session.cancelled := by
  unfold cancelPatterns at stepped
  split at stepped
  · exact finishCancel_cancelled stepped
  · cases stepped; rfl

theorem resume_cancelled {session after : Session} {phase : Phase} {answer : Except Error Unit} {progress : Progress}
    (stepped : session.resume phase answer = (progress, after)) : after.cancelled = session.cancelled := by
  have heard := cancelled_hear session phase answer
  unfold resume at stepped
  dsimp only at stepped
  split at stepped
  · split at stepped
    · cases stepped; exact heard
    · cases stepped; rw [cancelled_update, heard]
  · cases stepped; exact heard
  · cases stepped; exact heard
  · cases stepped; rw [cancelled_update, heard]
  · cases stepped; exact heard
  · rw [cancelPatterns_cancelled stepped, cancelled_update, heard]
  · rw [cancelPatterns_cancelled stepped, heard]
  · rw [finishCancel_cancelled stepped, cancelled_update, heard]
  · rw [finishCancel_cancelled stepped, heard]

theorem start_cancelled {session after : Session} {operation : Operation} {progress : Progress}
    (stepped : session.start operation = (progress, after)) :
    (session.cancelled = true → after.cancelled = true) ∧ (operation = .cancel → after.cancelled = true) := by
  have removes {kind : Message.Kind} {names : List Bytes} {sweeping : Bool}
      (stepped : session.remove kind names sweeping = (progress, after)) : after = session := by
    unfold Session.remove at stepped
    split at stepped <;> (cases stepped; rfl)
  cases operation with
  | add kind names =>
    simp only [start] at stepped
    repeat' split at stepped
    all_goals (cases stepped; exact ⟨id, nofun⟩)
  | remove kind names =>
    simp only [start] at stepped
    split at stepped
    · cases stepped; exact ⟨id, nofun⟩
    · obtain rfl := removes stepped; exact ⟨id, nofun⟩
  | removeAll kind =>
    obtain rfl := removes stepped
    exact ⟨id, nofun⟩
  | cancel =>
    have closed : after.cancelled = true := by
      simp only [start] at stepped
      split at stepped
      · exact cancelPatterns_cancelled stepped
      · cases stepped; rfl
    exact ⟨fun _ => closed, fun _ => closed⟩

def recorded (commands : List (Verb × List Bytes)) (phase : Phase) : Except Error Unit → List (Verb × List Bytes)
  | .ok () => commands ++ [(phase.verb, phase.targets)]
  | .error _ => commands

abbrev adding (awaited : Phase → Prop) (phase : Phase) : Phase → Prop := fun other => other = phase ∨ awaited other

/-- How a session stands to the commands that its server has carried out, when the calls under way
await the answers to commands in the given phases. An open session tracks exactly what the server has;
what the server has beyond a cancelled one is about to be taken back. -/
structure Owes (session : Session) (commands : List (Verb × List Bytes)) (awaited : Phase → Prop) : Prop where
  distinct : ∀ kind, (session.tracked kind).Distinct
  same : session.cancelled = false → ∀ kind, replay kind commands = session.tracked kind
  calm : session.cancelled = false → ∀ phase, awaited phase → ¬ phase.Compensates
  owed : session.cancelled = true → ∀ kind, ∀ name ∈ (replay kind commands).names,
    name ∈ (session.tracked kind).names ∨ ∃ names, awaited (.undoing kind names) ∧ name ∈ names
  clearsChannels : ∀ names first, awaited (.clearingChannels names first) →
    ∀ name ∈ (session.tracked .channel).names, name ∈ names
  clearsPatterns : ∀ names first outcome, awaited (.clearingPatterns names first outcome) →
    session.tracked .channel = {} ∧ ∀ name ∈ (session.tracked .pattern).names, name ∈ names

/-- As long as a cancelled session tracks anything a cancellation is under way. -/
structure Agrees (session : Session) (commands : List (Verb × List Bytes)) (awaited : Phase → Prop) : Prop
    extends Owes session commands awaited where
  clearing : session.cancelled = true →
    (∀ kind, session.tracked kind = {}) ∨ ∃ phase, awaited phase ∧ phase.Clears

variable {session : Session} {commands : List (Verb × List Bytes)} {awaited : Phase → Prop}

namespace Owes

private theorem ofRecord {after : Session} (owes : Owes session commands awaited) (same : SameRecord session after) :
    Owes after commands awaited := by
  refine ⟨?_, ?_, ?_, ?_, ?_, ?_⟩
  all_goals simp only [same.tracked, same.cancelled]
  · exact owes.distinct
  · exact owes.same
  · exact owes.calm
  · exact owes.owed
  · exact owes.clearsChannels
  · exact owes.clearsPatterns

/-- Only what is to be undone cannot be given up. -/
theorem forget {phase : Phase} (owes : Owes session commands (adding awaited phase))
    (settled : ∀ kind names, phase ≠ .undoing kind names) : Owes session commands awaited := by
  refine ⟨owes.distinct, owes.same, ?_, ?_, ?_, ?_⟩
  · exact fun calm other member => owes.calm calm other (Or.inr member)
  · intro cancelled kind name member
    rcases owes.owed cancelled kind name member with kept | ⟨names, undone, inside⟩
    · exact Or.inl kept
    · rcases undone with same | undone
      · exact False.elim (settled kind names same.symm)
      · exact Or.inr ⟨names, undone, inside⟩
  · exact fun names first member => owes.clearsChannels names first (Or.inr member)
  · exact fun names first outcome member => owes.clearsPatterns names first outcome (Or.inr member)

/-- A cancellation may await a command only for all that is tracked. -/
theorem await {phase : Phase} (owes : Owes session commands awaited)
    (calm : session.cancelled = false → ¬ phase.Compensates)
    (channels : ∀ names first, phase = .clearingChannels names first →
      ∀ name ∈ (session.tracked .channel).names, name ∈ names)
    (patterns : ∀ names first outcome, phase = .clearingPatterns names first outcome →
      session.tracked .channel = {} ∧ ∀ name ∈ (session.tracked .pattern).names, name ∈ names) :
    Owes session commands (adding awaited phase) := by
  refine ⟨owes.distinct, owes.same, ?_, ?_, ?_, ?_⟩
  · intro still other member
    rcases member with rfl | member
    · exact calm still
    · exact owes.calm still other member
  · intro cancelled kind name member
    rcases owes.owed cancelled kind name member with kept | ⟨names, undone, inside⟩
    · exact Or.inl kept
    · exact Or.inr ⟨names, Or.inr undone, inside⟩
  · intro names first member
    rcases member with same | member
    · exact channels names first same.symm
    · exact owes.clearsChannels names first member
  · intro names first outcome member
    rcases member with same | member
    · exact patterns names first outcome same.symm
    · exact owes.clearsPatterns names first outcome member

theorem removed (owes : Owes session commands awaited) (kind : Message.Kind) (names : List Bytes)
    (sweeping : Bool) :
    Owes (session.update kind false names sweeping) (commands ++ [(.removing kind, names)]) awaited := by
  have fewer (other : Message.Kind) (name : Bytes)
      (member : name ∈ ((session.update kind false names sweeping).tracked other).names) :
      name ∈ (session.tracked other).names := by
    rw [tracked_update] at member
    split at member
    · exact ((Targets.mem_eraseAll (owes.distinct other)).mp member).2
    · exact member
  refine ⟨?_, ?_, ?_, ?_, ?_, ?_⟩
  · intro other
    rw [tracked_update]
    split
    · exact Targets.distinct_eraseAll (owes.distinct other) names
    · exact owes.distinct other
  · intro calm other
    rw [cancelled_update] at calm
    rw [Targets.replay_append, Targets.follow_removing, owes.same calm, tracked_update]
    rfl
  · rw [cancelled_update]
    exact owes.calm
  · intro cancelled other name member
    rw [cancelled_update] at cancelled
    rw [Targets.replay_append, Targets.follow_removing] at member
    rw [tracked_update]
    split
    next same =>
      rw [if_pos same, Targets.mem_eraseAll (Targets.distinct_replay _ _)] at member
      rcases owes.owed cancelled other name member.2 with kept | undone
      · exact Or.inl ((Targets.mem_eraseAll (owes.distinct other)).mpr ⟨member.1, kept⟩)
      · exact Or.inr undone
    next different =>
      rw [if_neg different] at member
      exact owes.owed cancelled other name member
  · intro cleared first member name tracked
    exact owes.clearsChannels cleared first member name (fewer .channel name tracked)
  · intro cleared first outcome member
    obtain ⟨empty, covered⟩ := owes.clearsPatterns cleared first outcome member
    refine ⟨Targets.eq_empty fun name tracked => ?_, fun name tracked => covered name (fewer .pattern name tracked)⟩
    have inside := fewer .channel name tracked
    rw [empty] at inside
    cases inside

end Owes

namespace Agrees

theorem congr (agrees : Agrees session commands awaited) {other : Phase → Prop}
    (same : ∀ phase, other phase ↔ awaited phase) : Agrees session commands other := by
  have equal : other = awaited := funext fun phase => propext (same phase)
  exact equal ▸ agrees

theorem ofRecord {after : Session} (agrees : Agrees session commands awaited) (same : SameRecord session after) :
    Agrees after commands awaited := by
  refine ⟨agrees.toOwes.ofRecord same, ?_⟩
  simp only [same.tracked, same.cancelled]
  exact agrees.clearing

private theorem forget {phase : Phase} (agrees : Agrees session commands (adding awaited phase))
    (harmless : ¬ phase.Compensates) : Agrees session commands awaited := by
  refine ⟨agrees.toOwes.forget fun kind names same => harmless (same ▸ trivial), ?_⟩
  intro cancelled
  rcases agrees.clearing cancelled with empty | ⟨other, rfl | member, clears⟩
  · exact Or.inl empty
  · cases other <;> first | exact False.elim clears | exact False.elim (harmless trivial)
  · exact Or.inr ⟨other, member, clears⟩

private theorem await {phase : Phase} (agrees : Agrees session commands awaited) (harmless : ¬ phase.Compensates) :
    Agrees session commands (adding awaited phase) := by
  refine ⟨agrees.toOwes.await (fun _ => harmless) ?_ ?_, ?_⟩
  · intro names first same
    exact False.elim (harmless (same ▸ trivial))
  · intro names first outcome same
    exact False.elim (harmless (same ▸ trivial))
  · intro cancelled
    rcases agrees.clearing cancelled with empty | ⟨other, member, clears⟩
    · exact Or.inl empty
    · exact Or.inr ⟨other, Or.inr member, clears⟩

private theorem removed (agrees : Agrees session commands awaited) (kind : Message.Kind) (names : List Bytes)
    (sweeping : Bool) :
    Agrees (session.update kind false names sweeping) (commands ++ [(.removing kind, names)]) awaited := by
  refine ⟨agrees.toOwes.removed kind names sweeping, ?_⟩
  intro cancelled
  rw [cancelled_update] at cancelled
  rcases agrees.clearing cancelled with empty | clearing
  · refine Or.inl fun other => Targets.eq_empty fun name member => ?_
    rw [tracked_update, empty other] at member
    split at member
    · exact List.not_mem_nil ((Targets.mem_eraseAll List.nodup_nil).mp member).2
    · cases member
  · exact Or.inr clearing

private theorem added (agrees : Agrees session commands awaited) (open' : session.cancelled = false)
    (kind : Message.Kind) (names : List Bytes) :
    Agrees (session.update kind true names) (commands ++ [(.adding kind, names)]) awaited := by
  have clears : ∀ phase, awaited phase → ¬ phase.Compensates := agrees.calm open'
  refine ⟨⟨?_, ?_, ?_, ?_, ?_, ?_⟩, ?_⟩
  · intro other
    rw [tracked_update]
    split
    · exact Targets.distinct_insertAll (agrees.distinct other) names
    · exact agrees.distinct other
  · intro _ other
    rw [Targets.replay_append, Targets.follow_adding, agrees.same open', tracked_update]
    rfl
  · exact fun _ => clears
  · intro cancelled
    rw [cancelled_update, open'] at cancelled
    cases cancelled
  · exact fun _ _ member => False.elim (clears _ member trivial)
  · exact fun _ _ _ member => False.elim (clears _ member trivial)
  · intro cancelled
    rw [cancelled_update, open'] at cancelled
    cases cancelled

/-- A subscription comes through after the cancellation. -/
theorem addedLate (agrees : Agrees session commands awaited) (cancelled : session.cancelled = true)
    (kind : Message.Kind) (names : List Bytes) :
    Agrees session (commands ++ [(.adding kind, names)]) (adding awaited (.undoing kind names)) := by
  refine ⟨⟨agrees.distinct, ?_, ?_, ?_, ?_, ?_⟩, ?_⟩
  · intro calm
    rw [cancelled] at calm
    cases calm
  · intro calm
    rw [cancelled] at calm
    cases calm
  · intro _ other name member
    rw [Targets.replay_append, Targets.follow_adding] at member
    -- What was owed before is still owed; the new names are owed by the call that added them.
    have earlier (member : name ∈ (replay other commands).names) :
        name ∈ (session.tracked other).names ∨
          ∃ taken, adding awaited (.undoing kind names) (.undoing other taken) ∧ name ∈ taken := by
      rcases agrees.owed cancelled other name member with kept | ⟨taken, undone, inside⟩
      · exact Or.inl kept
      · exact Or.inr ⟨taken, Or.inr undone, inside⟩
    split at member
    next same =>
      rcases Targets.mem_insertAll.mp member with fresh | old
      · exact Or.inr ⟨names, Or.inl (same ▸ rfl), fresh⟩
      · exact earlier old
    next => exact earlier member
  · rintro cleared first (impossible | member)
    · cases impossible
    · exact agrees.clearsChannels cleared first member
  · rintro cleared first outcome (impossible | member)
    · cases impossible
    · exact agrees.clearsPatterns cleared first outcome member
  · intro cancelled
    rcases agrees.clearing cancelled with empty | ⟨phase, member, clears⟩
    · exact Or.inl empty
    · exact Or.inr ⟨phase, Or.inr member, clears⟩

private theorem undone {kind : Message.Kind} {names : List Bytes}
    (agrees : Agrees session commands (adding awaited (.undoing kind names))) :
    Agrees session (commands ++ [(.removing kind, names)]) awaited := by
  refine ⟨⟨agrees.distinct, ?_, ?_, ?_, ?_, ?_⟩, ?_⟩
  · exact fun calm => False.elim (agrees.calm calm _ (Or.inl rfl) trivial)
  · exact fun calm => False.elim (agrees.calm calm _ (Or.inl rfl) trivial)
  · intro cancelled other name member
    rw [Targets.replay_append, Targets.follow_removing] at member
    have old : name ∈ (replay other commands).names ∧ (kind = other → name ∉ names) := by
      split at member
      next => exact ((Targets.mem_eraseAll (Targets.distinct_replay _ _)).mp member).symm.imp id fun out _ => out
      next different => exact ⟨member, fun same => False.elim (different same)⟩
    rcases agrees.owed cancelled other name old.1 with kept | ⟨taken, awaits, inside⟩
    · exact Or.inl kept
    · rcases awaits with same | awaits
      · cases same
        exact False.elim (old.2 rfl inside)
      · exact Or.inr ⟨taken, awaits, inside⟩
  · exact fun cleared first member => agrees.clearsChannels cleared first (Or.inr member)
  · exact fun cleared first outcome member => agrees.clearsPatterns cleared first outcome (Or.inr member)
  · intro cancelled
    rcases agrees.clearing cancelled with empty | ⟨phase, rfl | member, clears⟩
    · exact Or.inl empty
    · exact False.elim clears
    · exact Or.inr ⟨phase, member, clears⟩

end Agrees

def awaits (awaited : Phase → Prop) : Progress → Phase → Prop
  | .finished _ => awaited
  | .asking next => adding awaited next

theorem sorted_nil {targets : Targets} (none : targets.sorted = []) : targets = {} :=
  Targets.eq_empty fun name member => by
    have inside := Targets.mem_sorted.mpr member
    rw [none] at inside
    cases inside

namespace Owes

theorem finishCancel (owes : Owes session commands awaited) (empty : ∀ kind, session.tracked kind = {})
    (first : Bool) (channels patterns : Except Error Unit) :
    Agrees (session.finishCancel first channels patterns).2 commands awaited := by
  have same : SameRecord session (session.finishCancel first channels patterns).2 := by
    unfold Session.finishCancel
    cases first <;> exact ⟨(empty .channel).symm, (empty .pattern).symm, rfl, rfl⟩
  exact (Agrees.mk owes fun _ => Or.inl empty).ofRecord same

theorem cancelPatterns (owes : Owes session commands awaited) (cancelled : session.cancelled = true)
    (empty : session.tracked .channel = {}) (first : Bool) (channels : Except Error Unit)
    {progress : Progress} {after : Session} (stepped : session.cancelPatterns first channels = (progress, after)) :
    Agrees after commands (awaits awaited progress) := by
  unfold Session.cancelPatterns at stepped
  split at stepped
  next none =>
    have both (kind : Message.Kind) : session.tracked kind = {} := by
      cases kind
      · exact empty
      · exact sorted_nil none
    have ended := owes.finishCancel both first channels (.ok ())
    cases stepped
    exact ended
  next =>
    cases stepped
    refine ⟨owes.await ?_ ?_ ?_, fun _ => Or.inr ⟨_, Or.inl rfl, trivial⟩⟩
    · intro calm
      rw [cancelled] at calm
      cases calm
    · intro names again impossible
      cases impossible
    · intro names again outcome same
      cases same
      exact ⟨empty, fun name inside => Targets.mem_sorted.mpr inside⟩

end Owes

theorem tracked_cleared {kind : Message.Kind} {names : List Bytes} (distinct : (session.tracked kind).Distinct)
    (covered : ∀ name ∈ (session.tracked kind).names, name ∈ names) :
    (session.update kind false names true).tracked kind = {} := by
  apply Targets.eq_empty
  intro name member
  rw [tracked_update, if_pos rfl, if_neg Bool.false_ne_true, Targets.mem_eraseAll distinct] at member
  exact member.1 (covered name member.2)

namespace Agrees

private theorem ofHear (agrees : Agrees session commands awaited) (phase : Phase) (answer : Except Error Unit) :
    Agrees (session.hear phase answer) commands awaited := by
  apply agrees.ofRecord
  cases answer <;> exact ⟨rfl, rfl, rfl, rfl⟩

/-- An answer moves a call on and the session with it, and they agree again. -/
theorem resumed {phase : Phase} {answer : Except Error Unit} {progress : Progress} {after : Session}
    (agrees : Agrees session commands (adding awaited phase)) (granted : phase.Compensates → answer = .ok ())
    (stepped : session.resume phase answer = (progress, after)) :
    Agrees after (recorded commands phase answer) (awaits awaited progress) := by
  have heard := agrees.ofHear phase answer
  cases phase with
  | adding kind names =>
    have before := heard.forget id
    cases answer with
    | error error => cases stepped; exact before
    | ok _ =>
      simp only [resume] at stepped
      split at stepped
      next cancelled => cases stepped; exact before.addedLate cancelled kind names
      next calm => cases stepped; exact before.added (by simpa using calm) kind names
  | undoing kind names =>
    obtain rfl := granted trivial
    cases stepped
    exact heard.undone
  | removing kind names sweeping =>
    have before := heard.forget id
    cases answer with
    | error error => cases stepped; exact before
    | ok _ => cases stepped; exact before.removed kind names sweeping
  | clearingChannels names first =>
    obtain rfl := granted trivial
    have cancelled : session.cancelled = true := by
      cases calm : session.cancelled
      · exact False.elim (agrees.calm calm _ (Or.inl rfl) trivial)
      · rfl
    have owes := heard.toOwes.removed .channel names true
    have empty := tracked_cleared (heard.distinct .channel) (heard.clearsChannels names first (Or.inl rfl))
    refine (owes.forget (by intro _ _ impossible; cases impossible)).cancelPatterns ?_ empty first (.ok ()) stepped
    simpa using cancelled
  | clearingPatterns names first outcome =>
    obtain rfl := granted trivial
    obtain ⟨empty, covered⟩ := heard.clearsPatterns names first outcome (Or.inl rfl)
    have owes := heard.toOwes.removed .pattern names true
    have ended := (owes.forget (by intro _ _ impossible; cases impossible)).finishCancel ?_ first outcome (.ok ())
    · cases stepped
      exact ended
    · intro kind
      cases kind with
      | channel => exact empty
      | pattern => exact tracked_cleared (heard.distinct .pattern) covered

/-- The first step of a call changes nothing but, if it cancels, the state of the session. -/
theorem started {operation : Operation} {progress : Progress} {after : Session}
    (agrees : Agrees session commands awaited) (stepped : session.start operation = (progress, after)) :
    Agrees after commands (awaits awaited progress) := by
  have removes (kind : Message.Kind) (names : List Bytes) (sweeping : Bool)
      (stepped : session.remove kind names sweeping = (progress, after)) :
      Agrees after commands (awaits awaited progress) := by
    unfold Session.remove at stepped
    split at stepped
    · cases stepped; exact agrees
    · cases stepped; exact agrees.await id
  cases operation with
  | add kind names =>
    simp only [start] at stepped
    split at stepped
    · cases stepped; exact agrees
    · split at stepped
      · cases stepped; exact agrees
      · cases stepped; exact agrees.await id
  | remove kind names =>
    simp only [start] at stepped
    split at stepped
    · cases stepped; exact agrees
    · exact removes kind names false stepped
  | removeAll kind => exact removes kind _ true stepped
  | cancel =>
    let closed := { session with cancelled := true }
    have owes : Owes closed commands awaited := by
      refine ⟨agrees.distinct, nofun, nofun, ?_, agrees.clearsChannels, agrees.clearsPatterns⟩
      intro _ kind name member
      cases open' : session.cancelled with
      | false => exact Or.inl (agrees.same open' kind ▸ member)
      | true => exact agrees.owed open' kind name member
    simp only [start] at stepped
    split at stepped
    next none => exact owes.cancelPatterns rfl (sorted_nil none) _ _ stepped
    next =>
      cases stepped
      refine ⟨owes.await nofun ?_ ?_, fun _ => Or.inr ⟨_, Or.inl rfl, trivial⟩⟩
      · intro names first same
        cases same
        exact fun name inside => Targets.mem_sorted.mpr inside
      · intro names first outcome impossible
        cases impossible

end Agrees

end Session

end Subscriber
