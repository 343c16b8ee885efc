import Subscriber.Proofs.Cancellation
import Subscriber.Proofs.TrackedNames

/-! What a cancellation finds. It looks its names up once and takes away exactly these, however long the answer takes: a
session that has been cancelled gains nothing in the meantime. -/

namespace Subscriber

namespace Session
variable {holds : Session → Prop} {session : Session}

theorem start_still {operation : Operation} (other : operation ≠ .cancel) : (session.start operation).2 = session := by
  have removes (kind : Message.Kind) (names : List Bytes) (sweeping : Bool) :
      (session.remove kind names sweeping).2 = session := by
    unfold Session.remove
    split <;> rfl
  unfold start
  cases operation with
  | add kind names =>
    dsimp only
    split
    · rfl
    · split <;> rfl
  | remove kind names =>
    dsimp only
    split
    · rfl
    · exact removes kind names false
  | removeAll kind => exact removes kind _ true
  | cancel => exact absurd rfl other

section
variable (same : ∀ before after : Session, (∀ kind, after.tracked kind = before.tracked kind) → holds before → holds after)
  (updated : ∀ session kind added names sweeping, holds session → holds (session.update kind added names sweeping))
  (emptied : ∀ session first channels patterns, holds session → holds (session.finishCancel first channels patterns).2)

include emptied in
theorem cancelPatterns_sets (first : Bool) (channels : Except Error Unit) (held : holds session) :
    holds (session.cancelPatterns first channels).2 := by
  unfold cancelPatterns
  split
  · exact emptied session first channels (.ok ()) held
  · exact held

include same emptied in
private theorem start_sets (operation : Operation) (held : holds session) : holds (session.start operation).2 := by
  by_cases cancels : operation = .cancel
  · subst cancels
    have cancelled : holds { session with cancelled := true } :=
      same session { session with cancelled := true } (fun kind => by cases kind <;> rfl) held
    unfold start
    dsimp only
    split
    · exact cancelPatterns_sets emptied _ _ cancelled
    · exact cancelled
  · rw [start_still cancels]
    exact held

include same updated emptied

private theorem resume_sets (phase : Phase) (answer : Except Error Unit) (held : holds session) :
    holds (session.resume phase answer).2 := by
  have heard : holds (session.hear phase answer) := by
    refine same session _ (fun kind => ?_) held
    cases answer <;> cases kind <;> rfl
  unfold resume
  dsimp only
  split
  · split
    · exact heard
    · exact updated _ _ _ _ _ heard
  · exact heard
  · exact heard
  · exact updated _ _ _ _ _ heard
  · exact heard
  · exact cancelPatterns_sets emptied _ _ (updated _ _ _ _ _ heard)
  · exact cancelPatterns_sets emptied _ _ heard
  · exact emptied _ _ _ _ (updated _ _ _ _ _ heard)
  · exact emptied _ _ _ _ heard

/-- What is known of the sets of a session stays true if additions, removals and the end of a cancellation keep it. -/
theorem lasting_sets : Lasting holds := by
  have recorded (before after : Session) (alike : SameRecord before after) (held : holds before) : holds after :=
    same before after alike.tracked held
  refine ⟨⟨⟨?_, ?_⟩, ?_, ?_, ?_, ?_⟩, ?_, ?_⟩
  · exact fun session operation => start_sets same emptied operation
  · exact fun session phase answer => resume_sets same updated emptied phase answer
  · exact fun session held => recorded session _ ⟨rfl, rfl, rfl, rfl⟩ held
  · exact fun session generation item held => recorded session _ (publish_sameRecord session generation item) held
  · exact fun session generation held => recorded session _ (finish_sameRecord session generation) held
  · exact fun session notice held => recorded session _ ⟨rfl, rfl, rfl, rfl⟩ held
  · exact fun session stream held => recorded session _ (poll_sameRecord session stream) held
  · exact fun session stream held => recorded session _ (drop_sameRecord session stream) held

end

theorem finishCancel_tracked (session : Session) (first : Bool) (channels patterns : Except Error Unit)
    (kind : Message.Kind) : (session.finishCancel first channels patterns).2.tracked kind = {} := by
  cases first <;> cases kind <;> rfl

def Distinct (session : Session) : Prop := ∀ kind, (session.tracked kind).Distinct

private theorem Distinct.update (distinct : session.Distinct) (kind : Message.Kind) (added : Bool) (names : List Bytes)
    (sweeping : Bool) : (session.update kind added names sweeping).Distinct := by
  intro other
  rw [tracked_update]
  split
  · split
    · exact Targets.distinct_insertAll (distinct other) names
    · exact Targets.distinct_eraseAll (distinct other) names
  · exact distinct other

theorem lasting_distinct : Lasting Distinct := by
  refine lasting_sets (fun before after same distinct kind => ?_) ?_ ?_
  · rw [same kind]
    exact distinct kind
  · exact fun session kind added names sweeping distinct => distinct.update kind added names sweeping
  · intro session first channels patterns _ kind
    rw [finishCancel_tracked]
    exact List.nodup_nil

/-- A cancelled session that tracks no names of a kind but these. -/
structure Within (kind : Message.Kind) (names : List Bytes) (session : Session) : Prop where
  cancelled : session.cancelled = true
  covered : ∀ name ∈ (session.tracked kind).names, name ∈ names

private theorem Within.same {kind : Message.Kind} {names : List Bytes} {after : Session} (within : session.Within kind names)
    (same : SameRecord session after) : after.Within kind names := by
  refine ⟨same.cancelled.trans within.cancelled, ?_⟩
  rw [same.tracked]
  exact within.covered

theorem Within.hear {kind : Message.Kind} {names : List Bytes} (within : session.Within kind names) (phase : Phase)
    (answer : Except Error Unit) : (session.hear phase answer).Within kind names := by
  cases answer <;> exact ⟨within.cancelled, within.covered⟩

theorem Within.erased {kind : Message.Kind} {names : List Bytes} (within : session.Within kind names)
    (other : Message.Kind) (removed : List Bytes) (sweeping : Bool) :
    (session.update other false removed sweeping).Within kind names := by
  refine ⟨(cancelled_update ..).trans within.cancelled, fun name member => within.covered name ?_⟩
  rw [tracked_update] at member
  split at member
  · exact Targets.eraseAll_subset _ _ member
  · exact member

theorem Within.none {kind : Message.Kind} (within : session.Within kind []) : session.tracked kind = {} :=
  Targets.eq_empty fun name member => List.not_mem_nil (within.covered name member)

theorem within_nothing {kind : Message.Kind} (names : List Bytes) (cancelled : session.cancelled = true)
    (none : session.tracked kind = {}) : session.Within kind names := by
  refine ⟨cancelled, fun name member => ?_⟩
  rw [none] at member
  exact absurd member List.not_mem_nil

theorem within_sorted (kind : Message.Kind) (cancelled : session.cancelled = true) :
    session.Within kind (session.tracked kind).sorted :=
  ⟨cancelled, fun _ member => Targets.mem_sorted.mpr member⟩

private theorem lasting_within (kind : Message.Kind) (names : List Bytes) : Lasting (Within kind names) := by
  refine lasting_record (fun _ within => within.cancelled) (fun _ _ same within => within.same same) ?_ ?_
  · exact fun session other removed sweeping within => within.erased other removed sweeping
  · intro session first channels patterns within
    exact within_nothing names ((finishCancel_record session first channels patterns).2.2.1.trans within.cancelled)
      (finishCancel_tracked session first channels patterns kind)

/-- A command of a cancellation has the names of all that is tracked, and the channels are gone, if they have been taken
back, before the patterns are. -/
def Clearing (session : Session) : Phase → Prop
  | .clearingChannels targets _ => session.Within .channel targets
  | .clearingPatterns targets _ channels =>
    (channels = .ok () → session.Within .channel []) ∧ session.Within .pattern targets
  | .adding .. | .removing .. | .undoing .. => True

private theorem lasting_clearing (phase : Phase) : Lasting (·.Clearing phase) := by
  cases phase with
  | clearingChannels targets first => exact lasting_within .channel targets
  | clearingPatterns targets first channels =>
    have patterns := lasting_within .pattern targets
    cases channels with
    | ok =>
      have both := (lasting_within .channel []).and patterns
      have same : (Clearing · (.clearingPatterns targets first (.ok ()))) =
          fun session => Within .channel [] session ∧ Within .pattern targets session :=
        funext fun session => propext ⟨fun both => ⟨both.1 rfl, both.2⟩, fun both => ⟨fun _ => both.1, both.2⟩⟩
      exact same ▸ both
    | error error =>
      have same : (Clearing · (.clearingPatterns targets first (.error error))) = Within .pattern targets :=
        funext fun session => propext ⟨fun both => both.2, fun within => ⟨nofun, within⟩⟩
      exact same ▸ patterns
  | _ => exact Lasting.const True

section
variable {after : Session} {next : Phase} {first : Bool} {channels : Except Error Unit}

theorem cancelPatterns_still (asked : session.cancelPatterns first channels = (.asking next, after)) : after = session := by
  unfold cancelPatterns at asked
  split at asked
  · simp [finishCancel] at asked
  · cases asked
    rfl

theorem cancelPatterns_clearing (cancelled : session.cancelled = true)
    (empty : channels = .ok () → session.tracked .channel = {})
    (asked : session.cancelPatterns first channels = (.asking next, after)) : after.Clearing next := by
  unfold cancelPatterns at asked
  split at asked
  · simp [finishCancel] at asked
  · cases asked
    exact ⟨fun granted => within_nothing [] cancelled (empty granted), within_sorted .pattern cancelled⟩

theorem remove_clearing {kind : Message.Kind} {names : List Bytes} {sweeping : Bool}
    (asked : session.remove kind names sweeping = (.asking next, after)) : ¬ next.Clears ∧ after.Clearing next := by
  unfold Session.remove at asked
  split at asked
  · cases asked
  · cases asked
    exact ⟨id, trivial⟩

theorem start_clears {operation : Operation} (asked : session.start operation = (.asking next, after)) (clears : next.Clears) :
    operation = .cancel := by
  unfold start at asked
  cases operation with
  | add kind names =>
    dsimp only at asked
    split at asked
    · cases asked
    · split at asked
      · cases asked
      · cases asked
        exact clears.elim
  | remove kind names =>
    dsimp only at asked
    split at asked
    · cases asked
    · exact absurd clears (remove_clearing asked).1
  | removeAll kind => exact absurd clears (remove_clearing asked).1
  | cancel => rfl

private theorem start_clearing {operation : Operation} (asked : session.start operation = (.asking next, after)) :
    after.Clearing next := by
  unfold start at asked
  cases operation with
  | add kind names =>
    dsimp only at asked
    split at asked
    · cases asked
    · split at asked
      · cases asked
      · cases asked
        trivial
  | remove kind names =>
    dsimp only at asked
    split at asked
    · cases asked
    · exact (remove_clearing asked).2
  | removeAll kind => exact (remove_clearing asked).2
  | cancel =>
    have cancelled : ({ session with cancelled := true } : Session).cancelled = true := rfl
    dsimp only at asked
    split at asked
    next none => exact cancelPatterns_clearing cancelled (fun _ => sorted_nil none) asked
    next =>
      cases asked
      exact within_sorted .channel cancelled

theorem resume_clears {phase : Phase} {answer : Except Error Unit} (asked : session.resume phase answer = (.asking next, after))
    (clears : next.Clears) : phase.Clears := by
  cases phase with
  | adding kind targets =>
    cases answer with
    | ok =>
      simp only [resume] at asked
      split at asked
      · cases asked
        exact clears
      · cases asked
    | error error => cases asked
  | undoing kind targets => cases asked
  | removing kind targets sweeping => cases answer <;> cases asked
  | clearingChannels targets early => trivial
  | clearingPatterns targets early outcome => trivial

private theorem resume_clearing {phase : Phase} {answer : Except Error Unit} (distinct : session.Distinct)
    (clearing : session.Clearing phase) (asked : session.resume phase answer = (.asking next, after)) :
    after.Clearing next := by
  cases phase with
  | adding kind targets =>
    cases answer with
    | ok =>
      simp only [resume] at asked
      split at asked
      · cases asked
        trivial
      · cases asked
    | error error => cases asked
  | undoing kind targets => cases asked
  | removing kind targets sweeping => cases answer <;> cases asked
  | clearingChannels targets early =>
    cases answer with
    | ok =>
      have swept : (session.update .channel false targets true).tracked .channel = {} :=
        tracked_cleared (distinct .channel) clearing.covered
      exact cancelPatterns_clearing ((cancelled_update ..).trans clearing.cancelled) (fun _ => swept) asked
    | error error =>
      have failed : (Except.error error : Except Error Unit) = .ok () →
          (session.hear (.clearingChannels targets early) (.error error)).tracked .channel = {} := by
        intro granted
        cases granted
      exact cancelPatterns_clearing ((cancelled_hear ..).trans clearing.cancelled) failed asked
  | clearingPatterns targets early outcome => cases answer <;> simp [resume, finishCancel] at asked

end

/-- How far a call has come that may be a cancellation: only those clear. -/
def Clears (operation : Operation) (_ : List Deed) : Progress → Session → Prop
  | .asking phase, session => ((phase.Clears → operation = .cancel) ∧ session.Clearing phase) ∧ session.Distinct
  | .finished _, _ => True

theorem lasting_clears (operation : Operation) (deeds : List Deed) (progress : Progress) :
    Lasting (Clears operation deeds progress) := by
  cases progress with
  | finished result => exact Lasting.const True
  | asking phase => exact ((Lasting.const _).and (lasting_clearing phase)).and lasting_distinct

theorem path_clears (operation : Operation) : Path operation Distinct (Clears operation) := by
  refine ⟨fun session distinct => ?_, fun deeds phase session answer asked => ?_⟩
  · have kept := lasting_distinct.start session operation distinct
    rcases stepped : session.start operation with ⟨result | next, after⟩
    · trivial
    · rw [stepped] at kept
      exact ⟨⟨start_clears stepped, start_clearing stepped⟩, kept⟩
  · obtain ⟨⟨only, clearing⟩, distinct⟩ := asked
    have kept := lasting_distinct.resume session phase answer distinct
    rcases stepped : session.resume phase answer with ⟨result | next, after⟩
    · trivial
    · rw [stepped] at kept
      exact ⟨⟨fun clears => only (resume_clears stepped clears), resume_clearing distinct clearing stepped⟩, kept⟩

end Session

end Subscriber
