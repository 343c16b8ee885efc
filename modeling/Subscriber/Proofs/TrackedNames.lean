import Subscriber.Proofs.SessionAgreement

/-! The names that a session deals with. It tracks no name that was not given to it, and every command that it asks for has
targets, all of them names given to it. -/

namespace Subscriber

def Operation.names : Operation → List Bytes
  | .add _ targets | .remove _ targets => targets
  | .removeAll _ | .cancel => []

/-- If a call goes on, then with a command that has targets, all of them allowed. -/
def Progress.Aims (allowed : Bytes → Prop) : Progress → Prop
  | .finished _ => True
  | .asking phase => phase.targets ≠ [] ∧ ∀ name ∈ phase.targets, allowed name

theorem Targets.eraseAll_subset (targets : Targets) (names : List Bytes) :
    (targets.eraseAll names).names ⊆ targets.names := by
  induction names generalizing targets with
  | nil => exact List.Subset.refl _
  | cons name names ih => exact List.Subset.trans (ih (targets.erase name)) List.erase_subset

namespace Session
variable {allowed : Bytes → Prop} {session : Session}

def Tracks (allowed : Bytes → Prop) (session : Session) : Prop :=
  ∀ kind, ∀ name ∈ (session.tracked kind).names, allowed name

theorem Tracks.sorted (tracks : session.Tracks allowed) (kind : Message.Kind) :
    ∀ name ∈ (session.tracked kind).sorted, allowed name :=
  fun name member => tracks kind name (Targets.mem_sorted.mp member)

theorem Tracks.same (tracks : session.Tracks allowed) {after : Session} (same : SameRecord session after) :
    after.Tracks allowed := by
  intro kind
  rw [same.tracked kind]
  exact tracks kind

private theorem Tracks.hear (tracks : session.Tracks allowed) (phase : Phase) (answer : Except Error Unit) :
    (session.hear phase answer).Tracks allowed := by
  cases answer <;> exact tracks

private theorem Tracks.update (tracks : session.Tracks allowed) (kind : Message.Kind) (added : Bool) {names : List Bytes}
    (given : ∀ name ∈ names, allowed name) (sweeping : Bool) :
    (session.update kind added names sweeping).Tracks allowed := by
  intro other name member
  rw [tracked_update] at member
  split at member
  next same =>
    subst same
    cases added with
    | true => exact (Targets.mem_insertAll.mp member).elim (given name) (tracks _ name)
    | false => exact tracks _ name (Targets.eraseAll_subset _ _ member)
  · exact tracks other name member

theorem finishCancel_tracks (session : Session) (first : Bool) (channels patterns : Except Error Unit) :
    (session.finishCancel first channels patterns).2.Tracks allowed := by
  intro kind name member
  cases first <;> cases kind <;> cases member

theorem Tracks.cancelPatterns (tracks : session.Tracks allowed) (first : Bool) (channels : Except Error Unit) :
    (session.cancelPatterns first channels).1.Aims allowed ∧ (session.cancelPatterns first channels).2.Tracks allowed := by
  unfold Session.cancelPatterns
  cases left : session.patterns.sorted with
  | nil => exact ⟨trivial, finishCancel_tracks session first channels (.ok ())⟩
  | cons name names => exact ⟨⟨by simp [Phase.targets], left ▸ tracks.sorted .pattern⟩, tracks⟩

private theorem Tracks.remove (tracks : session.Tracks allowed) (kind : Message.Kind) {names : List Bytes}
    (given : ∀ name ∈ names, allowed name) (sweeping : Bool) :
    (session.remove kind names sweeping).1.Aims allowed ∧ (session.remove kind names sweeping).2.Tracks allowed := by
  unfold Session.remove
  split
  · exact ⟨trivial, tracks⟩
  next some => exact ⟨⟨by simpa [Phase.targets] using some, given⟩, tracks⟩

theorem Tracks.start (tracks : session.Tracks allowed) (operation : Operation)
    (given : ∀ name ∈ operation.names, allowed name) :
    (session.start operation).1.Aims allowed ∧ (session.start operation).2.Tracks allowed := by
  cases operation with
  | add kind names =>
    unfold Session.start
    dsimp only
    split
    · exact ⟨trivial, tracks⟩
    · split
      · exact ⟨trivial, tracks⟩
      next some => exact ⟨⟨by simpa [Phase.targets] using some, given⟩, tracks⟩
  | remove kind names =>
    unfold Session.start
    dsimp only
    split
    · exact ⟨trivial, tracks⟩
    · exact tracks.remove kind given false
  | removeAll kind => exact tracks.remove kind (tracks.sorted kind) true
  | cancel =>
    have cancelled : Tracks allowed { session with cancelled := true } := tracks
    unfold Session.start
    dsimp only
    cases left : session.channels.sorted with
    | nil => exact cancelled.cancelPatterns _ _
    | cons name names => exact ⟨⟨by simp [Phase.targets], left ▸ tracks.sorted .channel⟩, cancelled⟩

theorem Tracks.resume (tracks : session.Tracks allowed) (phase : Phase) (answer : Except Error Unit)
    (aimed : phase.targets ≠ []) (given : ∀ name ∈ phase.targets, allowed name) :
    (session.resume phase answer).1.Aims allowed ∧ (session.resume phase answer).2.Tracks allowed := by
  have heard := tracks.hear phase answer
  unfold Session.resume
  dsimp only
  split
  · split
    · exact ⟨⟨aimed, given⟩, heard⟩
    · exact ⟨trivial, heard.update _ _ given _⟩
  · exact ⟨trivial, heard⟩
  · exact ⟨trivial, heard⟩
  · exact ⟨trivial, heard.update _ _ given _⟩
  · exact ⟨trivial, heard⟩
  · exact (heard.update .channel false given true).cancelPatterns _ _
  · exact heard.cancelPatterns _ _
  · exact ⟨trivial, finishCancel_tracks _ _ _ _⟩
  · exact ⟨trivial, finishCancel_tracks _ _ _ _⟩

end Session

end Subscriber
