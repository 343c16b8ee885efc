import Subscriber.Session

/-! What is logged is for those who read the log. A session takes no decision by it, so two sessions that differ in
nothing else stay like that, whatever is done to both of them. -/

namespace Subscriber

namespace Session
variable {a b : Session}

def Alike (a b : Session) : Prop := ∃ notices, b = { a with notices }

theorem Alike.refl (session : Session) : Alike session session := ⟨session.notices, rfl⟩

theorem Alike.symm (alike : Alike a b) : Alike b a := by
  obtain ⟨notices, rfl⟩ := alike
  exact ⟨a.notices, rfl⟩

theorem Alike.trans {c : Session} (first : Alike a b) (second : Alike b c) : Alike a c := by
  obtain ⟨_, rfl⟩ := first
  obtain ⟨notices, rfl⟩ := second
  exact ⟨notices, rfl⟩

theorem Alike.note (alike : Alike a b) (notice other : Notice) : Alike (a.note notice) (b.note other) := by
  obtain ⟨notices, rfl⟩ := alike
  exact ⟨_, rfl⟩

/-- Sessions that differ in the log, and in their streams no more than so. -/
def Resembles (likeness : Fanout → Fanout → Prop) (a b : Session) : Prop :=
  ∃ notices fanout, b = { a with notices, fanout } ∧ likeness a.fanout fanout

private theorem Alike.resembles (alike : Alike a b) : Resembles Eq a b := by
  obtain ⟨notices, rfl⟩ := alike
  exact ⟨notices, a.fanout, rfl, rfl⟩

theorem Resembles.alike (resembles : Resembles Eq a b) : Alike a b := by
  obtain ⟨notices, _, rfl, rfl⟩ := resembles
  exact ⟨notices, rfl⟩

section
variable {likeness : Fanout → Fanout → Prop}

theorem Resembles.note (resembles : Resembles likeness a b) (notice other : Notice) :
    Resembles likeness (a.note notice) (b.note other) := by
  obtain ⟨notices, fanout, rfl, same⟩ := resembles
  exact ⟨_, fanout, rfl, same⟩

private theorem Resembles.hear (resembles : Resembles likeness a b) (phase : Phase) (answer : Except Error Unit) :
    Resembles likeness (a.hear phase answer) (b.hear phase answer) := by
  cases answer with
  | ok => exact resembles
  | error error => exact resembles.note _ _

private theorem Resembles.update (resembles : Resembles likeness a b) (kind : Message.Kind) (added : Bool) (names : List Bytes)
    (sweeping : Bool) : Resembles likeness (a.update kind added names sweeping) (b.update kind added names sweeping) := by
  obtain ⟨notices, fanout, rfl, same⟩ := resembles
  cases kind <;> exact ⟨_, fanout, rfl, same⟩

private theorem Resembles.remove (resembles : Resembles likeness a b) (kind : Message.Kind) (targets : List Bytes) (sweeping : Bool) :
    (b.remove kind targets sweeping).1 = (a.remove kind targets sweeping).1 ∧
      Resembles likeness (a.remove kind targets sweeping).2 (b.remove kind targets sweeping).2 := by
  unfold Session.remove
  split <;> exact ⟨rfl, resembles⟩

private theorem Resembles.tracked (resembles : Resembles likeness a b) (kind : Message.Kind) : b.tracked kind = a.tracked kind := by
  obtain ⟨notices, fanout, rfl, -⟩ := resembles
  cases kind <;> rfl

theorem Resembles.cancelled (resembles : Resembles likeness a b) : b.cancelled = a.cancelled := by
  obtain ⟨notices, fanout, rfl, -⟩ := resembles
  rfl

section
variable (cancels : ∀ mine yours : Fanout, likeness mine yours → likeness mine.cancel yours.cancel)
include cancels

private theorem Resembles.finishCancel (resembles : Resembles likeness a b) (first : Bool) (channels patterns : Except Error Unit) :
    (b.finishCancel first channels patterns).1 = (a.finishCancel first channels patterns).1 ∧
      Resembles likeness (a.finishCancel first channels patterns).2 (b.finishCancel first channels patterns).2 := by
  obtain ⟨notices, fanout, rfl, same⟩ := resembles
  unfold Session.finishCancel
  dsimp only
  refine ⟨rfl, ?_⟩
  split <;> exact ⟨_, fanout.cancel, rfl, cancels _ _ same⟩

private theorem Resembles.cancelPatterns (resembles : Resembles likeness a b) (first : Bool) (channels : Except Error Unit) :
    (b.cancelPatterns first channels).1 = (a.cancelPatterns first channels).1 ∧
      Resembles likeness (a.cancelPatterns first channels).2 (b.cancelPatterns first channels).2 := by
  have finished := resembles.finishCancel cancels first channels (.ok ())
  obtain ⟨notices, fanout, rfl, same⟩ := resembles
  unfold Session.cancelPatterns
  dsimp only
  split
  · exact finished
  · exact ⟨rfl, notices, fanout, rfl, same⟩

theorem Resembles.start (resembles : Resembles likeness a b) (operation : Operation) :
    (b.start operation).1 = (a.start operation).1 ∧ Resembles likeness (a.start operation).2 (b.start operation).2 := by
  cases operation with
  | add kind targets =>
    unfold Session.start
    dsimp only
    rw [resembles.cancelled]
    split
    · exact ⟨rfl, resembles⟩
    · split <;> exact ⟨rfl, resembles⟩
  | remove kind targets =>
    unfold Session.start
    dsimp only
    rw [resembles.cancelled]
    split
    · exact ⟨rfl, resembles⟩
    · exact resembles.remove kind targets false
  | removeAll kind =>
    unfold Session.start
    dsimp only
    rw [resembles.tracked]
    exact resembles.remove kind _ true
  | cancel =>
    have raised : Resembles likeness { a with cancelled := true } { b with cancelled := true } := by
      obtain ⟨notices, fanout, rfl, same⟩ := resembles
      exact ⟨_, fanout, rfl, same⟩
    obtain ⟨notices, fanout, rfl, -⟩ := resembles
    unfold Session.start
    dsimp only
    split
    · exact raised.cancelPatterns cancels _ (.ok ())
    · exact ⟨rfl, raised⟩

theorem Resembles.resume (resembles : Resembles likeness a b) (phase : Phase) (answer : Except Error Unit) :
    (b.resume phase answer).1 = (a.resume phase answer).1 ∧
      Resembles likeness (a.resume phase answer).2 (b.resume phase answer).2 := by
  have heard := resembles.hear phase answer
  cases phase with
  | adding kind targets =>
    cases answer with
    | ok =>
      unfold Session.resume
      dsimp only
      rw [heard.cancelled]
      split
      · exact ⟨rfl, heard⟩
      · exact ⟨rfl, heard.update kind true targets false⟩
    | error error => exact ⟨rfl, heard⟩
  | undoing kind targets => exact ⟨rfl, heard⟩
  | removing kind targets sweeping =>
    cases answer with
    | ok => exact ⟨rfl, heard.update kind false targets sweeping⟩
    | error error => exact ⟨rfl, heard⟩
  | clearingChannels targets first =>
    cases answer with
    | ok => exact (heard.update .channel false targets true).cancelPatterns cancels first (.ok ())
    | error error => exact heard.cancelPatterns cancels first (.error error)
  | clearingPatterns targets first channels =>
    cases answer with
    | ok => exact (heard.update .pattern false targets true).finishCancel cancels first channels (.ok ())
    | error error => exact heard.finishCancel cancels first channels (.error error)

end

end

private theorem cancels_eq (mine yours : Fanout) (same : mine = yours) : mine.cancel = yours.cancel := congrArg Fanout.cancel same

theorem Alike.start (alike : Alike a b) (operation : Operation) :
    (b.start operation).1 = (a.start operation).1 ∧ Alike (a.start operation).2 (b.start operation).2 :=
  (alike.resembles.start cancels_eq operation).imp_right Resembles.alike

theorem Alike.resume (alike : Alike a b) (phase : Phase) (answer : Except Error Unit) :
    (b.resume phase answer).1 = (a.resume phase answer).1 ∧ Alike (a.resume phase answer).2 (b.resume phase answer).2 :=
  (alike.resembles.resume cancels_eq phase answer).imp_right Resembles.alike

theorem Alike.fanout (alike : Alike a b) : b.fanout = a.fanout := by
  obtain ⟨notices, rfl⟩ := alike
  rfl

theorem Alike.publish (alike : Alike a b) (generation : Nat) (item : Item) :
    Alike (a.publish generation item) (b.publish generation item) := by
  obtain ⟨notices, rfl⟩ := alike
  unfold Session.publish
  cases item with
  | ok message => exact ⟨_, rfl⟩
  | error interruption =>
    dsimp only
    split <;> exact ⟨_, rfl⟩

theorem Alike.finish (alike : Alike a b) (generation : Nat) : Alike (a.finish generation) (b.finish generation) := by
  obtain ⟨notices, rfl⟩ := alike
  unfold Session.finish
  dsimp only
  split <;> exact ⟨_, rfl⟩

theorem Alike.poll (alike : Alike a b) (stream : Nat) :
    (b.poll stream).1 = (a.poll stream).1 ∧ Alike (a.poll stream).2 (b.poll stream).2 := by
  obtain ⟨notices, rfl⟩ := alike
  unfold Session.poll
  dsimp only
  split <;> exact ⟨rfl, _, rfl⟩

theorem Alike.drop (alike : Alike a b) (stream : Nat) : Alike (a.drop stream) (b.drop stream) := by
  obtain ⟨notices, rfl⟩ := alike
  unfold Session.drop
  dsimp only
  split <;> exact ⟨_, rfl⟩

theorem Alike.drainOnto (alike : Alike a b) (items : List Item) (more stream : Nat) :
    (b.drainOnto items more stream).1 = (a.drainOnto items more stream).1 ∧
      (b.drainOnto items more stream).2.1 = (a.drainOnto items more stream).2.1 ∧
      Alike (a.drainOnto items more stream).2.2 (b.drainOnto items more stream).2.2 := by
  induction more generalizing items a b with
  | zero =>
    obtain ⟨same, after⟩ := alike.poll stream
    exact ⟨rfl, same, after⟩
  | succ more ih =>
    obtain ⟨same, after⟩ := alike.poll stream
    unfold Session.drainOnto
    rcases mine : a.poll stream with ⟨answer, next⟩
    rcases yours : b.poll stream with ⟨reply, follower⟩
    rw [mine, yours] at same after
    cases same
    cases answer with
    | ready item => exact ih after (item :: items)
    | pending => exact ⟨rfl, rfl, after⟩
    | ended => exact ⟨rfl, rfl, after⟩

end Session

end Subscriber
