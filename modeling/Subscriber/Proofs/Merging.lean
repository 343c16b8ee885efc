import Subscriber.Merge

/-! What becomes of the order of arrival when messages of the two kinds wait apart and are taken alternately.
A list holds all messages that wait, in the order in which they arrived; the polls of one turn take some of
them, and they keep the order exactly if the messages are in step with the sides that are asked. -/

namespace Subscriber

def Message.Kind.side : Message.Kind → Side
  | .channel => .left
  | .pattern => .right

namespace Side

@[simp] theorem other_other (side : Side) : side.other.other = side := by cases side <;> rfl

theorem ne_other (side : Side) : side ≠ side.other := by cases side <;> nofun

theorem eq_other {a b : Side} (different : a ≠ b) : a = b.other := by
  cases a <;> cases b <;> first | rfl | exact absurd rfl different

end Side

namespace Merge

def lane (side : Side) (waiting : List Message) : List Message := waiting.filter fun message => message.kind.side = side

theorem mem_lane {side : Side} {waiting : List Message} {message : Message} :
    message ∈ lane side waiting ↔ message ∈ waiting ∧ message.kind.side = side := by
  simp only [lane, List.mem_filter, decide_eq_true_eq]

theorem lane_append (side : Side) (first last : List Message) :
    lane side (first ++ last) = lane side first ++ lane side last := List.filter_append ..

theorem lane_cons_same {message : Message} {later : List Message} {side : Side} (own : message.kind.side = side) :
    lane side (message :: later) = message :: lane side later := by
  simp only [lane, List.filter_cons, own, decide_true, if_true]

theorem lane_cons_other {message : Message} {later : List Message} {side : Side} (other : message.kind.side ≠ side) :
    lane side (message :: later) = lane side later := by
  simp only [lane, List.filter_cons, other, decide_false, Bool.false_eq_true, if_false]

theorem lane_erase_same {waiting later : List Message} {message : Message} {side : Side}
    (first : lane side waiting = message :: later) : lane side (waiting.erase message) = later := by
  have erased : (lane side waiting).erase message = lane side (waiting.erase message) := List.erase_filter
  rw [← erased, first, List.erase_cons_head]

theorem lane_erase_other {waiting : List Message} {message : Message} {side : Side}
    (other : message.kind.side ≠ side) : lane side (waiting.erase message) = lane side waiting := by
  have erased : (lane side waiting).erase message = lane side (waiting.erase message) := List.erase_filter
  rw [← erased, List.erase_of_not_mem fun member => other (mem_lane.mp member).2]

theorem lane_all {waiting : List Message} {side : Side} (empty : lane side waiting = []) :
    lane side.other waiting = waiting := by
  refine List.filter_eq_self.mpr fun message member => decide_eq_true ?_
  apply Side.eq_other
  intro own
  have inside := mem_lane.mpr ⟨member, own⟩
  rw [empty] at inside
  cases inside

/-- What a poll takes from the messages that wait: the first on the side that is asked, or if there is
none, the first on the other. Behind a failure the side that has nothing left yields the failure instead. -/
def pick (failed : Bool) (turn : Side) (waiting : List Message) : Option Message :=
  match lane turn waiting with
  | message :: _ => some message
  | [] => if failed then none else waiting.head?

theorem pick_mem {failed : Bool} {turn : Side} {waiting : List Message} {message : Message}
    (picked : pick failed turn waiting = some message) : message ∈ waiting := by
  unfold pick at picked
  split at picked
  next found =>
    cases picked
    exact (mem_lane.mp (found ▸ List.mem_cons_self)).1
  · split at picked
    · cases picked
    · exact List.mem_of_head? picked

theorem pick_none {turn : Side} {waiting : List Message} (none : pick false turn waiting = none) : waiting = [] := by
  unfold pick at none
  split at none
  · cases none
  · exact List.head?_eq_none_iff.mp none

/-- The messages that so many polls take, one after the other, and those they leave. -/
def takes (failed : Bool) : Nat → Side → List Message → List Message × List Message
  | 0, _, waiting => ([], waiting)
  | more + 1, turn, waiting =>
    match pick failed turn waiting with
    | none => ([], waiting)
    | some message =>
      let (taken, left) := takes failed more turn.other (waiting.erase message)
      (message :: taken, left)

theorem takes_none {failed : Bool} {turn : Side} {waiting : List Message} (budget : Nat)
    (nothing : pick failed turn waiting = none) : takes failed budget turn waiting = ([], waiting) := by
  cases budget with
  | zero => rfl
  | succ more => rw [takes, nothing]

theorem takes_some {failed : Bool} {turn : Side} {waiting : List Message} {message : Message} (more : Nat)
    (picked : pick failed turn waiting = some message) : takes failed (more + 1) turn waiting =
      (message :: (takes failed more turn.other (waiting.erase message)).1,
        (takes failed more turn.other (waiting.erase message)).2) := by
  rw [takes, picked]

theorem takes_perm (failed : Bool) (budget : Nat) (turn : Side) (waiting : List Message) :
    waiting.Perm ((takes failed budget turn waiting).1 ++ (takes failed budget turn waiting).2) := by
  induction budget generalizing turn waiting with
  | zero => exact .refl waiting
  | succ more ih =>
    cases picked : pick failed turn waiting with
    | none => rw [takes_none _ picked]; exact .refl waiting
    | some message =>
      rw [takes_some more picked]
      exact (List.perm_cons_erase (pick_mem picked)).trans ((ih _ _).cons message)

/-- Each of the next so many messages is for the side that is asked when its turn comes, unless nothing
waits on that side any more. -/
def InStep : Nat → Side → List Message → Prop
  | 0, _, _ => True
  | _ + 1, _, [] => True
  | more + 1, turn, message :: later =>
    (message.kind.side = turn ∨ lane turn later = []) ∧ InStep more turn.other later

instance : (budget : Nat) → (turn : Side) → (waiting : List Message) → Decidable (InStep budget turn waiting)
  | 0, _, _ => .isTrue trivial
  | _ + 1, _, [] => .isTrue trivial
  | more + 1, turn, message :: later =>
    have := instDecidableInStep more turn.other later
    inferInstanceAs (Decidable ((message.kind.side = turn ∨ lane turn later = []) ∧ InStep more turn.other later))

private theorem inStep_single {waiting : List Message} {side : Side} (single : lane side waiting = []) (budget : Nat)
    (turn : Side) : InStep budget turn waiting := by
  induction waiting generalizing budget turn with
  | nil => cases budget <;> exact trivial
  | cons message later ih =>
    have other : message.kind.side ≠ side := by
      intro own
      rw [lane_cons_same own] at single
      cases single
    rw [lane_cons_other other] at single
    cases budget with
    | zero => exact trivial
    | succ more =>
      refine ⟨?_, ih single more turn.other⟩
      by_cases own : message.kind.side = turn
      · exact Or.inl own
      · right
        rw [Side.eq_other other] at own
        have asked := Side.eq_other fun same => own same.symm
        rwa [asked, Side.other_other]

/-- In step, the polls leave the order of arrival as it is. -/
theorem takes_inStep {budget : Nat} {turn : Side} {waiting : List Message} (failed : Bool)
    (inStep : InStep budget turn waiting) :
    (takes failed budget turn waiting).1 ++ (takes failed budget turn waiting).2 = waiting := by
  induction budget generalizing turn waiting with
  | zero => rfl
  | succ more ih =>
    cases waiting with
    | nil =>
      have nothing : pick failed turn [] = none := by cases failed <;> rfl
      rw [takes_none _ nothing]
      rfl
    | cons message later =>
      cases picked : pick failed turn (message :: later) with
      | none => rw [takes_none _ picked]; rfl
      | some first =>
        have same : first = message := by
          unfold pick at picked
          rcases inStep.1 with own | single
          · rw [lane_cons_same own] at picked
            exact (Option.some.inj picked).symm
          · by_cases own : message.kind.side = turn
            · rw [lane_cons_same own] at picked
              exact (Option.some.inj picked).symm
            · rw [lane_cons_other own, single] at picked
              cases failed
              · exact (Option.some.inj picked).symm
              · cases picked
        subst same
        rw [takes_some more picked, List.erase_cons_head, List.cons_append, ih inStep.2]

/-- Out of step, some message overtakes another. -/
theorem inStep_of_prefix {failed : Bool} {budget : Nat} {turn : Side} {waiting : List Message}
    (ordered : (takes failed budget turn waiting).1 <+: waiting) : InStep budget turn waiting := by
  induction budget generalizing turn waiting with
  | zero => exact trivial
  | succ more ih =>
    cases waiting with
    | nil => exact trivial
    | cons message later =>
      by_cases own : message.kind.side = turn
      · have picked : pick failed turn (message :: later) = some message := by
          unfold pick
          rw [lane_cons_same own]
        rw [takes_some more picked, List.erase_cons_head, List.cons_prefix_cons] at ordered
        exact ⟨Or.inl own, ih ordered.2⟩
      · cases behind : lane turn later with
        | nil => exact ⟨Or.inr behind, inStep_single behind more turn.other⟩
        | cons first others =>
          have picked : pick failed turn (message :: later) = some first := by
            unfold pick
            rw [lane_cons_other own, behind]
          rw [takes_some more picked, List.cons_prefix_cons] at ordered
          -- The first message taken is for the side that is asked, and the first that arrived is not.
          have asked : first.kind.side = turn := (mem_lane.mp (behind ▸ List.mem_cons_self)).2
          exact absurd (ordered.1 ▸ asked) own

/-- As many messages wait on the side that is asked first as on the other, or one more. -/
def Balanced (turn : Side) (waiting : List Message) : Prop :=
  (lane turn.other waiting).length ≤ (lane turn waiting).length ∧
    (lane turn waiting).length ≤ (lane turn.other waiting).length + 1

instance (turn : Side) (waiting : List Message) : Decidable (Balanced turn waiting) :=
  inferInstanceAs (Decidable (_ ∧ _))

/-- Polls that come upon a failure have taken everything exactly if the two sides were balanced. -/
theorem takes_balanced {budget : Nat} {turn : Side} {waiting : List Message}
    (early : (takes true budget turn waiting).1.length < budget) :
    (takes true budget turn waiting).2 = [] ↔ Balanced turn waiting := by
  induction budget generalizing turn waiting with
  | zero => cases early
  | succ more ih =>
    cases front : lane turn waiting with
    | nil =>
      have nothing : pick true turn waiting = none := by
        unfold pick
        rw [front]
        rfl
      rw [takes_none _ nothing, Balanced, front, lane_all front]
      simp
    | cons message later =>
      have picked : pick true turn waiting = some message := by
        unfold pick
        rw [front]
      have asked : message.kind.side = turn := (mem_lane.mp (front ▸ List.mem_cons_self)).2
      have kept : lane turn.other (waiting.erase message) = lane turn.other waiting :=
        lane_erase_other (asked ▸ turn.ne_other)
      rw [takes_some more picked] at early ⊢
      rw [ih (Nat.lt_of_succ_lt_succ early), Balanced, Balanced, Side.other_other, lane_erase_same front, kept, front,
        List.length_cons]
      omega

end Merge

end Subscriber
