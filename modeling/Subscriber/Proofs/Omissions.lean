import Subscriber.Proofs.Absences

/-! Doing nothing in some places of a script. A call uses up the steps in which it has a part, and those that arm a
refusal which is then spent on it. What else there is does not tell whether these steps have been taken. -/

namespace Subscriber
open Activity (Reply Step)

/-- What can be seen of a session and of its connection after a step over a loopback. -/
structure View where
  sight : Sight
  commands : List (Verb × List Bytes)
  observers : Message.Kind → Nat

def View.besides (call : Nat) (place : Option (Step Loopback)) (view : View) : View :=
  { view with
    sight := { view.sight with
      reply := if place.isNone then .nothing else view.sight.reply,
      finished := view.sight.finished.filter (·.1 != call) } }

namespace Activity

def view (activity : Activity Loopback) (reply : Reply) : View where
  sight := activity.sight reply
  commands := activity.transport.commands
  observers := activity.transport.observers.liveOf

def attempt (activity : Activity Loopback) : Option (Step Loopback) → Reply × Activity Loopback
  | none => (.nothing, activity)
  | some step => activity.step step

def views (activity : Activity Loopback) : List (Option (Step Loopback)) → List View
  | [] => []
  | place :: script =>
    let (reply, after) := activity.attempt place
    after.view reply :: views after script

def returns (call : Nat) (before after : Activity Loopback) : Bool :=
  after.finished.any (·.1 == call) && !before.finished.any (·.1 == call)

def spentOn (call : Nat) : Activity Loopback → List (Step Loopback) → Bool
  | _, [] => false
  | activity, step :: script =>
    let after := (activity.step step).2
    activity.transport.refusal.isSome &&
      if after.transport.refusal.isSome then spentOn call after script else returns call activity after

/-- The steps that a call uses up: those in which it has a part, and those that arm a refusal which is then spent on it,
or is replaced by one that is. -/
def usesUp (call : Nat) (activity : Activity Loopback) (step : Step Loopback) (later : List (Step Loopback)) : Bool :=
  activity.concerns call step || arms step && spentOn call (activity.step step).2 later

/-- A script with nothing in the place of the steps that a call uses up. -/
def sparing (call : Nat) : Activity Loopback → List (Step Loopback) → List (Option (Step Loopback))
  | _, [] => []
  | activity, step :: script =>
    (if activity.usesUp call step script then none else some step) :: sparing call (activity.step step).2 script

section
variable {call : Nat} {refusal : Option Refusal} {a b c : Activity Loopback} {step : Step Loopback}
  {script : List (Step Loopback)}

/-- What is seen of the two when the one is without the call. -/
theorem Apart.besides (apart : Apart call refusal a b) (place : Option (Step Loopback)) (reply : Reply) :
    b.view (if place.isNone then .nothing else reply) = (a.view reply).besides call place := by
  have session := apart.session
  have transport := apart.transport
  have finished := apart.finished
  obtain ⟨notices, same⟩ := session
  unfold view sight View.besides
  rw [same, transport, finished]

/-- The two differ in the call, and perhaps in the refusal that is in wait for the next command. -/
structure Besides (call : Nat) (a b : Activity Loopback) : Prop where
  commands : b.transport.commands = a.transport.commands
  observers : b.transport.observers = a.transport.observers
  session : Session.Alike a.session b.session
  calls : b.calls.filter (·.1 != call) = a.calls.filter (·.1 != call)
  shut : b.gate.shut = a.gate.shut
  held : b.gate.calls.filter (· != call) = a.gate.calls.filter (· != call)
  pump : b.pump = a.pump
  ready : b.ready.filter (· != .call call) = a.ready.filter (· != .call call)
  finished : b.finished.filter (·.1 != call) = a.finished.filter (·.1 != call)

theorem Besides.refl (call : Nat) (a : Activity Loopback) : Besides call a a :=
  ⟨rfl, rfl, .refl a.session, rfl, rfl, rfl, rfl, rfl, rfl⟩

theorem Besides.apart (besides : Besides call a b) (apart : Apart call refusal a c) : Apart call refusal b c := by
  refine ⟨?_, ?_, apart.calls.trans besides.calls.symm, apart.shut.trans besides.shut.symm,
    apart.held.trans besides.held.symm, apart.pump.trans besides.pump.symm, apart.ready.trans besides.ready.symm,
    apart.finished.trans besides.finished.symm⟩
  · rw [apart.transport]
    dsimp only
    rw [besides.commands, besides.observers]
  · obtain ⟨earlier, same⟩ := besides.session
    obtain ⟨later, again⟩ := apart.session
    rw [again, same]
    exact ⟨later, rfl⟩

theorem filter_self {α κ : Type} [DecidableEq κ] (key : α → κ) (item : α) (items : List α) :
    (items ++ [item]).filter (key · != key item) = items.filter (key · != key item) := by
  have gone : ¬(key item != key item) = true := fun kept => bne_iff_ne.mp kept rfl
  rw [List.filter_append, List.filter_cons, if_neg gone, List.filter_nil, List.append_nil]

private theorem filter_twice {α : Type} (keeps : α → Bool) (items : List α) :
    (items.filter keeps).filter keeps = items.filter keeps := by
  rw [List.filter_filter]
  simp only [Bool.and_self]

theorem Besides.setStage (besides : Besides call a b) (stage : Stage) : Besides call a (b.setStage call stage) := by
  refine { besides with calls := Eq.trans ?_ besides.calls }
  change (b.calls.map _).filter _ = b.calls.filter _
  induction b.calls with
  | nil => rfl
  | cons entry entries ih =>
    rw [List.map_cons]
    by_cases own : entry.1 = call
    · have gone {stage : Stage} : ¬(((call, stage) : Nat × Stage).1 != call) = true := fun kept => bne_iff_ne.mp kept rfl
      have left : ¬(entry.1 != call) = true := fun kept => bne_iff_ne.mp kept own
      rw [if_pos own, List.filter_cons, List.filter_cons, if_neg gone, if_neg left]
      exact ih
    · have kept : (entry.1 != call) = true := bne_iff_ne.mpr own
      rw [if_neg own, List.filter_cons, List.filter_cons, if_pos kept, if_pos kept]
      exact congrArg (entry :: ·) ih

theorem Besides.forget (besides : Besides call a b) : Besides call a (b.forget call) where
  commands := besides.commands
  observers := besides.observers
  session := besides.session
  calls := (filter_twice _ _).trans besides.calls
  shut := besides.shut
  held := (filter_twice _ _).trans besides.held
  pump := besides.pump
  ready := (filter_twice _ _).trans besides.ready
  finished := besides.finished

theorem Besides.finish (besides : Besides call a b) (result : Except Error Unit) : Besides call a (b.finish call result) := by
  have own : (b.finished ++ [(call, result)]).filter (·.1 != call) = b.finished.filter (·.1 != call) :=
    filter_self Prod.fst (call, result) b.finished
  exact { besides.forget with finished := own.trans besides.finished }

theorem Besides.hold (besides : Besides call a b) (phase : Phase) :
    Besides call a
      ({ b with gate := { b.gate with calls := b.gate.calls ++ [call] } }.setStage call (.held phase)) := by
  have lined : Besides call a { b with gate := { b.gate with calls := b.gate.calls ++ [call] } } :=
    { besides with held := (filter_self id call _).trans besides.held }
  exact lined.setStage (.held phase)

theorem finished_any (a : Activity Loopback) (call : Nat) :
    a.finished.any (·.1 == call) = true ↔ ∃ result, (call, result) ∈ a.finished := by
  rw [List.any_eq_true]
  constructor
  · rintro ⟨⟨id, result⟩, member, own⟩
    exact ⟨result, beq_iff_eq.mp own ▸ member⟩
  · rintro ⟨result, member⟩
    exact ⟨_, member, beq_self_eq_true call⟩

theorem returns_finish (unfinished : ∀ result, (call, result) ∉ a.finished) (b : Activity Loopback)
    (result : Except Error Unit) : returns call a (b.finish call result) = true := by
  have before : a.finished.any (·.1 == call) = false := by
    refine Bool.eq_false_iff.mpr ?_
    intro known
    obtain ⟨result, member⟩ := (finished_any a call).mp known
    exact unfinished result member
  have after : (b.finish call result).finished.any (·.1 == call) = true :=
    (finished_any _ call).mpr ⟨result, List.mem_append_right _ List.mem_cons_self⟩
  unfold returns
  rw [before, after]
  rfl

theorem returns_passes (passes : Passes call a b) : returns call a b = false := by
  have same : b.finished.any (·.1 == call) = a.finished.any (·.1 == call) := by
    rw [Bool.eq_iff_iff, finished_any, finished_any]
    exact exists_congr passes.finished
  unfold returns
  rw [same, Bool.and_not_self]

def spared (call : Nat) (activity : Activity Loopback) (script : List (Step Loopback)) : Option Refusal :=
  if activity.spentOn call script then none else activity.transport.refusal

theorem spared_unarmed (unarmed : a.transport.refusal = none) : a.spared call script = none := by
  unfold spared
  rw [unarmed, ite_self]

/-- A refusal that stays in wait meets its fate later. -/
theorem spared_kept (kept : (a.step step).2.transport.refusal = a.transport.refusal) :
    a.spared call (step :: script) = (a.step step).2.spared call script := by
  cases armed : a.transport.refusal with
  | none => rw [spared_unarmed armed, spared_unarmed (kept.trans armed)]
  | some refusal =>
    have still : (a.step step).2.transport.refusal.isSome = true := by rw [kept, armed]; rfl
    have same : a.spentOn call (step :: script) = (a.step step).2.spentOn call script := by
      rw [spentOn, armed, if_pos still]
      rfl
    unfold spared
    rw [same, kept]

theorem spared_spent (armed : a.transport.refusal.isSome) (spent : (a.step step).2.transport.refusal = none) :
    a.spared call (step :: script) = if returns call a (a.step step).2 then none else a.transport.refusal := by
  have decided : a.spentOn call (step :: script) = returns call a (a.step step).2 := by
    rw [spentOn, armed, spent]
    rfl
  unfold spared
  rw [decided]

/-- Two refusals that are armed one after the other meet the same fate, since only the second is left. -/
theorem spared_armed (armed : (a.step step).2.transport.refusal.isSome = true)
    (spent : (a.step step).2.spentOn call script = true) : a.spared call (step :: script) = none := by
  cases waiting : a.transport.refusal with
  | none => exact spared_unarmed waiting
  | some refusal =>
    refine if_pos ?_
    rw [spentOn, waiting, if_pos armed, spent]
    rfl

/-- What a step in which the call has a part makes of the refusal in wait: nothing, or it is spent on the call. -/
def Spends (call : Nat) (a b : Activity Loopback) : Prop :=
  b.transport.refusal = a.transport.refusal ∨
  a.transport.refusal.isSome ∧ b.transport.refusal = none ∧ returns call a b = true

theorem spared_spends (spends : Spends call a (a.step step).2) :
    a.spared call (step :: script) = (a.step step).2.spared call script := by
  rcases spends with kept | ⟨armed, spent, returned⟩
  · exact spared_kept kept
  · rw [spared_spent armed spent, returned, spared_unarmed spent]
    rfl

end

end Activity

end Subscriber
