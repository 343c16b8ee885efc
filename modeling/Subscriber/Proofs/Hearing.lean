import Subscriber.Proofs.Delivering

/-! How a stream stands to what arrives. A record says which messages were read while the stream was attached, in
their order, what it has yielded, and what the pump found at each of its turns; everything that can happen to the
stream keeps it and its record in step. -/

namespace Subscriber
open Merge (Balanced)

structure Record where
  /-- The messages that were read since the stream attached, and those that waited then. -/
  arrived : List Message := []
  yielded : List Item := []
  /-- The turns of the pump since then: the side that was asked first, and what waited. -/
  turns : List (Side × List Message) := []

namespace Record

/-- Every turn of the pump found the messages in step with the sides that it asked. -/
def InStep (record : Record) : Prop := ∀ entry ∈ record.turns, Merge.InStep Activity.pumpTurn entry.1 entry.2

instance (record : Record) : Decidable record.InStep :=
  inferInstanceAs (Decidable (∀ entry ∈ record.turns, Merge.InStep Activity.pumpTurn entry.1 entry.2))

end Record

/-- How a stream stands to what arrived. While it attends, what it has seen and what waits is what arrived; at its
end it has seen why. -/
inductive Heard (stream : Nat) (fanout : Fanout) (failure : Option Fault) (waiting : List Message)
    (record : Record) : Prop where
  | absent (gone : fanout.stream? stream = none) (blank : record = {})
  | fresh (present : fanout.stream? stream = some .detached) (blank : record = {})
  | attending (published : List Message) (attends : fanout.attends stream = true)
      (seen : record.yielded ++ fanout.queue stream = published.map .ok)
      (account : record.arrived.Perm (published ++ waiting))
      (ordered : record.InStep → record.arrived = published ++ waiting)
      (disordered : published <+: record.arrived → record.InStep)
  | cancelled (published : List Message) (joined : fanout.Joined stream) (silent : fanout.attends stream = false)
      (seen : record.yielded ++ fanout.queue stream = published.map .ok ++ [.error .cancelled])
      (order : published <+: record.arrived ↔ record.InStep) (quit : fanout.cancelled = true)
  | interrupted (published : List Message) (fault : Fault) (side : Side) (last : List Message)
      (joined : fanout.Joined stream) (silent : fanout.attends stream = false)
      (seen : record.yielded ++ fanout.queue stream = published.map .ok ++ [.error (.upstream fault.toError)])
      (order : published <+: record.arrived ↔ record.InStep) (failed : failure = some fault)
      (found : record.turns.getLast? = some (side, last))
      (lost : record.arrived.Perm published ↔ Balanced side last)

namespace Heard
variable {stream : Nat} {fanout after : Fanout} {failure : Option Fault} {waiting : List Message} {record : Record}

theorem order_of_attending {published : List Message}
    (ordered : record.InStep → record.arrived = published ++ waiting)
    (disordered : published <+: record.arrived → record.InStep) : published <+: record.arrived ↔ record.InStep :=
  ⟨disordered, fun inStep => ordered inStep ▸ List.prefix_append published waiting⟩

theorem spares (heard : Heard stream fanout failure waiting record) (spares : fanout.Spares stream after)
    {later : Option Fault} (keeps : ∀ fault, failure = some fault → later = some fault) {left : List Message}
    (unmoved : fanout.attends stream = true → left = waiting) : Heard stream after later left record := by
  have queue := spares.queue
  cases heard with
  | absent gone blank => exact .absent (spares.same.trans gone) blank
  | fresh present blank => exact .fresh (spares.same.trans present) blank
  | attending published attends seen account ordered disordered =>
    rw [unmoved attends]
    exact .attending published (spares.attends.trans attends) (queue ▸ seen) account ordered disordered
  | cancelled published before silent seen order quit =>
    exact .cancelled published (spares.joined before) (spares.attends.trans silent) (queue ▸ seen) order
      (spares.cancelled quit)
  | interrupted published fault side last before silent seen order failed found lost =>
    exact .interrupted published fault side last (spares.joined before) (spares.attends.trans silent) (queue ▸ seen) order
      (keeps fault failed) found lost

theorem account (heard : Heard stream fanout failure waiting record) (attends : fanout.attends stream = true) :
    ∃ published, record.yielded ++ fanout.queue stream = published.map .ok ∧
      record.arrived.Perm (published ++ waiting) ∧
      (record.InStep → record.arrived = published ++ waiting) ∧ (published <+: record.arrived → record.InStep) := by
  cases heard with
  | attending published attends seen account ordered disordered => exact ⟨published, seen, account, ordered, disordered⟩
  | absent gone blank => simp [Fanout.attends, Fanout.consumer?, gone] at attends
  | fresh present blank => simp [Fanout.attends, Fanout.consumer?, present, Attachment.consumer?] at attends
  | cancelled published joined silent seen order quit => cases silent.symm.trans attends
  | interrupted published fault side last joined silent seen order failed found lost => cases silent.symm.trans attends

theorem arrives (heard : Heard stream fanout failure waiting record) (new : List Message) :
    Heard stream fanout failure (waiting ++ new)
      (if fanout.attends stream then { record with arrived := record.arrived ++ new } else record) := by
  split
  next attends =>
    obtain ⟨published, seen, account, ordered, disordered⟩ := heard.account attends
    refine .attending published attends seen ?_ (fun inStep => ?_) fun inside => ?_
    · rw [← List.append_assoc]
      exact account.append_right new
    · rw [← List.append_assoc, ← ordered inStep]
    -- What has been published is no longer than what had arrived, so nothing new can mend its order.
    · have shorter : published.length ≤ record.arrived.length := by
        rw [account.length_eq, List.length_append]
        omega
      exact disordered (List.prefix_of_prefix_length_le inside (List.prefix_append _ _) shorter)
  next silent => exact heard.spares (.refl stream fanout) (fun _ failed => failed) fun attends => absurd attends silent

theorem quits (heard : Heard stream fanout failure waiting record) (quits : fanout.Quits after) {left : List Message}
    (unmoved : after = fanout → left = waiting) : Heard stream after failure left record := by
  rcases quits with rfl | rfl
  · exact heard.spares (.refl stream _) (fun _ failed => failed) fun _ => unmoved rfl
  · cases listens : fanout.attends stream with
    | false =>
      have spared := Fanout.interrupt_spares listens .cancelled
      have quit : fanout.Spares stream fanout.cancel := ⟨spared.same, spared.attends, spared.pump, fun _ => rfl⟩
      exact heard.spares quit (fun _ failed => failed) fun attends => nomatch listens.symm.trans attends
    | true =>
      obtain ⟨published, seen, account, ordered, disordered⟩ := heard.account listens
      refine .cancelled published (Fanout.interrupt_joined listens .cancelled)
        (Fanout.attends_interrupt fanout .cancelled stream) ?_ (order_of_attending ordered disordered) rfl
      have queue : fanout.cancel.queue stream = fanout.queue stream ++ [.error .cancelled] :=
        Fanout.queue_interrupt listens .cancelled
      rw [queue, ← List.append_assoc, seen]

theorem inStep_turn {side : Side} {last : List Message} :
    ({ record with turns := record.turns ++ [(side, last)] } : Record).InStep ↔
      record.InStep ∧ Merge.InStep Activity.pumpTurn side last := by
  simp only [Record.InStep, List.forall_mem_append, List.forall_mem_singleton]

/-- What the pump took in step is what arrived next, and out of step it is not. -/
theorem turn_order {published : List Message} (failed : Bool) (side : Side)
    (ordered : record.InStep → record.arrived = published ++ waiting)
    (disordered : published <+: record.arrived → record.InStep) :
    let result := Merge.takes failed Activity.pumpTurn side waiting
    (record.InStep ∧ Merge.InStep Activity.pumpTurn side waiting →
      record.arrived = published ++ result.1 ++ result.2) ∧
    (published ++ result.1 <+: record.arrived → record.InStep ∧ Merge.InStep Activity.pumpTurn side waiting) := by
  refine ⟨fun ⟨before, inStep⟩ => ?_, fun inside => ?_⟩
  · rw [List.append_assoc, Merge.takes_inStep failed inStep]
    exact ordered before
  · have before := disordered ((List.prefix_append _ _).trans inside)
    rw [ordered before] at inside
    exact ⟨before, Merge.inStep_of_prefix ((List.prefix_append_right_inj published).mp inside)⟩

theorem pumped (heard : Heard stream fanout failure waiting record) (failed : Bool) (side : Side) :
    Heard stream (fanout.deliverAll (Merge.takes failed Activity.pumpTurn side waiting).1) failure
      (Merge.takes failed Activity.pumpTurn side waiting).2
      (if fanout.attends stream then { record with turns := record.turns ++ [(side, waiting)] } else record) := by
  split
  next attends =>
    obtain ⟨published, seen, account, ordered, disordered⟩ := heard.account attends
    obtain ⟨inOrder, outOfOrder⟩ := turn_order failed side ordered disordered
    have taken := Merge.takes_perm failed Activity.pumpTurn side waiting
    refine .attending (published ++ (Merge.takes failed Activity.pumpTurn side waiting).1)
      ((Fanout.attends_deliverAll _ fanout stream).trans attends) ?_ ?_ ?_ ?_
    · rw [Fanout.queue_deliverAll _ attends, ← List.append_assoc, seen, List.map_append]
    · rw [List.append_assoc]
      exact account.trans (taken.append_left published)
    · rw [inStep_turn]
      exact inOrder
    · rw [inStep_turn]
      exact outOfOrder
  next silent =>
    have quiet := Bool.eq_false_iff.mpr silent
    exact heard.spares (Fanout.deliverAll_spares _ quiet) (fun _ failed => failed) fun attends => absurd attends silent

theorem broken (heard : Heard stream fanout failure waiting record) {side : Side} {fault : Fault}
    (failed : failure = some fault)
    (early : (Merge.takes true Activity.pumpTurn side waiting).1.length < Activity.pumpTurn) (left : List Message) :
    Heard stream ((fanout.deliverAll (Merge.takes true Activity.pumpTurn side waiting).1).interrupt
        (.upstream fault.toError)) failure left
      (if fanout.attends stream then { record with turns := record.turns ++ [(side, waiting)] } else record) := by
  split
  next attends =>
    obtain ⟨published, seen, account, ordered, disordered⟩ := heard.account attends
    obtain ⟨inOrder, outOfOrder⟩ := turn_order true side ordered disordered
    have given := (Fanout.attends_deliverAll (Merge.takes true Activity.pumpTurn side waiting).1 fanout stream).trans attends
    have taken := account.trans ((Merge.takes_perm true Activity.pumpTurn side waiting).append_left published)
    rw [← List.append_assoc] at taken
    refine .interrupted (published ++ (Merge.takes true Activity.pumpTurn side waiting).1) fault side waiting
      (Fanout.interrupt_joined given _) (Fanout.attends_interrupt _ _ stream) ?_ ?_ failed List.getLast?_concat ?_
    · rw [Fanout.queue_interrupt given, Fanout.queue_deliverAll _ attends, ← List.append_assoc, ← List.append_assoc, seen,
        List.map_append]
    · rw [inStep_turn]
      exact ⟨outOfOrder, fun inStep => inOrder inStep ▸ List.prefix_append _ _⟩
    · rw [← Merge.takes_balanced early]
      constructor
      · intro same
        have sizes := taken.symm.trans same
        have length := sizes.length_eq
        rw [List.length_append] at length
        exact List.length_eq_zero_iff.mp (by omega)
      · intro nothing
        rw [nothing, List.append_nil] at taken
        exact taken
  next silent =>
    have quiet := Bool.eq_false_iff.mpr silent
    have given := Fanout.deliverAll_spares (Merge.takes true Activity.pumpTurn side waiting).1 quiet
    exact heard.spares (given.trans (Fanout.interrupt_spares (given.attends.trans quiet) _)) (fun _ failed => failed)
      fun attends => absurd attends silent

theorem blank (heard : Heard stream fanout failure waiting record) (never : ¬ fanout.Joined stream) : record = {} := by
  cases heard with
  | absent gone blank => exact blank
  | fresh present blank => exact blank
  | attending published attends seen account ordered disordered => exact absurd (Fanout.attends_joined attends) never
  | cancelled published joined silent seen order quit => exact absurd joined never
  | interrupted published fault side last joined silent seen order failed found lost => exact absurd joined never

theorem entered (heard : Heard stream fanout failure waiting record) (fresh : fanout.stream? stream = some .detached)
    {items : List Item} (enters : fanout.Enters stream items after) (left : List Message) :
    after.Joined stream ∧ fanout.attends stream = false ∧
      Heard stream after failure left
        { record with
          arrived := if after.attends stream then left else record.arrived
          yielded := record.yielded ++ items } := by
  have never : ¬ fanout.Joined stream := fun joined => joined.attached fresh
  have unheard : fanout.attends stream = false := Bool.eq_false_iff.mpr fun attends => never (Fanout.attends_joined attends)
  cases heard.blank never
  cases enters with
  | attaches going =>
    obtain ⟨attends, empty⟩ := Fanout.attach_own fresh
    rw [attends]
    refine ⟨Fanout.attends_joined attends, unheard, ?_⟩
    exact .attending [] attends (by rw [empty]; rfl) (.refl left) (fun _ => rfl) fun _ _ => nofun
  | refused cancelled joined empty silent quit =>
    rw [silent]
    refine ⟨joined, unheard, .cancelled [] joined silent (by rw [empty]; rfl) ?_ quit⟩
    exact ⟨fun _ _ => nofun, fun _ => List.nil_prefix⟩

theorem orderly (heard : Heard stream fanout failure waiting record) (joined : fanout.Joined stream) :
    fanout.Orderly stream := by
  cases heard with
  | absent gone blank => exact absurd gone joined.present
  | fresh found blank => exact absurd found joined.attached
  | attending published attends seen account ordered disordered => exact Fanout.orderly_attending seen
  | cancelled published joined silent seen order quit => exact Fanout.orderly_ended silent seen
  | interrupted published fault side last joined silent seen order failed found lost => exact Fanout.orderly_ended silent seen

theorem drawn (heard : Heard stream fanout failure waiting record) (joined : fanout.Joined stream) {items : List Item}
    (draws : fanout.Draws stream items after) {left : List Message} (unmoved : after.pump = fanout.pump → left = waiting) :
    Heard stream after failure left { record with yielded := record.yielded ++ items } := by
  have same : record.yielded ++ items ++ after.queue stream = record.yielded ++ fanout.queue stream := by
    rw [List.append_assoc, ← draws.queue]
  cases heard with
  | absent gone blank => exact absurd gone joined.present
  | fresh found blank => exact absurd found joined.attached
  | attending published attends seen account ordered disordered =>
    rw [unmoved (draws.pump attends)]
    exact .attending published (draws.attends.trans attends) (same.trans seen) account ordered disordered
  | cancelled published joined silent seen order quit =>
    exact .cancelled published draws.joined (draws.attends.trans silent) (same.trans seen) order (draws.cancelled.trans quit)
  | interrupted published fault side last joined silent seen order failed found lost =>
    exact .interrupted published fault side last draws.joined (draws.attends.trans silent) (same.trans seen) order failed
      found lost

theorem moves (heard : Heard stream fanout failure waiting record) {items : List Item}
    (moves : Activity.Moves stream fanout items after) {left : List Message}
    (unmoved : after.pump = fanout.pump → left = waiting) :
    Heard stream after failure left
      (if (after.stream? stream).isSome then
        { record with
          arrived := if !fanout.attends stream && after.attends stream then left else record.arrived
          yielded := record.yielded ++ items }
      else {}) := by
  cases moves with
  | spares spared =>
    have kept := heard.spares spared (fun _ failed => failed) fun attends => unmoved (spared.pump attends)
    rw [spared.attends, Bool.not_and_self, List.append_nil]
    cases there : after.stream? stream with
    | some attachment => exact kept
    | none => exact .absent there rfl
  | opens absent opened =>
    have never : ¬ fanout.Joined stream := fun joined => joined.present absent
    have quiet : after.attends stream = false := by
      rw [Fanout.attends, Fanout.consumer?, opened]
      rfl
    cases heard.blank never
    rw [opened, quiet, Bool.and_false]
    exact .fresh opened rfl
  | enters fresh enters =>
    obtain ⟨joined, unheard, kept⟩ := heard.entered fresh enters left
    rw [Option.isSome_iff_ne_none.mpr joined.present, unheard]
    exact kept
  | draws joined draws =>
    have drawn := draws (heard.orderly joined)
    rw [Option.isSome_iff_ne_none.mpr drawn.joined.present, drawn.attends, Bool.not_and_self]
    exact heard.drawn joined drawn unmoved
  | leaves gone =>
    rw [gone]
    exact .absent gone rfl

end Heard

end Subscriber
