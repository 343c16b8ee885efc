import Subscriber.Proofs.Warnings

/-! The turn of a connection in which a write fails. Two sessions over connections with queues of two sizes hear of it in different
orders, and yet come to rest alike. -/

namespace Subscriber

/-- The call that is told of room in the queue. -/
def Signal.entrant? {ε : Type} : Signal ε → Option Nat
  | .admitted call => some call
  | _ => none

namespace Activity
open scoped List

section
variable {exact : Bool} {a b : Activity Link} {call : Nat} {rest rest' : List Task}

/-- A write fails in the turn of the connection. -/
def Breaks (activity : Activity Link) (task : Task) : Prop :=
  task = .background ∧ activity.transport.writer ≠ .stopped ∧ activity.transport.work.writer = .stopped

/-- The calls whose commands are let into the queue in the next turn of the connection. -/
def entrants (activity : Activity Link) : List Nat := activity.transport.work.signals.filterMap Signal.entrant?

/-- The command of a cancellation is let into the queue in the next turn of the connection. -/
def Enters (activity : Activity Link) : Prop :=
  ∃ request ∈ activity.transport.waiting, activity.cancelling request.call = true ∧ request.call ∈ activity.entrants

/-- The command of a cancellation waits in front of the queue, and it is not the only one. -/
def Competes (activity : Activity Link) : Prop :=
  ∃ request ∈ activity.transport.waiting, activity.cancelling request.call = true ∧
    ∃ entry ∈ activity.calls, activity.cancelling entry.1 = true ∧ entry.1 ≠ request.call

/-- No cancellation's command is let into the queue in the turn in which a write fails. -/
def Bars (activity : Activity Link) (task : Task) : Prop := ¬ (activity.Breaks task ∧ activity.Enters)

/-- Cancellations are not entangled when a write fails while commands are held back. -/
def Untangled (activity : Activity Link) (task : Task) : Prop :=
  ¬ (activity.Breaks task ∧ activity.gate.shut = true ∧ (activity.Enters ∨ activity.Competes))

instance (activity : Activity Link) (task : Task) : Decidable (activity.Breaks task) := by
  unfold Breaks
  infer_instance

instance (activity : Activity Link) : Decidable activity.Enters := by
  unfold Enters
  infer_instance

instance (activity : Activity Link) : Decidable activity.Competes := by
  unfold Competes
  infer_instance

instance (activity : Activity Link) (task : Task) : Decidable (activity.Bars task) := by
  unfold Bars
  infer_instance

instance (activity : Activity Link) (task : Task) : Decidable (activity.Untangled task) := by
  unfold Untangled
  infer_instance

theorem Matches.front (matched : Matches exact a b) {task : Task} (front : a.ready = task :: rest) (front' : b.ready = task :: rest')
    (difference : a.matters task = true) : Matches exact { a with ready := rest } { b with ready := rest' } := by
  refine { matched with agenda := ?_ }
  have agenda := matched.agenda
  unfold Activity.agenda at agenda
  rw [front, front', matched.matters, List.filter_cons_of_pos difference, List.filter_cons_of_pos difference] at agenda
  change rest'.filter b.matters = rest.filter a.matters
  rw [matched.matters]
  exact (List.cons.inj agenda).2

private theorem mapFault_admitted (calls : List Nat) :
    (calls.map Signal.admitted).map (·.mapFault Fault.toError) = calls.map Signal.admitted := by
  rw [List.map_map]
  rfl

private theorem mapFault_given (requests : List Request) (fault : Fault) :
    (requests.map (Link.given fault)).map (·.mapFault Fault.toError) =
      (requests.map Request.call).map fun call => Signal.answer call (.error fault.toError) := by
  rw [List.map_map, List.map_map]
  rfl

private theorem mem_mapFault_admitted {signals : List (Signal Fault)}
    (member : .admitted call ∈ signals.map (·.mapFault Fault.toError)) : .admitted call ∈ signals := by
  obtain ⟨signal, inside, same⟩ := List.mem_map.mp member
  cases signal with
  | admitted other =>
    cases same
    exact inside
  | _ => cases same

private theorem mem_mapFault_answer {answer : Except Error Unit} {signals : List (Signal Fault)}
    (member : .answer call answer ∈ signals.map (·.mapFault Fault.toError)) :
    ∃ result, .answer call result ∈ signals ∧ answer = result.mapError Fault.toError := by
  obtain ⟨signal, inside, same⟩ := List.mem_map.mp member
  cases signal with
  | answer other result =>
    cases same
    exact ⟨result, inside, rfl⟩
  | _ => cases same

/-- The connection has had its turn and its session has heard what was read, but not who is told that there is room. -/
def informed (activity : Activity Link) (rest : List Task) (heard : List (Signal Fault)) : Activity Link :=
  (heard.map (·.mapFault Fault.toError)).foldl Activity.hear
    { activity with ready := rest, transport := { activity.transport.work with signals := [] } }

def roomy (activity : Activity Link) (rest : List Task) (heard : List (Signal Fault)) (admitted : List Nat) : Activity Link :=
  (admitted.map Signal.admitted).foldl Activity.hear (activity.informed rest heard)

/-- The session has heard of the failure too, but not who is given up besides. -/
def ended (activity : Activity Link) (rest : List Task) (heard : List (Signal Fault)) (admitted : List Nat)
    (ending : List (Signal Fault)) : Activity Link :=
  (ending.map (·.mapFault Fault.toError)).foldl Activity.hear (activity.roomy rest heard admitted)

private theorem sent_of_informed {heard : List (Signal Fault)}
    (sent : (a.informed rest heard).stage? call = some (.sent phase)) : a.stage? call = some (.sent phase) :=
  sent_of_foldl (a := { a with ready := rest, transport := { a.transport.work with signals := [] } }) sent

section
variable {heard : List (Signal Fault)} (arranged : a.Arranged none) (front : a.ready = .background :: rest)
include arranged front

private theorem Arranged.informed (heard : List (Signal Fault)) :
    (a.informed rest heard).Arranged none ∧ .background ∉ (a.informed rest heard).errands := by
  obtain ⟨worked, busy⟩ := arranged.worked front
  exact worked.hearAll busy (heard.map (·.mapFault Fault.toError))

private theorem Arranged.matches_roomy (heard : List (Signal Fault)) (admitted : List Nat) :
    Matches exact (a.informed rest heard) (a.roomy rest heard admitted) := by
  obtain ⟨informed, idle⟩ := arranged.informed front heard
  exact informed.admitAll idle admitted

/-- When the connection has its turn, nobody who waits for an answer wants one. -/
private theorem Arranged.poised : Poised (fun _ => True) { a with ready := rest } := by
  intro call phase sent _ wants
  refine arranged.ahead call phase nofun sent ?_
  rw [errands_front front nofun]
  exact (List.singleton_sublist.mpr (List.mem_filter.mpr ⟨wants, rfl⟩)).cons_cons _

private theorem Arranged.poised_informed (unheard : ∀ call, .admitted call ∉ heard) :
    (a.informed rest heard).Poised Phase.Clears := by
  have poised : Poised (fun _ => True) { a with ready := rest, transport := { a.transport.work with signals := [] } } :=
    arranged.poised front
  have still : Poised (fun _ => True) (a.informed rest heard) :=
    poised.hearAll fun call member => unheard call (mem_mapFault_admitted member)
  exact fun call phase sent _ => still call phase sent trivial

private theorem Arranged.poised_roomy {admitted : List Nat} (unheard : ∀ call, .admitted call ∉ heard)
    (barred : ∀ call ∈ admitted, a.cancelling call = false) : (a.roomy rest heard admitted).Poised Phase.Clears := by
  refine (arranged.poised_informed front unheard).admitAll fun call entered phase sent clears => ?_
  have other := barred call entered
  exact Bool.false_ne_true (other.symm.trans (cancelling_iff.mpr ⟨phase, sent_of_informed sent, clears⟩))

end

private theorem mem_entrants : call ∈ a.entrants ↔ .admitted call ∈ a.transport.work.signals := by
  unfold entrants
  rw [List.mem_filterMap]
  constructor
  · rintro ⟨signal, member, entered⟩
    cases signal with
    | admitted other =>
      cases entered
      exact member
    | _ => cases entered
  · exact fun member => ⟨_, member, rfl⟩

private theorem barred_of_not_enters (enters : ¬ a.Enters) {admitted others : List Nat}
    (entered : ∀ call ∈ admitted, call ∈ a.entrants) (room : admitted ++ others <+ a.transport.waiting.map Request.call) :
    ∀ call ∈ admitted, a.cancelling call = false := by
  intro call member
  obtain ⟨request, waits, rfl⟩ := List.mem_map.mp (room.subset (List.mem_append_left _ member))
  by_contra cancels
  exact enters ⟨request, waits, Bool.not_eq_false _ ▸ cancels, entered _ member⟩

private theorem only_of_not_competes (competes : ¬ a.Competes) {request : Request} (waits : request ∈ a.transport.waiting)
    (cancels : a.cancelling request.call = true) (also : a.cancelling call = true) : call = request.call := by
  obtain ⟨phase, sent, -⟩ := cancelling_iff.mp also
  by_contra other
  exact competes ⟨request, waits, cancels, _, stage?_mem sent, also, other⟩

private theorem fails_ending {ending : List (Signal Fault)}
    (failing : ∀ call result, .answer call result ∈ ending → ∃ fault, result = .error fault) :
    ∀ signal ∈ ending.map (·.mapFault Fault.toError), signal.Fails := by
  intro signal member
  cases signal with
  | answer call answer =>
    obtain ⟨result, inside, rfl⟩ := mem_mapFault_answer member
    obtain ⟨cause, rfl⟩ := failing call result inside
    exact ⟨_, rfl⟩
  | _ => trivial

private theorem fails_given (calls : List Nat) (error : Error) :
    ∀ signal ∈ calls.map fun call => Signal.answer call (.error error), signal.Fails := by
  intro signal member
  obtain ⟨call, -, rfl⟩ := List.mem_map.mp member
  exact ⟨error, rfl⟩

private theorem unobserved_given (calls : List Nat) (error : Error) :
    .observed ∉ calls.map fun call => Signal.answer call (.error error) := by
  intro member
  obtain ⟨call, -, same⟩ := List.mem_map.mp member
  cases same

private theorem gate_foldl_hear (signals : List (Signal Error)) (a : Activity Link) : (signals.foldl Activity.hear a).gate = a.gate := by
  induction signals generalizing a with
  | nil => rfl
  | cons signal signals ih =>
    refine (ih _).trans ?_
    unfold Activity.hear
    cases signal with
    | notice notice => rfl
    | _ =>
      dsimp only
      split
      · exact wake_gate ..
      · rfl

private theorem Breaks.stranded (struck : a.Breaks .background) (opened : a.gate.shut = false) :
    (Activity.runBackground { a with ready := rest }).Stranded := by
  have transport : (Activity.runBackground { a with ready := rest }).transport = { a.transport.work with signals := [] } :=
    foldl_hear_transport _ _
  have gate : (Activity.runBackground { a with ready := rest }).gate = a.gate := gate_foldl_hear _ _
  exact ⟨(congrArg Link.writer transport).trans struck.2.2, (congrArg Gate.shut gate).trans opened⟩

/-- What the turn of a connection tells in which a write fails: what was read, who got room before, the failure, and who else is
given up with it. -/
structure Telling (activity : Activity Link) (heard ending : List (Signal Fault)) (fault : Fault) (admitted : List Nat)
    (left : List Request) : Prop where
  told : activity.transport.work.signals = heard ++ admitted.map .admitted ++ (ending ++ left.map (Link.given fault))
  unheard : ∀ call, .admitted call ∉ heard
  unended : ∀ call, .admitted call ∉ ending
  failing : ∀ call result, .answer call result ∈ ending → ∃ fault, result = .error fault

section
variable {heard ending : List (Signal Fault)} {fault : Fault} {admitted admitted' : List Nat} {left right : List Request}

private theorem Telling.runBackground (telling : a.Telling heard ending fault admitted left) :
    Activity.runBackground { a with ready := rest } = ((left.map Request.call).map fun call =>
      Signal.answer call (.error fault.toError)).foldl Activity.hear (a.ended rest heard admitted ending) := by
  change (a.transport.work.signals.map _).foldl Activity.hear _ = _
  rw [telling.told]
  simp only [List.map_append, List.foldl_append, mapFault_admitted, mapFault_given]
  rfl

private theorem Telling.entered (telling : a.Telling heard ending fault admitted left) (call : Nat) (member : call ∈ admitted) :
    call ∈ a.entrants := by
  rw [mem_entrants, telling.told]
  exact List.mem_append_left _ (List.mem_append_right _ (List.mem_map_of_mem member))

private theorem Telling.silent (telling : a.Telling heard ending fault admitted left) (call : Nat) :
    .admitted call ∉ ending.map (·.mapFault Fault.toError) :=
  fun member => telling.unended call (mem_mapFault_admitted member)

private theorem Telling.warned (telling : a.Telling heard ending fault admitted left) (rest : List Task) :
    ∃ signals, (.observed ∈ signals ↔ .observed ∈ ending.map (·.mapFault Fault.toError)) ∧
      Warned signals (a.informed rest heard) (Activity.runBackground { a with ready := rest }) := by
  refine ⟨admitted.map .admitted ++ (ending.map (·.mapFault Fault.toError) ++
    (left.map Request.call).map fun call => Signal.answer call (.error fault.toError)), by simp, ?_⟩
  rw [telling.runBackground, ended, roomy, ← List.foldl_append, ← List.foldl_append]
  refine foldl_warned _ fun signal member => ?_
  rcases List.mem_append.mp member with room | member
  · obtain ⟨call, -, rfl⟩ := List.mem_map.mp room
    trivial
  · rcases List.mem_append.mp member with failed | given
    · exact fails_ending telling.failing signal failed
    · exact fails_given _ _ signal given

private theorem Telling.poised (telling : a.Telling heard ending fault admitted left) (arranged : a.Arranged none)
    (front : a.ready = .background :: rest) (barred : ∀ call ∈ admitted, a.cancelling call = false) :
    (a.ended rest heard admitted ending).Poised Phase.Clears :=
  (arranged.poised_roomy front telling.unheard barred).hearAll telling.silent

variable (telling : a.Telling heard ending fault admitted left) (mine : a.Arranged none) (yours : b.Arranged none)
  (front : a.ready = .background :: rest) (front' : b.ready = .background :: rest')
  (admits : Matches exact (a.roomy rest heard admitted) (b.roomy rest' heard admitted'))
  (telling' : b.Telling heard ending fault admitted' right) (same : left ~ right)
include telling mine yours front front' admits

private theorem Matches.ended (barred : ∀ call ∈ admitted, a.cancelling call = false)
    (barred' : ∀ call ∈ admitted', b.cancelling call = false) :
    Matches exact (a.ended rest heard admitted ending) (b.ended rest' heard admitted' ending) := by
  refine admits.hearAll (mine.poised_roomy front telling.unheard barred) (yours.poised_roomy front' telling.unheard barred')
    telling.silent fun call answer phase member => ?_
  obtain ⟨error, rfl⟩ := fails_ending telling.failing _ member
  by_cases clears : phase.Clears
  · exact .inl clears
  · exact .inr (Stage.outcome?_failed clears _)

include telling' same

/-- Whoever is given up has nothing to do but to say so, or is a cancellation that goes on to the end of the session. -/
private theorem Matches.struck_open (hear : Matches exact (a.informed rest heard) (b.informed rest' heard))
    (struck : a.Breaks .background) (opened : a.gate.shut = false)
    (barred : exact = true → (∀ call ∈ admitted, a.cancelling call = false) ∧ ∀ call ∈ admitted', b.cancelling call = false) :
    Matches exact (Activity.runBackground { a with ready := rest }) (Activity.runBackground { b with ready := rest' }) ∨
      ∃ ready, Shuffles exact (Activity.runBackground { a with ready := rest }) ready ∧
        Matches exact { Activity.runBackground { a with ready := rest } with ready }
          (Activity.runBackground { b with ready := rest' }) := by
  have stranded : (Activity.runBackground { a with ready := rest }).Stranded := struck.stranded opened
  have idle : .background ∉ (Activity.runBackground { a with ready := rest }).ready := by
    obtain ⟨worked, busy⟩ := mine.worked front
    exact fun member => (worked.hearAll busy _).2 (List.mem_filter.mpr ⟨member, rfl⟩)
  have tallies : Tallies exact (Activity.runBackground { a with ready := rest }) (Activity.runBackground { b with ready := rest' }) := by
    rw [telling.runBackground, telling'.runBackground]
    exact (admits.toTallies.hearAll telling.silent).givenUp (same.map Request.call) (foldl_givesUp ..) (foldl_givesUp ..)
  obtain ⟨informed, busy⟩ := mine.informed front heard
  cases exact with
  | true =>
    obtain ⟨bars, bars'⟩ := barred rfl
    obtain ⟨roomy, still⟩ := informed.hearAll busy (admitted.map .admitted)
    have warned := foldl_warned (a.ended rest heard admitted ending) (fails_given (left.map Request.call) fault.toError)
    have warned' := foldl_warned (b.ended rest' heard admitted' ending) (fails_given (right.map Request.call) fault.toError)
    rw [← telling.runBackground] at warned
    rw [← telling'.runBackground] at warned'
    have unobserved := unobserved_given (left.map Request.call) fault.toError
    exact warned.reordered warned' (Matches.ended telling mine yours front front' admits bars bars') tallies
      (telling.poised mine front bars) (telling'.poised yours front' bars') (roomy.hearAll still _).1 (mine.run front)
      (yours.run front') (iff_of_false unobserved (unobserved_given _ _)) (fun _ => unobserved) stranded idle
  | false =>
    obtain ⟨signals, observed, warned⟩ := telling.warned rest
    obtain ⟨others, observed', warned'⟩ := telling'.warned rest'
    exact warned.reordered warned' hear tallies (mine.poised_informed front telling.unheard)
      (yours.poised_informed front' telling.unheard) informed (mine.run front) (yours.run front')
      (observed.trans observed'.symm) (fun strict => by cases strict) stranded idle

end

/-- Both connections have their turn. What was read is told to both alike, and who is told that there is room waits on. When a
write fails, whoever is given up earlier here and later there has nothing to do but to say so, or else the session comes to its
end all the same. -/
theorem Matches.runBackground (matched : Matches exact a b) (mine : a.Arranged none) (yours : b.Arranged none)
    (front : a.ready = .background :: rest) (front' : b.ready = .background :: rest')
    (bars : exact = true → a.Bars .background ∧ b.Bars .background) (untangled : a.Untangled .background)
    (untangled' : b.Untangled .background) :
    Matches exact (Activity.runBackground { a with ready := rest }) (Activity.runBackground { b with ready := rest' }) ∨
      a.Breaks .background ∧ ∃ ready, Shuffles exact (Activity.runBackground { a with ready := rest }) ready ∧
        Matches exact { Activity.runBackground { a with ready := rest } with ready }
          (Activity.runBackground { b with ready := rest' }) := by
  obtain ⟨peers, heard, ending, fault, left, right, ⟨admitted, told, room⟩, ⟨admitted', told', room'⟩, ⟨same, kept⟩, unheard,
    unended, failing, calm⟩ := matched.peers.work mine.sound yours.sound mine.collected yours.collected
  have telling : a.Telling heard ending fault admitted left := ⟨told, unheard, unended, failing⟩
  have telling' : b.Telling heard ending fault admitted' right := ⟨told', unheard, unended, failing⟩
  have hear : Matches exact (a.informed rest heard) (b.informed rest' heard) :=
    ((matched.front front front' rfl).beside peers.collect matched.session).hearAll (mine.poised front) (yours.poised front')
      (fun call member => unheard call (mem_mapFault_admitted member)) fun _ _ _ _ => .inl trivial
  have admits : Matches exact (a.roomy rest heard admitted) (b.roomy rest' heard admitted') :=
    ((mine.matches_roomy front heard admitted).symm.trans hear).trans (yours.matches_roomy front' heard admitted')
  by_cases struck : a.Breaks .background
  · have writer : b.transport.writer = a.transport.writer := (congrArg Link.writer matched.peers.same).trans rfl
    have stopped : b.transport.work.writer = a.transport.work.writer := (congrArg Link.writer peers.same).trans rfl
    have struck' : b.Breaks .background := ⟨rfl, writer ▸ struck.2.1, stopped ▸ struck.2.2⟩
    by_cases shut : a.gate.shut = true
    · have shut' : b.gate.shut = true := matched.gate ▸ shut
      obtain ⟨enters, competes⟩ := not_or.mp fun either => untangled ⟨struck, shut, either⟩
      obtain ⟨enters', competes'⟩ := not_or.mp fun either => untangled' ⟨struck', shut', either⟩
      have barred := barred_of_not_enters enters telling.entered room
      have barred' := barred_of_not_enters enters' telling'.entered room'
      rw [telling.runBackground, telling'.runBackground]
      refine .inl ((Matches.ended telling mine yours front front' admits barred barred').givenUp
        (same.map Request.call) ?_ (telling.poised mine front barred) (telling'.poised yours front' barred') _)
      have also (call : Nat) (cancels : (a.ended rest heard admitted ending).cancelling call = true) : a.cancelling call = true := by
        obtain ⟨phase, sent, clears⟩ := cancelling_iff.mp cancels
        exact cancelling_iff.mpr ⟨phase, sent_of_informed (sent_of_foldl (sent_of_foldl sent)), clears⟩
      by_cases waits : ∃ request ∈ a.transport.waiting ++ b.transport.waiting, a.cancelling request.call = true
      · -- There is only one cancellation, and so only one order.
        obtain ⟨request, member, cancels⟩ := waits
        have only (call : Nat) (other : a.cancelling call = true) : call = request.call := by
          rcases List.mem_append.mp member with here | there
          · exact only_of_not_competes competes here cancels other
          · rw [← matched.cancelling] at cancels other
            exact only_of_not_competes competes' there cancels other
        exact eq_of_perm_only ((same.map Request.call).filter _) fun call listed =>
          only call (also call (List.mem_filter.mp listed).2)
      · refine kept _ fun call listed => Bool.eq_false_iff.mpr fun cancels => ?_
        obtain ⟨request, member, rfl⟩ := List.mem_map.mp listed
        exact waits ⟨request, member, also _ cancels⟩
    · have opened : a.gate.shut = false := Bool.eq_false_iff.mpr shut
      refine (Matches.struck_open telling mine yours front front' admits telling' same hear struck opened fun strict => ?_).imp_right
        fun shuffled => ⟨struck, shuffled⟩
      exact ⟨barred_of_not_enters (fun enters => (bars strict).1 ⟨struck, enters⟩) telling.entered room,
        barred_of_not_enters (fun enters => (bars strict).2 ⟨struck', enters⟩) telling'.entered room'⟩
  · have goesOn : a.transport.work.writer ≠ .stopped ∨ a.transport.writer = .stopped := by
      by_contra both
      obtain ⟨stopped, running⟩ := not_or.mp both
      exact struck ⟨rfl, running, not_not.mp stopped⟩
    obtain ⟨rfl, rfl⟩ := calm goesOn
    rw [telling.runBackground, telling'.runBackground, List.nil_perm.mp same]
    exact .inl admits

end

end Activity

end Subscriber
