import Subscriber.Proofs.Turns

/-! What calls do: each sees the session at its start, asks something of the transport and hears the answer. What is
asserted of a call's deeds, of what it does next and of the session, and kept by every operation of the session, holds
of the call in all histories. -/

namespace Subscriber

inductive Deed where
  /-- The call takes its first step; this is the session that it finds. -/
  | starts (session : Session)
  | asks (verb : Verb) (targets : List Bytes)
  | hears (session : Session) (answer : Except Error Unit)

namespace Session

/-- An assertion about a call that its own steps keep; `before` is what is known of the session as long as the call has
not taken its first step. -/
structure Path (operation : Operation) (before : Session → Prop)
    (holds : List Deed → Progress → Session → Prop) : Prop where
  start : ∀ session, before session →
    holds [.starts session] (session.start operation).1 (session.start operation).2
  resume : ∀ deeds phase session answer, holds deeds (.asking phase) session →
    holds (deeds ++ [.asks phase.verb phase.targets, .hears session answer]) (session.resume phase answer).1
      (session.resume phase answer).2

end Session

namespace Activity

section
variable {τ : Type} [Transport τ]

def submitDeeds (activity : Activity τ) (call : Nat) (phase : Phase) : List Deed :=
  .asks phase.verb phase.targets ::
    match Transport.submit activity.transport call phase.verb phase.targets with
    | (none, _) => []
    | (some answer, transport) =>
      .hears activity.session answer ::
        match _next : activity.session.resume phase answer with
        | (.finished _, _) => []
        | (.asking next, session) =>
          if activity.gate.shut then [] else submitDeeds { activity with transport, session } call next
termination_by phase.rank
decreasing_by exact Session.resume_rank _next

def proceedDeeds (activity : Activity τ) (call : Nat) : Progress → List Deed
  | .finished _ => []
  | .asking phase => if activity.gate.shut then [] else activity.submitDeeds call phase

def turnDeeds (activity : Activity τ) (call : Nat) : List Deed :=
  match activity.stage? call with
  | some (.starting operation) =>
    let (progress, session) := activity.session.start operation
    .starts activity.session :: { activity with session }.proceedDeeds call progress
  | some (.released phase) => activity.submitDeeds call phase
  | some (.answered phase answer) =>
    let (progress, session) := activity.session.resume phase answer
    .hears activity.session answer :: { activity with session }.proceedDeeds call progress
  | _ => []

def moveDeeds (call : Nat) (activity : Activity τ) : Move τ → List Deed
  | .step _ => []
  | .turn task =>
    if task ∈ activity.ready ∧ task = .call call then
      turnDeeds { activity with ready := activity.ready.erase task } call
    else []

/-- All that a call does in the course of the moves. -/
def deeds (call : Nat) : Activity τ → List (Move τ) → List Deed
  | _, [] => []
  | activity, move :: later => activity.moveDeeds call move ++ deeds call (activity.move move) later

theorem deeds_append (call : Nat) (a : Activity τ) (earlier later : List (Move τ)) :
    deeds call a (earlier ++ later) = deeds call a earlier ++ deeds call (a.moves earlier) later := by
  induction earlier generalizing a with
  | nil => rfl
  | cons move earlier ih =>
    rw [List.cons_append, deeds, deeds, ih, List.append_assoc]
    rfl

def ask (call : Nat) (transport : τ) : Deed → τ
  | .asks verb targets => (Transport.submit transport call verb targets).2
  | .starts _ | .hears .. => transport

/-- Nothing but what a call asks reaches the transport. -/
theorem submit_asks (a : Activity τ) (call : Nat) (phase : Phase) :
    (a.submit call phase).transport = (a.submitDeeds call phase).foldl (ask call) a.transport := by
  unfold submit submitDeeds
  rw [List.foldl_cons, ask]
  rcases Transport.submit a.transport call phase.verb phase.targets with ⟨_ | answer, transport⟩
  · dsimp only
    rw [wake_transport]
    rfl
  · dsimp only
    rw [List.foldl_cons, ask]
    rcases told : a.session.resume phase answer with ⟨result | next, session⟩
    · rfl
    · dsimp only
      by_cases shut : a.gate.shut = true
      · rw [if_pos shut, if_pos shut]
        rfl
      · rw [if_neg shut, if_neg shut]
        exact submit_asks _ call next
termination_by phase.rank
decreasing_by exact Session.resume_rank (by assumption)

section
variable (operation : Operation) (before : Session → Prop) (holds : List Deed → Progress → Session → Prop)

def Stands (deeds : List Deed) (session : Session) : Stage → Prop
  | .starting own => own = operation ∧ deeds = [] ∧ before session
  | .held phase | .released phase => holds deeds (.asking phase) session
  | .sent phase | .answered phase _ =>
    ∃ earlier, deeds = earlier ++ [.asks phase.verb phase.targets] ∧ holds earlier (.asking phase) session

/-- The assertion holds of a call, as far as it has come. -/
structure Bears (call : Nat) (deeds : List Deed) (activity : Activity τ) : Prop where
  going : ∀ stage, activity.stage? call = some stage →
    Stands operation before holds deeds activity.session stage ∧ ∀ result, (call, result) ∉ activity.finished
  ended : ∀ result, (call, result) ∈ activity.finished → holds deeds (.finished result) activity.session

end

section
variable {operation : Operation} {before : Session → Prop} {holds : List Deed → Progress → Session → Prop}
  {call : Nat} {done : List Deed} {a b : Activity τ}

omit [Transport τ] in
theorem Stands.drifts {session after : Session} {later : Session → Prop} {more : List Deed → Progress → Session → Prop}
    {old new : Stage} (stands : Stands operation before holds done session old) (drifts : old.Drifts new)
    (kept : before session → later after)
    (keeps : ∀ deeds phase, holds deeds (.asking phase) session → more deeds (.asking phase) after) :
    Stands operation later more done after new := by
  cases drifts with
  | stays =>
    cases old with
    | starting own => exact ⟨stands.1, stands.2.1, kept stands.2.2⟩
    | held phase => exact keeps _ _ stands
    | released phase => exact keeps _ _ stands
    | sent phase =>
      obtain ⟨earlier, split, asked⟩ := stands
      exact ⟨earlier, split, keeps _ _ asked⟩
    | answered phase answer =>
      obtain ⟨earlier, split, asked⟩ := stands
      exact ⟨earlier, split, keeps _ _ asked⟩
  | freed phase => exact keeps _ _ stands
  | answered phase answer =>
    obtain ⟨earlier, split, asked⟩ := stands
    exact ⟨earlier, split, keeps _ _ asked⟩

omit [Transport τ] in
theorem Bears.passes (bears : Bears operation before holds call done a) (passes : Passes call a b)
    (kept : before a.session → before b.session)
    (keeps : ∀ deeds progress, holds deeds progress a.session → holds deeds progress b.session) :
    Bears operation before holds call done b := by
  refine ⟨fun stage found => ?_, fun result member => keeps _ _ (bears.ended result ((passes.finished result).mp member))⟩
  have drifted := passes.stage
  rw [found] at drifted
  generalize known : a.stage? call = old at drifted
  cases drifted with
  | some drifts =>
    obtain ⟨stands, unfinished⟩ := bears.going _ known
    exact ⟨stands.drifts drifts kept fun deeds phase => keeps deeds (.asking phase),
      fun result member => unfinished result ((passes.finished result).mp member)⟩

omit [Transport τ] in
theorem Bears.become (bears : Bears operation before holds call done a)
    (unfinished : ∀ result, (call, result) ∉ a.finished) {later : Session → Prop}
    {more : List Deed → Progress → Session → Prop} (kept : before a.session → later a.session)
    (keeps : ∀ deeds phase, holds deeds (.asking phase) a.session → more deeds (.asking phase) a.session) :
    Bears operation later more call done a :=
  ⟨fun stage found => ⟨(bears.going stage found).1.drifts (.stays stage) kept keeps, unfinished⟩,
    fun result member => absurd member (unfinished result)⟩

omit [Transport τ] in
theorem Bears.at {stage : Stage} (found : a.stage? call = some stage)
    (unfinished : ∀ result, (call, result) ∉ a.finished) (stands : Stands operation before holds done a.session stage) :
    Bears operation before holds call done a :=
  ⟨fun _ same => ⟨Option.some.inj (found.symm.trans same) ▸ stands, unfinished⟩,
    fun result member => absurd member (unfinished result)⟩

omit [Transport τ] in
theorem bears_setStage {old : Stage} (found : a.stage? call = some old)
    (unfinished : ∀ result, (call, result) ∉ a.finished) (stage : Stage)
    (stands : Stands operation before holds done a.session stage) :
    Bears operation before holds call done (a.setStage call stage) :=
  .at (stage?_setStage_self found stage) unfinished stands

omit [Transport τ] in
theorem bears_finish (unfinished : ∀ result, (call, result) ∉ a.finished) (result : Except Error Unit)
    (ended : holds done (.finished result) a.session) : Bears operation before holds call done (a.finish call result) := by
  refine ⟨fun stage found => ?_, fun other member => ?_⟩
  · have gone : (a.finish call result).stage? call = none := stage?_forget_self a call
    cases gone.symm.trans found
  · rcases List.mem_append.mp member with old | new
    · exact absurd old (unfinished other)
    · cases List.mem_singleton.mp new
      exact ended

theorem submit_bears {done : List Deed} {a : Activity τ} (path : Session.Path operation before holds) {stage : Stage}
    (found : a.stage? call = some stage) (unfinished : ∀ result, (call, result) ∉ a.finished) (phase : Phase) (asked : holds done (.asking phase) a.session) :
    Bears operation before holds call (done ++ a.submitDeeds call phase) (a.submit call phase) := by
  unfold submit submitDeeds
  rcases Transport.submit a.transport call phase.verb phase.targets with ⟨_ | answer, transport⟩
  · have sent : Bears operation before holds call (done ++ [.asks phase.verb phase.targets])
        ({ a with transport }.setStage call (.sent phase)) :=
      bears_setStage (a := { a with transport }) found unfinished (.sent phase) ⟨done, rfl, asked⟩
    exact sent.passes ((Passes.refl call _).wake .background) (by rw [wake_session]; exact id)
      (by rw [wake_session]; exact fun _ _ => id)
  · have resumed := path.resume done phase a.session answer asked
    dsimp only
    rcases told : a.session.resume phase answer with ⟨result | next, session⟩
    · rw [told] at resumed
      exact bears_finish (a := { a with transport, session }) unfinished result resumed
    · rw [told] at resumed
      dsimp only
      by_cases shut : a.gate.shut = true
      · rw [if_pos shut, if_pos shut]
        exact bears_setStage
          (a := { a with transport, session, gate := { a.gate with calls := a.gate.calls ++ [call] } })
          found unfinished (.held next) resumed
      · rw [if_neg shut, if_neg shut]
        have later := submit_bears (a := { a with transport, session }) path found unfinished next resumed
        rw [List.append_assoc] at later
        exact later
termination_by phase.rank
decreasing_by exact Session.resume_rank (by assumption)

private theorem proceed_bears (path : Session.Path operation before holds) {stage : Stage} (found : a.stage? call = some stage)
    (unfinished : ∀ result, (call, result) ∉ a.finished) (progress : Progress) (next : holds done progress a.session) :
    Bears operation before holds call (done ++ a.proceedDeeds call progress) (a.proceed call progress) := by
  cases progress with
  | finished result =>
    rw [proceedDeeds, List.append_nil]
    exact bears_finish unfinished result next
  | asking phase =>
    unfold proceed proceedDeeds
    dsimp only
    by_cases shut : a.gate.shut = true
    · rw [if_pos shut, if_pos shut, List.append_nil]
      exact bears_setStage (a := { a with gate := { a.gate with calls := a.gate.calls ++ [call] } }) found unfinished
        (.held phase) next
    · rw [if_neg shut, if_neg shut]
      exact submit_bears path found unfinished phase next

omit [Transport τ] in
theorem Bears.adjusted (bears : Bears operation before holds call done a) [Transport τ] :
    Bears operation before holds call done a.adjustPump :=
  bears.passes (adjustPump_passes a) (by rw [adjustPump_session]; exact id)
    (by rw [adjustPump_session]; exact fun _ _ => id)

/-- A call's own turn takes the assertion along its path. -/
theorem runCall_bears (path : Session.Path operation before holds) (bears : Bears operation before holds call done a) :
    Bears operation before holds call (done ++ a.turnDeeds call) (a.runCall call) := by
  unfold runCall turnDeeds
  cases found : a.stage? call with
  | none =>
    rw [List.append_nil]
    exact bears
  | some stage =>
    obtain ⟨stands, unfinished⟩ := bears.going stage found
    cases stage with
    | starting own =>
      obtain ⟨rfl, rfl, fresh⟩ := stands
      have started := path.start a.session fresh
      exact (proceed_bears (a := { a with session := (a.session.start own).2 }) path found unfinished _ started).adjusted
    | released phase => exact (submit_bears path found unfinished phase stands).adjusted
    | answered phase answer =>
      obtain ⟨earlier, rfl, asked⟩ := stands
      have resumed := path.resume earlier phase a.session answer asked
      have proceeded :=
        proceed_bears (a := { a with session := (a.session.resume phase answer).2 }) path found unfinished _ resumed
      rw [List.append_assoc] at proceeded ⊢
      exact proceeded.adjusted
    | held phase =>
      rw [List.append_nil]
      exact bears
    | sent phase =>
      rw [List.append_nil]
      exact bears

theorem moveDeeds_other {move : Move τ} (other : ¬ move.Concerns call) (a : Activity τ) : a.moveDeeds call move = [] := by
  cases move with
  | step step => rfl
  | turn task => exact if_neg fun own => other own.2

private theorem move_bears (path : Session.Path operation before holds) (fresh : Session.Lasting before)
    (lasting : ∀ deeds progress, Session.Lasting (holds deeds progress))
    (bears : Bears operation before holds call done a) {move : Move τ} (known : move.call? ≠ some call) :
    Bears operation before holds call (done ++ a.moveDeeds call move) (a.move move) := by
  by_cases concerned : move.Concerns call
  · cases move with
    | step step =>
      rw [moveDeeds, List.append_nil]
      cases step with
      | call id operation => exact absurd (congrArg some concerned) known
      | abandon id =>
        obtain rfl : id = call := concerned
        change Bears operation before holds id done (a.abandon id).2
        unfold abandon
        split
        · exact bears
        · refine ⟨fun stage found => ?_, bears.ended⟩
          cases (stage?_forget_self a id).symm.trans found
      | _ => exact concerned.elim
    | turn task =>
      obtain rfl : task = .call call := concerned
      change Bears operation before holds call
        (done ++ if .call call ∈ a.ready ∧ Task.call call = .call call then
          turnDeeds { a with ready := a.ready.erase (.call call) } call else [])
        (if .call call ∈ a.ready then { a with ready := a.ready.erase (.call call) }.run (.call call) else a)
      by_cases wants : .call call ∈ a.ready
      · rw [if_pos wants, if_pos ⟨wants, rfl⟩]
        exact runCall_bears (a := { a with ready := a.ready.erase (.call call) }) path ⟨bears.going, bears.ended⟩
      · rw [if_neg wants, if_neg fun both => wants both.1, List.append_nil]
        exact bears
  · rw [moveDeeds_other concerned, List.append_nil]
    exact bears.passes (move_passes a move concerned) (move_lasting fresh a move)
      fun deeds progress => move_lasting (lasting deeds progress) a move

theorem moves_bear (path : Session.Path operation before holds) (fresh : Session.Lasting before)
    (lasting : ∀ deeds progress, Session.Lasting (holds deeds progress)) (list : List (Move τ))
    (known : ∀ move ∈ list, move.call? ≠ some call) (bears : Bears operation before holds call done a) :
    Bears operation before holds call (done ++ deeds call a list) (a.moves list) := by
  induction list generalizing a done with
  | nil =>
    rw [deeds, List.append_nil]
    exact bears
  | cons move list ih =>
    have moved := move_bears path fresh lasting bears (known move List.mem_cons_self)
    rw [deeds, ← List.append_assoc]
    exact ih (fun other member => known other (List.mem_cons_of_mem _ member)) moved

end

section
variable {call : Nat} {a b : Activity τ}

/-- A call that is not under way, because it has not been started or is over, has no part in anything. -/
theorem move_unknown (unknown : a.stage? call = none) {move : Move τ} (other : move.call? ≠ some call) :
    (a.move move).stage? call = none ∧ (∀ result, (call, result) ∈ (a.move move).finished ↔ (call, result) ∈ a.finished) ∧
      a.moveDeeds call move = [] := by
  by_cases concerned : move.Concerns call
  · cases move with
    | step step =>
      cases step with
      | call id operation => exact absurd (congrArg some concerned) other
      | abandon id =>
        obtain rfl : id = call := concerned
        have still : a.move (.step (.abandon id)) = a := by
          change (a.abandon id).2 = a
          unfold abandon
          rw [unknown]
        rw [still]
        exact ⟨unknown, fun _ => Iff.rfl, rfl⟩
      | _ => exact concerned.elim
    | turn task =>
      obtain rfl : task = .call call := concerned
      have idle : Activity.stage? { a with ready := a.ready.erase (.call call) } call = none := unknown
      by_cases wants : .call call ∈ a.ready
      · have still : a.move (.turn (.call call)) = { a with ready := a.ready.erase (.call call) } := by
          refine (if_pos wants).trans ?_
          change runCall { a with ready := a.ready.erase (.call call) } call = _
          unfold runCall
          rw [idle]
        have nothing : a.moveDeeds call (.turn (.call call)) = [] := by
          refine (if_pos ⟨wants, rfl⟩).trans ?_
          unfold turnDeeds
          rw [idle]
        rw [still, nothing]
        exact ⟨unknown, fun _ => Iff.rfl, rfl⟩
      · have still : a.move (.turn (.call call)) = a := if_neg wants
        rw [still]
        exact ⟨unknown, fun _ => Iff.rfl, if_neg fun both => wants both.1⟩
  · have passes := move_passes a move concerned
    refine ⟨?_, passes.finished, moveDeeds_other concerned a⟩
    have drifted := passes.stage
    rw [unknown] at drifted
    generalize (a.move move).stage? call = stage at drifted ⊢
    cases drifted with
    | none => rfl

theorem moves_unknown (unknown : a.stage? call = none) (list : List (Move τ)) (other : ∀ move ∈ list, move.call? ≠ some call) :
    (a.moves list).stage? call = none ∧ (∀ result, (call, result) ∈ (a.moves list).finished ↔ (call, result) ∈ a.finished) ∧
      deeds call a list = [] := by
  induction list generalizing a with
  | nil => exact ⟨unknown, fun _ => Iff.rfl, rfl⟩
  | cons move list ih =>
    obtain ⟨still, same, idle⟩ := move_unknown unknown (other move List.mem_cons_self)
    obtain ⟨later, kept, nothing⟩ := ih still fun next member => other next (List.mem_cons_of_mem _ member)
    refine ⟨later, fun result => (kept result).trans (same result), ?_⟩
    rw [deeds, idle, nothing]
    rfl

theorem start_stage (unknown : a.stage? call = none) (operation : Operation) :
    (a.move (.step (.call call operation))).stage? call = some (.starting operation) := by
  change (Activity.start a call operation).stage? call = _
  have alone : a.calls.lookup call = none := unknown
  unfold start
  rw [stage?_wake, stage?, List.lookup_append, alone, List.lookup_cons, beq_self_eq_true]
  rfl

private theorem started_bears {operation : Operation} {before : Session → Prop} {holds : List Deed → Progress → Session → Prop}
    (unknown : a.stage? call = none) (unfinished : ∀ result, (call, result) ∉ a.finished) (fresh : before a.session) :
    Bears operation before holds call [] (a.move (.step (.call call operation))) := by
  refine .at (start_stage unknown operation) (fun result => ?_) ⟨rfl, rfl, ?_⟩
  · change (call, result) ∉ (Activity.start a call operation).finished
    unfold start
    rw [wake_finished]
    exact unfinished result
  · change before (Activity.start a call operation).session
    unfold start
    rw [wake_session]
    exact fresh

end

theorem Numbered.split {list : List (Move τ)} (numbered : Numbered list) {call : Nat} {operation : Operation}
    (started : .step (.call call operation) ∈ list) :
    ∃ earlier later, list = earlier ++ .step (.call call operation) :: later ∧
      (∀ move ∈ earlier, move.call? ≠ some call) ∧ ∀ move ∈ later, move.call? ≠ some call := by
  obtain ⟨earlier, later, rfl⟩ := List.append_of_mem started
  have own : Move.call? (.step (.call call operation) : Move τ) = some call := rfl
  rw [Numbered, List.filterMap_append, List.filterMap_cons_some own] at numbered
  have apart := List.nodup_middle.mp numbered
  obtain ⟨once, -⟩ := List.nodup_cons.mp apart
  refine ⟨earlier, later, rfl, fun move member same => once ?_, fun move member same => once ?_⟩
  · exact List.mem_append_left _ (List.mem_filterMap.mpr ⟨move, member, same⟩)
  · exact List.mem_append_right _ (List.mem_filterMap.mpr ⟨move, member, same⟩)

theorem moves_unheard (transport : τ) {list : List (Move τ)} {call : Nat} (other : ∀ move ∈ list, move.call? ≠ some call) :
    (moves { transport } list).stage? call = none ∧ (∀ result, (call, result) ∉ (moves { transport } list).finished) ∧
      deeds call { transport } list = [] := by
  obtain ⟨unknown, same, nothing⟩ := moves_unknown (a := { transport }) rfl list other
  exact ⟨unknown, fun result member => List.not_mem_nil ((same result).mp member), nothing⟩

section
variable {operation : Operation} {before : Session → Prop} {holds : List Deed → Progress → Session → Prop}

/-- What a call's own steps keep, and all operations of the session, holds of it throughout, if what has to be known of
the session holds when the call is started. -/
theorem path_holds_from (path : Session.Path operation before holds) (fresh : Session.Lasting before)
    (lasting : ∀ deeds progress, Session.Lasting (holds deeds progress)) (transport : τ) {call : Nat}
    {earlier later : List (Move τ)} (previous : ∀ move ∈ earlier, move.call? ≠ some call)
    (following : ∀ move ∈ later, move.call? ≠ some call) (known : before (moves { transport } earlier).session) :
    Bears operation before holds call (deeds call { transport } (earlier ++ .step (.call call operation) :: later))
      (moves { transport } (earlier ++ .step (.call call operation) :: later)) := by
  obtain ⟨unknown, unfinished, nothing⟩ := moves_unheard transport previous
  have begun : Bears operation before holds call [] ((moves { transport } earlier).move (.step (.call call operation))) :=
    started_bears unknown unfinished known
  have borne := moves_bear path fresh lasting later following begun
  rw [deeds_append, nothing, moves_append]
  exact borne

theorem path_holds (path : Session.Path operation before holds) (fresh : Session.Lasting before)
    (lasting : ∀ deeds progress, Session.Lasting (holds deeds progress)) (transport : τ) (initial : before {})
    {list : List (Move τ)} (numbered : Numbered list) {call : Nat} (started : .step (.call call operation) ∈ list) :
    Bears operation before holds call (deeds call { transport } list) (moves { transport } list) := by
  obtain ⟨earlier, later, rfl, previous, following⟩ := numbered.split started
  exact path_holds_from path fresh lasting transport previous following (moves_lasting fresh { transport } earlier initial)

end

/-- Only a turn of its own finishes a call. -/
theorem finished_by_turn {a : Activity τ} {move : Move τ} {call : Nat} {result : Except Error Unit}
    (unfinished : (call, result) ∉ a.finished) (finished : (call, result) ∈ (a.move move).finished) :
    .call call ∈ a.ready ∧ move = .turn (.call call) := by
  by_cases concerned : move.Concerns call
  · cases move with
    | step step =>
      cases step with
      | call id operation =>
        change (call, result) ∈ (Activity.start a id operation).finished at finished
        unfold start at finished
        rw [wake_finished] at finished
        exact absurd finished unfinished
      | abandon id =>
        change (call, result) ∈ (a.abandon id).2.finished at finished
        unfold abandon at finished
        split at finished
        · exact absurd finished unfinished
        · exact absurd finished unfinished
      | _ => exact concerned.elim
    | turn task =>
      obtain rfl : task = .call call := concerned
      refine ⟨?_, rfl⟩
      by_contra unwanted
      have still : a.move (.turn (.call call)) = a := if_neg unwanted
      exact unfinished (still ▸ finished)
  · exact absurd (((move_passes a move concerned).finished result).mp finished) unfinished

end

end Activity

end Subscriber
