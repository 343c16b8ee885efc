import Subscriber.Proofs.Matching

/-! Calls that are given up when a write fails. Each is going to say so in its next turn, and the order makes no difference to
anybody else; a cancellation goes on, and so the order of cancellations has to be the same. -/

namespace Subscriber

def Stage.givenUp (error : Error) : Option Stage → Option Stage
  | some (.sent phase) => some (.answered phase (.error error))
  | stage => stage

private theorem Stage.givenUp_unsent {stage : Option Stage} (unsent : ∀ phase, stage ≠ some (.sent phase)) (error : Error) :
    givenUp error stage = stage := by
  rcases stage with _ | stage
  · rfl
  · cases stage with
    | sent phase => exact absurd rfl (unsent phase)
    | _ => rfl

private theorem Stage.givenUp_sent (error : Error) (stage : Option Stage) (phase : Phase) :
    givenUp error stage ≠ some (.sent phase) := by
  rcases stage with _ | stage
  · exact nofun
  · cases stage <;> exact nofun

private theorem Stage.givenUp_twice (error : Error) (stage : Option Stage) :
    givenUp error (givenUp error stage) = givenUp error stage :=
  givenUp_unsent (givenUp_sent error stage) error

def Stage.cancels : Stage → Bool
  | .sent (.clearingChannels _ _) | .sent (.clearingPatterns _ _ _) => true
  | _ => false

private theorem Stage.cancels_iff {stage : Stage} : stage.cancels = true ↔ ∃ phase, stage = .sent phase ∧ phase.Clears := by
  cases stage with
  | sent phase => cases phase <;> simp [cancels, Phase.Clears]
  | _ => simp [cancels]

private theorem Stage.outcome?_clearing {phase : Phase} (clears : phase.Clears) (error : Error) :
    (Stage.answered phase (.error error)).outcome? = none := by
  cases phase with
  | clearingChannels targets first => rfl
  | clearingPatterns targets first channels => rfl
  | _ => exact clears.elim

namespace Activity
open scoped List

def enter (agenda : List Task) (call : Nat) : List Task :=
  if .call call ∈ agenda then agenda else agenda ++ [.call call]

private theorem mem_enter {agenda : List Task} {task : Task} {call : Nat} :
    task ∈ enter agenda call ↔ task ∈ agenda ∨ task = .call call := by
  unfold enter
  split
  next waits => exact ⟨.inl, fun either => either.elim id fun own => own ▸ waits⟩
  · rw [List.mem_append, List.mem_singleton]

private theorem enter_known {agenda : List Task} {call : Nat} (known : .call call ∈ agenda) {chosen others : Nat → Bool}
    (same : ∀ other, other ≠ call → others other = chosen other) (calls : List Nat) :
    (calls.filter others).foldl enter agenda = (calls.filter chosen).foldl enter agenda := by
  induction calls generalizing agenda with
  | nil => rfl
  | cons first calls ih =>
    rw [List.filter_cons, List.filter_cons]
    by_cases own : first = call
    · have stays (among : Nat → Bool) :
          (if among first then first :: calls.filter among else calls.filter among).foldl enter agenda =
            (calls.filter among).foldl enter agenda := by
        split
        · rw [List.foldl_cons, enter, if_pos (own ▸ known)]
        · rfl
      rw [stays, stays]
      exact ih known
    · rw [same first own]
      split
      · exact ih (mem_enter.mpr (.inl known))
      · exact ih known

def cancelling (activity : Activity Link) (call : Nat) : Bool := (activity.stage? call).any Stage.cancels

section
variable {exact : Bool} {a b c : Activity Link} {call : Nat} {phase : Phase} {error : Error}

theorem cancelling_iff : a.cancelling call = true ↔ ∃ phase, a.stage? call = some (.sent phase) ∧ phase.Clears := by
  unfold cancelling
  rw [Option.any_eq_true]
  constructor
  · rintro ⟨stage, found, cancels⟩
    obtain ⟨phase, rfl, clears⟩ := Stage.cancels_iff.mp cancels
    exact ⟨phase, found, clears⟩
  · rintro ⟨phase, found, clears⟩
    exact ⟨_, found, Stage.cancels_iff.mpr ⟨phase, rfl, clears⟩⟩

/-- Some calls have been given up. -/
structure GivesUp (error : Error) (calls : List Nat) (before after : Activity Link) : Prop where
  transport : after.transport = before.transport
  session : after.session = before.session
  gate : after.gate = before.gate
  pump : after.pump = before.pump
  finished : after.finished = before.finished
  stages : ∀ call, after.stage? call =
    if call ∈ calls then Stage.givenUp error (before.stage? call) else before.stage? call

/-- Only a cancellation comes to want a turn in which something is done. -/
private theorem agenda_givenUp (poised : a.Poised Phase.Clears) (found : a.stage? call = some (.sent phase)) :
    ((a.setStage call (.answered phase (.error error))).wake (.call call)).agenda =
      ([call].filter a.cancelling).foldl enter a.agenda := by
  let answered := a.setStage call (.answered phase (.error error))
  have stages (other : Nat) : answered.stage? other =
      if other = call then some (.answered phase (.error error)) else a.stage? other :=
    stage?_setStage_known (found ▸ rfl) _ other
  have engaged := (engaged_placed stages call).trans (if_pos rfl)
  rw [agenda_wake]
  change (if answered.matters (.call call) && !answered.agenda.contains (.call call) then
    answered.agenda ++ [.call call] else answered.agenda) = _
  by_cases clears : phase.Clears
  · have absent : .call call ∉ a.agenda := fun listed => poised call phase found clears (List.mem_of_mem_filter listed)
    have agenda : answered.agenda = a.agenda := agenda_placed stages rfl (.inl (poised call phase found clears))
    have wants : answered.matters (.call call) = true := by
      rw [matters_call, engaged, Option.filter_some_pos (by rw [Stage.outcome?_clearing clears]; rfl)]
      rfl
    rw [List.filter_cons_of_pos (cancelling_iff.mpr ⟨phase, found, clears⟩), List.filter_nil, List.foldl_cons, List.foldl_nil,
      wants, agenda, enter, if_neg absent, if_pos (by simpa using absent)]
  · obtain ⟨result, known⟩ := Option.ne_none_iff_exists'.mp (Stage.outcome?_failed clears error)
    have plain : ¬ a.cancelling call = true := fun cancels => by
      obtain ⟨other, sent, clearing⟩ := cancelling_iff.mp cancels
      cases found.symm.trans sent
      exact clears clearing
    have idle : answered.matters (.call call) = false := by
      rw [matters_call, engaged, Option.filter_some_neg (by simp [known])]
      rfl
    have before : a.matters (.call call) = false := by
      rw [matters_call, engaged_some.mpr ⟨found, rfl⟩]
      rfl
    rw [List.filter_cons_of_neg plain, List.filter_nil, List.foldl_nil, idle, Bool.false_and, if_neg Bool.false_ne_true]
    exact agenda_placed stages rfl (.inr (idle.trans before.symm))

private theorem hear_givesUp (a : Activity Link) (call : Nat) (error : Error) :
    GivesUp error [call] a (a.hear (.answer call (.error error))) := by
  unfold Activity.hear
  dsimp only
  split
  next phase found =>
    refine ⟨wake_transport .., wake_session .., wake_gate .., wake_pump .., wake_finished .., fun other => ?_⟩
    have placed := stage?_setStage_known (a := a) (Option.isSome_of_eq_some found) (.answered phase (.error error)) other
    simp only [stage?_wake, placed, List.mem_singleton]
    split
    next own =>
      rw [own, found]
      rfl
    · rfl
  next unsent =>
    refine ⟨rfl, rfl, rfl, rfl, rfl, fun other => ?_⟩
    simp only [List.mem_singleton]
    split
    next own =>
      rw [own]
      exact (Stage.givenUp_unsent unsent error).symm
    · rfl

private theorem GivesUp.cons {calls : List Nat} (first : GivesUp error [call] a b) (later : GivesUp error calls b c) :
    GivesUp error (call :: calls) a c := by
  refine ⟨later.transport.trans first.transport, later.session.trans first.session, later.gate.trans first.gate,
    later.pump.trans first.pump, later.finished.trans first.finished, fun other => ?_⟩
  rw [later.stages, first.stages]
  simp only [List.mem_cons, List.not_mem_nil, or_false]
  by_cases own : other = call <;> by_cases among : other ∈ calls <;> simp [own, among, Stage.givenUp_twice]

theorem foldl_givesUp (a : Activity Link) (calls : List Nat) (error : Error) :
    GivesUp error calls a ((calls.map fun call => Signal.answer call (.error error)).foldl Activity.hear a) := by
  induction calls generalizing a with
  | nil => exact ⟨rfl, rfl, rfl, rfl, rfl, fun _ => rfl⟩
  | cons call calls ih => exact (hear_givesUp a call error).cons (ih _)

private theorem agenda_hear (poised : a.Poised Phase.Clears) (call : Nat) (error : Error) :
    (a.hear (.answer call (.error error))).agenda = ([call].filter a.cancelling).foldl enter a.agenda := by
  unfold Activity.hear
  dsimp only
  split
  next phase found => exact agenda_givenUp poised found
  next unsent =>
    have plain : ¬ a.cancelling call = true := fun cancels => by
      obtain ⟨phase, sent, -⟩ := cancelling_iff.mp cancels
      exact unsent phase sent
    rw [List.filter_cons_of_neg plain]
    rfl

/-- Nobody goes on because it is given up but cancellations, in the order in which they are told. -/
private theorem agenda_foldl (poised : a.Poised Phase.Clears) (calls : List Nat) :
    ((calls.map fun call => Signal.answer call (.error error)).foldl Activity.hear a).agenda =
      (calls.filter a.cancelling).foldl enter a.agenda := by
  induction calls generalizing a with
  | nil => rfl
  | cons call calls ih =>
    let b := a.hear (.answer call (.error error))
    have first := hear_givesUp a call error
    have others (other : Nat) (different : other ≠ call) : b.cancelling other = a.cancelling other := by
      unfold cancelling
      rw [first.stages, if_neg fun member => different (List.mem_singleton.mp member)]
    refine (ih (poised.hear fun _ other => by cases other)).trans ?_
    rw [agenda_hear poised]
    by_cases cancels : a.cancelling call = true
    · rw [List.filter_cons_of_pos cancels, List.filter_cons_of_pos cancels, List.filter_nil]
      exact enter_known (mem_enter.mpr (.inr rfl)) others calls
    · have gone : ¬ b.cancelling call = true := fun still => by
        obtain ⟨phase, sent, -⟩ := cancelling_iff.mp still
        rw [first.stages, if_pos (List.mem_singleton.mpr rfl)] at sent
        exact Stage.givenUp_sent error _ phase sent
      have same : b.cancelling = a.cancelling := funext fun other => by
        by_cases own : other = call
        · rw [own, Bool.eq_false_iff.mpr gone, Bool.eq_false_iff.mpr cancels]
        · exact others other own
      rw [List.filter_cons_of_neg cancels, List.filter_cons_of_neg cancels]
      exact congrArg (fun among => (calls.filter among).foldl enter a.agenda) same

theorem Matches.cancelling (matched : Matches exact a b) : b.cancelling = a.cancelling := by
  funext call
  rw [Bool.eq_iff_iff, cancelling_iff, cancelling_iff]
  exact ⟨fun ⟨phase, found, clears⟩ => ⟨phase, matched.symm.sent found, clears⟩,
    fun ⟨phase, found, clears⟩ => ⟨phase, matched.sent found, clears⟩⟩

/-- Calls may be given up in any order. -/
theorem Tallies.givenUp {a' b' : Activity Link} (tallies : Tallies exact a b) {calls calls' : List Nat} (same : calls ~ calls')
    (mine : GivesUp error calls a a') (yours : GivesUp error calls' b b') : Tallies exact a' b' := by
  have told (call : Nat) : a'.told call = a.told call ∧ b'.told call = b.told call := by
    unfold Activity.told
    rw [mine.finished, yours.finished]
    exact ⟨rfl, rfl⟩
  have either (call : Nat) : b'.engaged call = a'.engaged call ∧ b'.results call = a'.results call := by
    unfold Activity.engaged Activity.results
    rw [mine.stages, yours.stages, (told call).1, (told call).2]
    have listed : call ∈ calls' ↔ call ∈ calls := same.symm.mem_iff
    by_cases among : call ∈ calls
    · rw [if_pos among, if_pos (listed.mpr among)]
      by_cases waits : ∃ phase, a.stage? call = some (.sent phase)
      · obtain ⟨phase, found⟩ := waits
        have own := tallies.told (engaged_some.mpr ⟨found, rfl⟩)
        rw [found, tallies.sent found, own]
        exact ⟨rfl, rfl⟩
      · have unsent (phase : Phase) : a.stage? call ≠ some (.sent phase) := fun found => waits ⟨phase, found⟩
        rw [Stage.givenUp_unsent unsent, Stage.givenUp_unsent fun phase found => unsent phase (tallies.symm.sent found)]
        exact ⟨tallies.engaged call, tallies.results call⟩
    · rw [if_neg among, if_neg fun member => among (listed.mp member)]
      exact ⟨tallies.engaged call, tallies.results call⟩
  refine ⟨?_, ?_, ?_, ?_, fun call => (either call).1, fun call => (either call).2⟩
  · rw [mine.transport, yours.transport]
    exact tallies.peers
  · rw [mine.session, yours.session]
    exact tallies.session
  · rw [mine.gate, yours.gate, tallies.gate]
  · rw [mine.pump, yours.pump, tallies.pump]

/-- The order makes a difference to nobody, as long as it is the same for cancellations. -/
theorem Matches.givenUp (matched : Matches exact a b) {calls calls' : List Nat} (same : calls ~ calls')
    (level : calls.filter a.cancelling = calls'.filter a.cancelling) (mine : a.Poised Phase.Clears) (yours : b.Poised Phase.Clears)
    (error : Error) : Matches exact ((calls.map fun call => Signal.answer call (.error error)).foldl Activity.hear a)
      ((calls'.map fun call => Signal.answer call (.error error)).foldl Activity.hear b) := by
  refine ⟨matched.toTallies.givenUp same (foldl_givesUp a calls error) (foldl_givesUp b calls' error), ?_⟩
  rw [agenda_foldl mine, agenda_foldl yours, matched.agenda, matched.cancelling, level]

end

end Activity

end Subscriber
