import Subscriber.Proofs.LastTurns

/-! Turns in another order. Once a cancellation is going to bring the session to its end, those that are lost may be had in any:
the session comes to rest alike. -/

namespace Subscriber

private theorem Stage.wants_of_verdict {stage : Stage} {result : Except Error Unit} (verdict : stage.verdict? = some result) :
    stage.wants = true := by
  cases stage with
  | answered phase answer => rfl
  | _ => cases verdict

namespace Activity
open scoped List

section
variable {exact : Bool} {a b : Activity Link} {task : Task} {rest sooner later : List Task}

/-- A cancellation is going to bring the session to its end that has its turn `sooner`. Until then, if all has to be `exact`, the
pump has none. -/
def Dooms (exact : Bool) (activity : Activity Link) (sooner : List Task) : Prop :=
  (exact = true → .pump ∉ sooner) ∧ ∃ call phase error, .call call ∈ sooner ∧
    activity.stage? call = some (.answered phase (.error error)) ∧ phase.Clears

/-- Whatever else has a turn, the cancellation that is to have one still is. -/
private theorem Dooms.turn (dooms : Dooms exact a sooner) {keeps : Task → Bool}
    (others : ∀ call, .call call ∈ sooner → keeps (.call call) = true ∧ b.stage? call = a.stage? call) :
    Dooms exact b (sooner.filter keeps) := by
  obtain ⟨spares, call, phase, error, listed, found, clears⟩ := dooms
  obtain ⟨kept, same⟩ := others call listed
  exact ⟨fun strict member => spares strict (List.mem_of_mem_filter member), call, phase, error,
    List.mem_filter.mpr ⟨listed, kept⟩, same.trans found, clears⟩

private theorem Dooms.past (dooms : Dooms exact a (task :: sooner))
    (other : ∀ call phase error, task = .call call → a.stage? call = some (.answered phase (.error error)) → ¬ phase.Clears) :
    Dooms exact a sooner := by
  obtain ⟨spares, call, phase, error, listed, found, clears⟩ := dooms
  have different : task ≠ .call call := fun same => other call phase error same found clears
  exact ⟨fun strict member => spares strict (List.mem_cons_of_mem _ member), call, phase, error,
    (List.mem_cons.mp listed).resolve_left different.symm, found, clears⟩

private theorem Dooms.perm (dooms : Dooms exact a sooner) {others : List Task} (same : sooner ~ others) : Dooms exact a others := by
  obtain ⟨spares, call, phase, error, listed, found, clears⟩ := dooms
  exact ⟨fun strict member => spares strict (same.mem_iff.mpr member), call, phase, error, same.mem_iff.mp listed, found, clears⟩

private theorem Dooms.front (dooms : Dooms exact a sooner) (split : task :: rest = sooner ++ later) :
    ∃ others, sooner = task :: others ∧ rest = others ++ later := by
  obtain ⟨-, call, -, -, listed, -⟩ := dooms
  cases sooner with
  | nil => cases listed
  | cons first others =>
    obtain ⟨rfl, same⟩ := List.cons.inj split
    exact ⟨others, rfl, same⟩

private theorem pump_released (crewed : a.Crewed) (torn : a.session.torn = a.session) : a.pump = none := by
  have aligned := crewed.aligned
  rw [← torn] at aligned
  exact Option.map_eq_none_iff.mp aligned

/-- A turn leads on to the same end, and only a cancellation brings the session there. -/
structure Declines (exact : Bool) (before : Activity Link) (task : Task) (after : Activity Link) : Prop where
  converges : Converges exact before after
  torn : before.session.torn = before.session → after.session.torn = after.session
  ends : after.session.torn = after.session ∨ ∀ call phase error, task = .call call →
    before.stage? call = some (.answered phase (.error error)) → ¬ phase.Clears

private theorem declines_idle (a : Activity Link) (rest : List Task)
    (other : ∀ call phase error, task = .call call → a.stage? call = some (.answered phase (.error error)) → ¬ phase.Clears) :
    Declines exact a task { a with ready := rest } :=
  ⟨⟨rfl, rfl, .refl _, fun _ => rfl, fun _ => rfl⟩, id, .inr other⟩

private theorem Stranded.turn (stranded : a.Stranded) (crewed : a.Crewed) (arranged : a.Arranged none)
    (front : a.ready = task :: rest) (loses : a.Loses task) (kept : exact = true → task = .pump → a.pump = none) :
    Declines exact a task (Activity.run { a with ready := rest } task) := by
  cases task with
  | background => exact loses.elim
  | pump =>
    by_cases piped : a.pump = none
    · have still : Activity.run { a with ready := rest } .pump = { a with ready := rest } := by
        change runPump { a with ready := rest } pumpTurn = _
        simp only [pumpTurn, runPump, piped]
      rw [still]
      exact declines_idle a rest fun call phase error same => by cases same
    · have free : exact = false := Bool.eq_false_iff.mpr fun strict => piped (kept strict rfl)
      subst free
      obtain ⟨after, keeps, again, converges, leaves, -⟩ := runPump_converges crewed.aligned pumpTurn
      have ran : Activity.run { a with ready := rest } .pump = _ := leaves rest
      have left : Converges false a { after with ready := rest.filter keeps } := { converges with }
      refine ⟨?_, fun torn => absurd (pump_released crewed torn) piped, .inr fun call phase error same => by cases same⟩
      rw [ran]
      split
      · exact left.wake .pump
      · exact left
  | call call =>
    have known : stage? { a with ready := rest } call = a.stage? call := rfl
    have idle (unwanted : ∀ stage, a.stage? call = some stage → stage.wants = false) :
        Declines exact a (.call call) (Activity.run { a with ready := rest } (.call call)) := by
      have still : Activity.run { a with ready := rest } (.call call) = { a with ready := rest } := by
        change Activity.runCall { a with ready := rest } call = _
        rw [Activity.runCall, known]
        split
        next found => cases unwanted _ found
        next found => cases unwanted _ found
        next found => cases unwanted _ found
        · rfl
      rw [still]
      refine declines_idle a rest fun other phase error same found => ?_
      cases same
      cases unwanted _ found
    cases found : a.stage? call with
    | none => exact idle fun stage same => by cases found.symm.trans same
    | some stage =>
      by_cases wants : stage.wants = true
      · obtain ⟨phase, error, rfl⟩ := loses stage found wants
        obtain ⟨converges, torn⟩ := stranded.runFailed_converges crewed arranged front found
        refine ⟨converges, fun ended => torn (.inr ended), ?_⟩
        by_cases clears : phase.Clears
        · exact .inl (torn (.inl clears))
        · refine .inr fun other _ _ same again => ?_
          cases same
          cases found.symm.trans again
          exact clears
      · refine idle fun other same => ?_
        cases found.symm.trans same
        exact Bool.eq_false_iff.mpr wants

private theorem Loses.same {next : Task} (loses : a.Loses next) (same : ∀ call, next = .call call → b.stage? call = a.stage? call) :
    b.Loses next := by
  cases next with
  | call call =>
    intro stage found
    rw [same call rfl] at found
    exact loses stage found
  | _ => exact loses

/-- Every turn leads on to the same end. -/
private theorem Stranded.settles {count : Nat} {a a' : Activity Link} (settles : Settles count a a') (stranded : a.Stranded)
    (crewed : a.Crewed) (arranged : a.Arranged none) (loses : ∀ task ∈ a.ready, a.Loses task)
    (ends : a.session.torn = a.session ∨ ∃ sooner later, a.ready = sooner ++ later ∧ Dooms exact a sooner) :
    Converges exact a a' ∧ a'.session.torn = a'.session ∧ a'.Crewed ∧ a'.Arranged none := by
  induction settles with
  | rest idle =>
    refine ⟨.refl _, ends.resolve_right ?_, crewed, arranged⟩
    rintro ⟨sooner, later, ready, -, call, -, -, listed, -⟩
    rw [idle] at ready
    rw [(List.append_eq_nil_iff.mp ready.symm).1] at listed
    cases listed
  | @turn count a a' task rest wanting laterTurns ih =>
    have own := loses task (wanting ▸ List.mem_cons_self)
    have other : task ≠ .background := by
      rintro rfl
      exact own
    let turned := Activity.run { a with ready := rest } task
    obtain ⟨keeps, more, still, ready, -, behind, pumps⟩ := stranded.others crewed arranged wanting other
    have declines : Declines exact a task turned := by
      refine stranded.turn crewed arranged wanting own fun strict pump => ?_
      rcases ends with torn | ⟨sooner, later, split, dooms⟩
      · exact pump_released crewed torn
      · obtain ⟨left, rfl, -⟩ := dooms.front (wanting.symm.trans split)
        exact absurd (pump ▸ List.mem_cons_self) (dooms.1 strict)
    have loses' : ∀ next ∈ turned.ready, turned.Loses next := by
      intro next member
      rw [ready] at member
      rcases List.mem_append.mp member with early | last
      · have listed := List.mem_of_mem_filter early
        exact (loses next (wanting ▸ List.mem_cons_of_mem _ listed)).same fun call same => (behind call (same ▸ listed)).2
      · rw [pumps next last]
        trivial
    have ends' : turned.session.torn = turned.session ∨
        ∃ sooner later, turned.ready = sooner ++ later ∧ Dooms exact turned sooner := by
      rcases declines.ends with ended | goesOn
      · exact .inl ended
      · rcases ends with before | ⟨sooner, later, split, dooms⟩
        · exact .inl (declines.torn before)
        · obtain ⟨left, rfl, rfl⟩ := dooms.front (wanting.symm.trans split)
          refine .inr ⟨left.filter keeps, later.filter keeps ++ more, ?_, ?_⟩
          · rw [ready, List.filter_append, List.append_assoc]
          · exact (dooms.past goesOn).turn fun call member => behind call (List.mem_append_left _ member)
    obtain ⟨led, torn, crewed', arranged'⟩ := ih still (crewed.run arranged wanting).1 (arranged.run wanting)
      loses' ends'
    exact ⟨declines.converges.trans led, torn, crewed', arranged'⟩

/-- At rest, two that have come to the same end are the same to everybody. -/
private theorem Converges.matches (converges : Converges exact a b) (torn : a.session.torn = a.session)
    (torn' : b.session.torn = b.session) (crewed : a.Crewed) (crewed' : b.Crewed) (mine : a.Arranged none)
    (yours : b.Arranged none) (quiet : a.ready = []) (quiet' : b.ready = []) : Matches exact a b := by
  have alone {c : Activity Link} (crewed : c.Crewed) (torn : c.session.torn = c.session) : c.transport.unwatched = c.transport := by
    have posts := crewed.posts
    rw [pump_released crewed torn] at posts
    have members : c.transport.observers.members = [] := List.map_eq_nil_iff.mp posts
    unfold Link.unwatched
    rw [← members]
  have nobody {c : Activity Link} (arranged : c.Arranged none) (quiet : c.ready = []) (call : Nat) :
      (c.stage? call).bind Stage.verdict? = none := by
    rw [Option.bind_eq_none_iff]
    intro stage found
    by_contra verdict
    obtain ⟨result, known⟩ := Option.ne_none_iff_exists'.mp verdict
    have awake := List.mem_of_mem_filter (arranged.awake call stage nofun found (Stage.wants_of_verdict known))
    rw [quiet] at awake
    cases awake
  have whole {c : Activity Link} (arranged : c.Arranged none) (quiet : c.ready = []) (call : Nat) :
      (c.stage? call).filter (·.verdict?.isNone) = c.stage? call := by
    have none := nobody arranged quiet call
    cases found : c.stage? call with
    | none => rfl
    | some stage =>
      rw [found, Option.bind_some] at none
      exact Option.filter_some_pos (Option.isNone_iff_eq_none.mpr none)
  have stages (call : Nat) : b.stage? call = a.stage? call := by
    have same := converges.stages call
    rwa [whole mine quiet, whole yours quiet'] at same
  have told (call : Nat) : b.told call = a.told call := by
    have same := converges.returns call
    rwa [nobody mine quiet, nobody yours quiet', Option.toList_none, List.append_nil, List.append_nil] at same
  have transport : b.transport = a.transport := by
    rw [← alone crewed torn, ← alone crewed' torn', converges.transport]
  refine ⟨⟨?_, ?_, converges.gate, ?_, fun call => ?_, fun call => ?_⟩, ?_⟩
  · rw [transport]
    exact .refl _
  · have akin := converges.session
    rwa [torn, torn'] at akin
  · rw [pump_released crewed torn, pump_released crewed' torn']
  · unfold Activity.engaged
    rw [stages]
  · rw [mine.results_quiet quiet, yours.results_quiet quiet', told]
  · unfold agenda
    rw [quiet, quiet']
    rfl

private theorem Arranged.reordered (arranged : a.Arranged none) (idle : .background ∉ a.ready) {ready : List Task}
    (same : a.ready ~ ready) : Arranged none { a with ready } := by
  have errands : a.errands ~ Activity.errands { a with ready } := same.filter _
  refine { arranged with single := errands.nodup arranged.single, awake := fun call stage free found wants => ?_, ahead := ?_, apart := nofun }
  · exact errands.mem_iff.mp (arranged.awake call stage free found wants)
  · intro call phase free found pair
    have member := pair.subset List.mem_cons_self
    exact idle (List.mem_of_mem_filter (errands.mem_iff.mpr member))

/-- Once a cancellation is to bring the session to its end, those who only lose their turns may have them in any order. -/
private theorem Stranded.reorder {a a' b' : Activity Link} {front sooner other later : List Task} {first second : Nat}
    (stranded : a.Stranded) (crewed : a.Crewed) (arranged : a.Arranged none) (idle : .background ∉ a.ready) (ready : a.ready = front ++ (sooner ++ later))
    (same : sooner ~ other) (loses : ∀ task ∈ sooner ++ later, a.Loses task) (dooms : Dooms exact a sooner)
    (settles : Settles first a a') (settles' : Settles second { a with ready := front ++ (other ++ later) } b') :
    Matches exact a' b' := by
  induction long : front.length using Nat.strong_induction_on generalizing a front sooner other later first second with
  | _ length ih =>
  have order : a.ready ~ front ++ (other ++ later) := ready ▸ (same.append_right later).append_left front
  have arranged' := arranged.reordered idle order
  have crewed' : Crewed { a with ready := front ++ (other ++ later) } := ⟨crewed.toEquipped.same rfl rfl, crewed.aligned⟩
  cases front with
  | nil =>
    have loses' : ∀ task ∈ other ++ later, a.Loses task := fun task member =>
      loses task ((same.append_right later).mem_iff.mpr member)
    obtain ⟨led, torn, mine, still⟩ :=
      stranded.settles settles crewed arranged (ready ▸ loses) (.inr ⟨sooner, later, ready, dooms⟩)
    obtain ⟨led', torn', yours, still'⟩ := Stranded.settles settles' ⟨stranded.stopped, stranded.opened⟩ crewed' arranged' loses'
      (.inr ⟨other, later, rfl, dooms.perm same⟩)
    have begun : Converges exact a { a with ready := [] ++ (other ++ later) } :=
      ⟨rfl, rfl, .refl _, fun _ => rfl, fun _ => rfl⟩
    exact (led.symm.trans (begun.trans led')).matches torn torn' mine yours still still' settles.rested settles'.rested
  | cons task front =>
    subst long
    rw [List.cons_append] at ready settles'
    cases settles with
    | rest quiet =>
      rw [quiet] at ready
      cases ready
    | @turn _ _ _ first rest wanting laterTurns =>
    cases settles' with
    | rest quiet => cases quiet
    | @turn _ _ _ second rest' wanting' laterTurns' =>
    obtain ⟨rfl, rfl⟩ := List.cons.inj (wanting.symm.trans ready)
    obtain ⟨rfl, rfl⟩ := List.cons.inj wanting'
    have own : first ≠ .background := fun background => idle (background ▸ wanting ▸ List.mem_cons_self)
    let turned := Activity.run { a with ready := front ++ (sooner ++ later) } first
    obtain ⟨keeps, more, still, left, turns, behind, pumps⟩ := stranded.others crewed arranged wanting own
    have shorter : (front.filter keeps).length < front.length + 1 := Nat.lt_succ_of_le (List.length_filter_le ..)
    have split (between : List Task) : (front ++ (between ++ later)).filter keeps ++ more =
        front.filter keeps ++ (between.filter keeps ++ (later.filter keeps ++ more)) := by
      simp only [List.filter_append, List.append_assoc]
    have idle' : .background ∉ turned.ready := by
      rw [left]
      intro member
      rcases List.mem_append.mp member with early | last
      · exact idle (wanting ▸ List.mem_cons_of_mem _ (List.mem_of_mem_filter early))
      · cases pumps _ last
    have loses' : ∀ task ∈ sooner.filter keeps ++ (later.filter keeps ++ more), turned.Loses task := by
      intro task member
      rw [← List.append_assoc, ← List.filter_append] at member
      rcases List.mem_append.mp member with early | last
      · have listed := List.mem_of_mem_filter early
        exact (loses task listed).same fun call same => (behind call (List.mem_append_right _ (same ▸ listed))).2
      · rw [pumps task last]
        trivial
    have dooms' : Dooms exact turned (sooner.filter keeps) :=
      dooms.turn fun call member => behind call (List.mem_append_right _ (List.mem_append_left _ member))
    change Settles _ (Activity.run { a with ready := front ++ (other ++ later) } first) b' at laterTurns'
    rw [turns _ ((same.append_right later).append_left front), split] at laterTurns'
    exact ih _ shorter still (crewed.run arranged wanting).1 (arranged.run wanting) idle' (left.trans (split sooner))
      (same.filter keeps) loses' dooms' laterTurns laterTurns' rfl

/-- Only turns that are lost are wanted in another order, and a cancellation is going to bring the session to its end. -/
structure Shuffles (exact : Bool) (activity : Activity Link) (ready : List Task) : Prop where
  stranded : activity.Stranded
  idle : .background ∉ activity.ready
  order : ∃ front sooner other, activity.ready = front ++ sooner ∧ ready = front ++ other ∧ sooner ~ other ∧
    (∀ task ∈ sooner, activity.Loses task) ∧ Dooms exact activity sooner

theorem Shuffles.arranged {ready : List Task} (shuffles : Shuffles exact a ready) (arranged : a.Arranged none) :
    Arranged none { a with ready } := by
  obtain ⟨front, sooner, other, split, rfl, same, -⟩ := shuffles.order
  exact arranged.reordered shuffles.idle (split ▸ same.append_left front)

theorem Shuffles.settles {ready : List Task} {a' b' : Activity Link} {first second : Nat} (shuffles : Shuffles exact a ready)
    (crewed : a.Crewed) (arranged : a.Arranged none) (settles : Settles first a a')
    (settles' : Settles second { a with ready } b') : Matches exact a' b' := by
  obtain ⟨front, sooner, other, split, rfl, same, loses, dooms⟩ := shuffles.order
  rw [← List.append_nil other] at settles'
  exact shuffles.stranded.reorder crewed arranged shuffles.idle (by rw [split, List.append_nil]) same
    (by rwa [List.append_nil]) dooms settles settles'

end

end Activity

end Subscriber
