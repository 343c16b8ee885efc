import Subscriber.Proofs.GivingUp
import Subscriber.Proofs.ShuffledTurns

/-! What two sessions make of the news that a write has failed, if they hear of it in different orders. Whoever comes to want a turn
only then has lost it. -/

namespace Subscriber

/-- What may be told when a write fails: nobody is answered but with a failure. -/
def Signal.Fails : Signal Error → Prop
  | .answer _ result => ∃ error, result = .error error
  | _ => True

namespace Activity
open scoped List

section
variable {exact : Bool} {a b c : Activity Link} {call : Nat} {phase : Phase} {task : Task} {signals others : List (Signal Error)}

/-- What calls and the pump make of such news. More of them want a turn, behind the others. -/
structure Warned (signals : List (Signal Error)) (before after : Activity Link) : Prop where
  pump : after.pump = before.pump
  stages : ∀ call, after.stage? call = before.stage? call ∨ ∃ phase error,
    before.stage? call = some (.sent phase) ∧ after.stage? call = some (.answered phase (.error error))
  woken : ∃ more, after.ready = before.ready ++ more ∧ more.Nodup ∧ ∀ task ∈ more, task ∉ before.ready ∧ task ≠ .background
  observed : .pump ∈ after.ready ↔ .pump ∈ before.ready ∨ before.pump.isSome = true ∧ .observed ∈ signals

private theorem woken_wake (a : Activity Link) (other : task ≠ .background) :
    ∃ more, (a.wake task).ready = a.ready ++ more ∧ more.Nodup ∧ ∀ task ∈ more, task ∉ a.ready ∧ task ≠ .background := by
  unfold Activity.wake
  split
  · exact ⟨[], (List.append_nil _).symm, List.nodup_nil, nofun⟩
  next absent =>
    refine ⟨[task], rfl, List.nodup_singleton task, fun next member => ?_⟩
    rw [List.mem_singleton.mp member]
    exact ⟨fun waits => absent (List.contains_iff_mem.mpr waits), other⟩

private theorem Warned.still (quiet : .observed ∉ signals ∨ a.pump.isSome = false) (session : Session) :
    Warned signals a { a with session } := by
  refine ⟨rfl, fun _ => .inl rfl, ⟨[], (List.append_nil _).symm, List.nodup_nil, nofun⟩, ⟨.inl, ?_⟩⟩
  rintro (waits | ⟨piped, told⟩)
  · exact waits
  · rcases quiet with absent | unpiped
    · exact absurd told absent
    · cases piped.symm.trans unpiped

private theorem hear_warned (a : Activity Link) {signal : Signal Error} (fails : signal.Fails) : Warned [signal] a (a.hear signal) := by
  unfold Activity.hear
  cases signal with
  | answer call answer =>
    obtain ⟨error, rfl⟩ := fails
    dsimp only
    split
    next phase found =>
      refine ⟨wake_pump .., fun other => ?_, woken_wake (a.setStage call _) (fun same => by cases same), ?_⟩
      · have placed := stage?_setStage_known (a := a) (Option.isSome_of_eq_some found) (.answered phase (.error error)) other
        rw [stage?_wake, placed]
        split
        next own => exact .inr ⟨phase, error, own ▸ found, rfl⟩
        · exact .inl rfl
      · rw [mem_wake_iff]
        simp [setStage]
    · exact .still (.inl (by simp)) a.session
  | admitted call =>
    dsimp only
    split
    · refine ⟨wake_pump .., fun other => .inl (stage?_wake _ _), woken_wake a (fun same => by cases same), ?_⟩
      rw [mem_wake_iff]
      simp
    · exact .still (.inl (by simp)) a.session
  | observed =>
    dsimp only
    split
    next piped =>
      refine ⟨wake_pump .., fun other => .inl (stage?_wake _ _), woken_wake a (fun same => by cases same), ?_⟩
      rw [mem_wake_iff]
      simp [piped]
    next unpiped => exact .still (.inr (Bool.eq_false_iff.mpr unpiped)) a.session
  | notice notice => exact .still (.inl (by simp)) _

private theorem Warned.trans (first : Warned signals a b) (second : Warned others b c) : Warned (signals ++ others) a c := by
  refine ⟨second.pump.trans first.pump, fun call => ?_, ?_, ?_⟩
  · rcases second.stages call with same | ⟨phase, error, sent, failed⟩
    · rcases first.stages call with before | ⟨phase, error, sent, failed⟩
      · exact .inl (same.trans before)
      · exact .inr ⟨phase, error, sent, same.trans failed⟩
    · rcases first.stages call with before | ⟨asked, loss, -, answered⟩
      · exact .inr ⟨phase, error, before.symm.trans sent, failed⟩
      · cases answered.symm.trans sent
  · obtain ⟨early, ready, single, fresh⟩ := first.woken
    obtain ⟨late, ready', single', fresh'⟩ := second.woken
    have apart (task : Task) (member : task ∈ late) : task ∉ a.ready ∧ task ∉ early := by
      have absent := (fresh' task member).1
      rw [ready, List.mem_append] at absent
      exact not_or.mp absent
    refine ⟨early ++ late, by rw [ready', ready, List.append_assoc], ?_, fun task member => ?_⟩
    · exact List.nodup_append'.mpr ⟨single, single', fun task member late => (apart task late).2 member⟩
    · rcases List.mem_append.mp member with before | after
      · exact fresh task before
      · exact ⟨(apart task after).1, (fresh' task after).2⟩
  · rw [second.observed, first.observed, first.pump, List.mem_append]
    tauto

theorem foldl_warned (a : Activity Link) (fails : ∀ signal ∈ signals, signal.Fails) :
    Warned signals a (signals.foldl Activity.hear a) := by
  induction signals generalizing a with
  | nil => exact .still (.inl (List.not_mem_nil)) a.session
  | cons signal signals ih =>
    exact (hear_warned a (fails signal List.mem_cons_self)).trans
      (ih (a.hear signal) fun next member => fails next (List.mem_cons_of_mem _ member))

private theorem Warned.matters (warned : Warned signals a b) (poised : a.Poised Phase.Clears) (member : task ∈ a.ready) :
    b.matters task = a.matters task := by
  cases task with
  | call call =>
    rcases warned.stages call with same | ⟨phase, error, sent, failed⟩
    · simp only [Activity.matters, engaged, same]
    · have plain : ¬ phase.Clears := fun clears => poised call phase sent clears member
      have before : a.engaged call = some (.sent phase) := engaged_some.mpr ⟨sent, rfl⟩
      have after : b.engaged call = none := by
        unfold engaged
        rw [failed]
        exact Option.filter_some_neg (Option.isNone_eq_false_iff.mpr (Option.isSome_iff_ne_none.mpr (Stage.outcome?_failed plain error)))
      rw [matters_call, matters_call, before, after]
      rfl
  | _ => rfl

/-- Whoever comes to want a turn because of a failure has lost it. -/
private theorem Warned.loses (warned : Warned signals a b) (arranged : a.Arranged none) (fresh : task ∉ a.ready)
    (other : task ≠ .background) : b.Loses task := by
  cases task with
  | background => exact absurd rfl other
  | pump => trivial
  | call call =>
    intro stage found wants
    rcases warned.stages call with same | ⟨phase, error, -, failed⟩
    · have awake := arranged.awake call stage nofun (same.symm.trans found) wants
      exact absurd (List.mem_of_mem_filter awake) fresh
    · exact ⟨phase, error, Option.some.inj (found.symm.trans failed)⟩

section
variable {a' b' : Activity Link}

/-- Whoever makes a difference and comes to want a turn in one session comes to want one in the other. -/
private theorem Warned.also (mine : Warned signals a a') (yours : Warned others b b') (matched : Matches exact a b)
    (tallies : Tallies exact a' b') (poised : b.Poised Phase.Clears) (settled : b'.Arranged none)
    (observed : .observed ∈ signals → .observed ∈ others) (wants : task ∈ a'.ready) (fresh : task ∉ a.ready)
    (other : task ≠ .background) (difference : a'.matters task = true) : task ∈ b'.ready ∧ task ∉ b.ready := by
  have apart : task ∉ b.ready := by
    intro member
    have before : b.matters task = true := by
      rw [← yours.matters poised member, tallies.matters, difference]
    have listed : task ∈ b.agenda := List.mem_filter.mpr ⟨member, before⟩
    rw [matched.agenda] at listed
    exact fresh (List.mem_of_mem_filter listed)
  refine ⟨?_, apart⟩
  cases task with
  | background => exact absurd rfl other
  | pump =>
    obtain ⟨piped, told⟩ := (mine.observed.mp wants).resolve_left fresh
    exact yours.observed.mpr (.inr ⟨matched.pump ▸ piped, observed told⟩)
  | call call =>
    rw [← tallies.matters] at difference
    obtain ⟨stage, found, goesOn⟩ := (Option.any_eq_true _ _).mp difference
    exact List.mem_of_mem_filter (settled.awake call stage nofun (engaged_some.mp found).1 goesOn)

theorem eq_of_perm_only {α : Type} {only : α} {list other : List α} (same : list ~ other)
    (all : ∀ entry ∈ list, entry = only) : list = other := by
  rw [List.eq_replicate_of_mem all]
  have rest := List.eq_replicate_of_mem fun entry member => all entry (same.mem_iff.mpr member)
  rw [rest, same.length_eq]

/-- Whatever difference the order of the news makes comes to nothing, or else a cancellation is going to bring the session to its
end, and whoever wants a turn only now has lost it. -/
theorem Warned.reordered (mine : Warned signals a a') (yours : Warned others b b') (matched : Matches exact a b)
    (tallies : Tallies exact a' b') (poised : a.Poised Phase.Clears) (poised' : b.Poised Phase.Clears) (arranged : a.Arranged none)
    (settled : a'.Arranged none) (settled' : b'.Arranged none) (observed : .observed ∈ signals ↔ .observed ∈ others)
    (unobserved : exact = true → .observed ∉ signals) (stranded : a'.Stranded) (idle : .background ∉ a'.ready) :
    Matches exact a' b' ∨ ∃ ready, Shuffles exact a' ready ∧ Matches exact { a' with ready } b' := by
  obtain ⟨sooner, ready, single, fresh⟩ := mine.woken
  obtain ⟨later, ready', single', fresh'⟩ := yours.woken
  have agenda : a'.agenda = a.agenda ++ sooner.filter a'.matters := by
    unfold Activity.agenda
    rw [ready, List.filter_append]
    exact congrArg (· ++ _) (List.filter_congr fun task member => mine.matters poised member)
  have agenda' : b'.agenda = a.agenda ++ later.filter a'.matters := by
    rw [← matched.agenda]
    unfold Activity.agenda
    rw [ready', List.filter_append, ← tallies.matters]
    exact congrArg (· ++ _) (List.filter_congr fun task member => yours.matters poised' member)
  have same : sooner.filter a'.matters ~ later.filter a'.matters := by
    refine (List.perm_ext_iff_of_nodup (single.filter _) (single'.filter _)).mpr fun task => ?_
    rw [List.mem_filter, List.mem_filter]
    refine and_congr_left fun difference => ⟨fun member => ?_, fun member => ?_⟩
    · obtain ⟨apart, other⟩ := fresh task member
      obtain ⟨wants, absent⟩ := mine.also yours matched tallies poised' settled' observed.mp
        (ready ▸ List.mem_append_right _ member) apart other difference
      exact (List.mem_append.mp (ready' ▸ wants)).resolve_left absent
    · obtain ⟨apart, other⟩ := fresh' task member
      obtain ⟨wants, absent⟩ := yours.also mine matched.symm tallies.symm poised settled observed.mpr
        (ready' ▸ List.mem_append_right _ member) apart other (tallies.matters ▸ difference)
      exact (List.mem_append.mp (ready ▸ wants)).resolve_left absent
  have loses (task : Task) (member : task ∈ sooner) : a'.Loses task := mine.loses arranged (fresh task member).1 (fresh task member).2
  by_cases doomed : ∃ call phase error, .call call ∈ sooner ∧ a'.stage? call = some (.answered phase (.error error)) ∧ phase.Clears
  · let spent := sooner.filter fun task => !a'.matters task
    refine .inr ⟨a.ready ++ (later.filter a'.matters ++ spent), ⟨stranded, idle, a.ready, sooner, _, ready, rfl, ?_, loses,
      fun strict member => ?_, doomed⟩, ?_⟩
    · exact (List.filter_append_perm a'.matters sooner).symm.trans (same.append_right spent)
    · obtain ⟨-, told⟩ := (mine.observed.mp (ready ▸ List.mem_append_right _ member)).resolve_left (fresh _ member).1
      exact unobserved strict told
    · refine ⟨{ tallies with }, ?_⟩
      have first : a.ready.filter a'.matters = a.agenda := List.filter_congr fun task member => mine.matters poised member
      have none : spent.filter a'.matters = [] := by
        rw [List.filter_filter]
        simp
      change b'.agenda = (a.ready ++ (later.filter a'.matters ++ spent)).filter a'.matters
      rw [agenda', List.filter_append, List.filter_append, List.filter_filter, none, first, List.append_nil]
      simp
  · refine .inl ⟨tallies, ?_⟩
    rw [agenda, agenda']
    have pumps (task : Task) (member : task ∈ sooner.filter a'.matters) : task = .pump := by
      obtain ⟨listed, difference⟩ := List.mem_filter.mp member
      cases task with
      | background => exact absurd rfl (fresh _ listed).2
      | pump => rfl
      | call call =>
        obtain ⟨stage, found, wants⟩ := (Option.any_eq_true _ _).mp difference
        obtain ⟨known, going⟩ := engaged_some.mp found
        obtain ⟨phase, error, rfl⟩ := loses _ listed stage known wants
        refine absurd ⟨call, phase, error, listed, known, ?_⟩ doomed
        by_contra plain
        exact Stage.outcome?_failed plain error going
    rw [eq_of_perm_only same pumps]

end

end

end Activity

end Subscriber
