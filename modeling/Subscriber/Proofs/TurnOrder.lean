import Subscriber.Proofs.Conversations
import Subscriber.Proofs.Turns

/-! Turns in the order of the line. Over a connection that grants requests in the order in which they were made, the calls
that made them go on in that order too: whoever has been granted something wants a turn, and wants it before those who were
granted something later. -/

namespace Subscriber

def Phase.request (phase : Phase) (call : Nat) : Request := { call, verb := phase.verb, targets := phase.targets }

namespace Activity
open scoped List

section
variable {τ : Type}

def errands (activity : Activity τ) : List Task := activity.ready.filter (· != .pump)

/-- A call that has been given up, as long as it has not been started anew. -/
def Gone (activity : Activity τ) (call : Nat) : Prop :=
  activity.stage? call = none ∧ ∀ result, (call, result) ∉ activity.finished

/-- The call that made a request has come to such a stage with it, unless it is gone. -/
def StandsAt (stage : Phase → Stage) (activity : Activity τ) (request : Request) : Prop :=
  activity.Gone request.call ∨
    ∃ phase : Phase, phase.request request.call = request ∧ activity.stage? request.call = some (stage phase)

/-- The turns owed to those who have been granted these requests. -/
def due (activity : Activity τ) (owed : List Request) : List Task :=
  (owed.filter fun request => (activity.stage? request.call).isSome).map fun request => .call request.call

/-- How calls stand to their requests. Those that are `owed` a turn have been granted theirs, the `opened` ones have not
been answered; a call that is `busy` is just having its turn. -/
structure Lined (busy : Option Nat) (owed opened : List Request) (activity : Activity τ) : Prop where
  distinct : ((owed ++ opened).map Request.call).Nodup
  single : activity.errands.Nodup
  granted : ∀ request ∈ owed, activity.StandsAt (.answered · (.ok ())) request
  asked : ∀ request ∈ opened, activity.StandsAt .sent request
  answered : ∀ call phase answer, busy ≠ some call → activity.stage? call = some (.answered phase answer) →
    call ∈ owed.map Request.call
  sent : ∀ call phase, busy ≠ some call → activity.stage? call = some (.sent phase) → call ∈ opened.map Request.call
  order : activity.due owed <+ activity.errands
  /-- Nobody who waits for an answer is still to have a turn when the next answers come. -/
  ahead : ∀ call phase, busy ≠ some call → activity.stage? call = some (.sent phase) →
    ¬ [.background, .call call] <+ activity.errands
  apart : ∀ call, busy = some call → call ∉ (owed ++ opened).map Request.call ∧ .call call ∉ activity.errands

theorem lined_start (transport : τ) : Lined none [] [] { transport } := by
  have nobody {call : Nat} {stage : Stage} (found : stage? { transport } call = some stage) : False := by cases found
  refine ⟨List.nodup_nil, List.nodup_nil, ?_, ?_, ?_, ?_, .slnil, ?_, nofun⟩
  · exact fun _ member => (List.not_mem_nil member).elim
  · exact fun _ member => (List.not_mem_nil member).elim
  · exact fun _ _ _ _ found => (nobody found).elim
  · exact fun _ _ _ found => (nobody found).elim
  · exact fun _ _ _ found => (nobody found).elim

section
variable {a b : Activity τ} {call : Nat} {owed opened : List Request} {busy : Option Nat}

theorem errands_wake_pump (a : Activity τ) : (a.wake .pump).errands = a.errands := by
  unfold wake
  split
  · rfl
  · unfold errands
    rw [List.filter_append, List.filter_cons_of_neg (by simp), List.filter_nil, List.append_nil]

theorem errands_wake_new {task : Task} (asleep : task ∉ a.errands) (other : task ≠ .pump) :
    (a.wake task).errands = a.errands ++ [task] := by
  unfold wake
  split
  next waits => exact absurd (List.mem_filter.mpr ⟨List.contains_iff_mem.mp waits, by simpa using other⟩) asleep
  · unfold errands
    rw [List.filter_append, List.filter_cons_of_pos (by simpa using other), List.filter_nil]

theorem errands_wake (a : Activity τ) (task : Task) : (a.wake task).errands = a.errands ∨
    task ∉ a.errands ∧ (a.wake task).errands = a.errands ++ [task] := by
  by_cases pumps : task = .pump
  · exact .inl (pumps ▸ errands_wake_pump a)
  · by_cases waits : task ∈ a.errands
    · refine .inl ?_
      unfold wake
      rw [if_pos (List.contains_iff_mem.mpr (List.mem_of_mem_filter waits))]
    · exact .inr ⟨waits, errands_wake_new waits pumps⟩

theorem errands_forget (a : Activity τ) (call : Nat) : (a.forget call).errands = a.errands.filter (· != .call call) :=
  List.filter_comm ..

private theorem Gone.of_same (gone : a.Gone call) (stage : b.stage? call = a.stage? call)
    (finished : ∀ result, (call, result) ∈ b.finished → (call, result) ∈ a.finished) : b.Gone call :=
  ⟨stage.trans gone.1, fun result member => gone.2 result (finished result member)⟩

theorem StandsAt.of_same {stage : Phase → Stage} {request : Request} (stands : a.StandsAt stage request)
    (same : b.stage? request.call = a.stage? request.call)
    (finished : ∀ result, (request.call, result) ∈ b.finished → (request.call, result) ∈ a.finished) :
    b.StandsAt stage request :=
  stands.imp (·.of_same same finished) fun ⟨phase, asks, found⟩ => ⟨phase, asks, same.trans found⟩

theorem due_congr (same : ∀ request ∈ owed, b.stage? request.call = a.stage? request.call) : b.due owed = a.due owed := by
  unfold due
  rw [List.filter_congr fun request member => by rw [same request member]]

theorem due_append (a : Activity τ) (first last : List Request) : a.due (first ++ last) = a.due first ++ a.due last := by
  unfold due
  rw [List.filter_append, List.map_append]

theorem mem_due {task : Task} : task ∈ a.due owed ↔
    ∃ request ∈ owed, (a.stage? request.call).isSome ∧ task = .call request.call := by
  unfold due
  simp only [List.mem_map, List.mem_filter, and_assoc, eq_comm]

/-- Two are in this order, or the second has just been put at the end. -/
theorem pair_concat {first second last : Task} {tasks : List Task} (pair : [first, second] <+ tasks ++ [last]) :
    [first, second] <+ tasks ∨ first ∈ tasks ∧ second = last := by
  obtain ⟨front, back, parts, before, after⟩ := List.sublist_append_iff.mp pair
  cases front with
  | nil =>
    have whole : [first, second] = back := parts
    exact absurd (whole ▸ after).length_le (by simp)
  | cons head front =>
    obtain ⟨rfl, rest⟩ := List.cons.inj parts
    cases front with
    | nil =>
      have own : [second] = back := rest
      exact .inr ⟨before.subset List.mem_cons_self, List.mem_singleton.mp (after.subset (own ▸ List.mem_cons_self))⟩
    | cons next front =>
      obtain ⟨rfl, empty⟩ := List.cons.inj rest
      obtain ⟨rfl, -⟩ := List.append_eq_nil_iff.mp empty.symm
      exact .inl before

/-- Whoever only puts somebody else into another place changes nothing for those who wait. -/
theorem Lined.wake (lined : a.Lined none owed opened) (task : Task)
    (early : ∀ call phase, task = .call call → a.stage? call = some (.sent phase) → .background ∉ a.errands) :
    Lined none owed opened (a.wake task) := by
  have stages (call : Nat) : (a.wake task).stage? call = a.stage? call := stage?_wake a task
  have finished (call : Nat) (result : Except Error Unit) (member : (call, result) ∈ (a.wake task).finished) :
      (call, result) ∈ a.finished := by
    rw [wake_finished] at member
    exact member
  have due : (a.wake task).due owed = a.due owed := due_congr fun request _ => stages request.call
  refine ⟨lined.distinct, ?_, ?_, ?_, ?_, ?_, ?_, ?_, nofun⟩
  · rcases errands_wake a task with same | ⟨fresh, more⟩
    · exact same ▸ lined.single
    · rw [more, ← List.concat_eq_append]
      exact lined.single.concat fresh
  · exact fun request member => (lined.granted request member).of_same (stages _) (finished _)
  · exact fun request member => (lined.asked request member).of_same (stages _) (finished _)
  · exact fun call phase answer free found => lined.answered call phase answer free ((stages call).symm.trans found)
  · exact fun call phase free found => lined.sent call phase free ((stages call).symm.trans found)
  · rw [due]
    rcases errands_wake a task with same | ⟨-, more⟩
    · exact same ▸ lined.order
    · exact more ▸ lined.order.trans (List.sublist_append_left _ _)
  · intro call phase free found pair
    rw [stages] at found
    rcases errands_wake a task with same | ⟨-, more⟩
    · exact lined.ahead call phase free found (same ▸ pair)
    · rcases pair_concat (more ▸ pair) with before | ⟨member, own⟩
      · exact lined.ahead call phase free found before
      · exact early call phase own.symm found member

theorem Lined.place (lined : a.Lined busy owed opened) (call : Nat) (free : ∀ other, busy = some other → other = call)
    (unlisted : call ∉ (owed ++ opened).map Request.call) (others : ∀ other, other ≠ call → b.stage? other = a.stage? other)
    (finished : ∀ other, other ≠ call → ∀ result, (other, result) ∈ b.finished → (other, result) ∈ a.finished)
    (unanswered : ∀ phase answer, b.stage? call ≠ some (.answered phase answer))
    (unsent : ∀ phase, b.stage? call ≠ some (.sent phase)) (errands : b.errands = a.errands) :
    Lined none owed opened b := by
  have different {request : Request} (member : request ∈ owed ++ opened) : request.call ≠ call :=
    fun same => unlisted (same ▸ List.mem_map_of_mem member)
  have still {stage : Phase → Stage} {request : Request} (member : request ∈ owed ++ opened)
      (stands : a.StandsAt stage request) : b.StandsAt stage request :=
    stands.of_same (others _ (different member)) (finished _ (different member))
  have open' {other : Nat} (foreign : other ≠ call) : busy ≠ some other := fun same => foreign (free other same)
  refine ⟨lined.distinct, errands ▸ lined.single, ?_, ?_, ?_, ?_, ?_, ?_, nofun⟩
  · exact fun request member => still (List.mem_append_left opened member) (lined.granted request member)
  · exact fun request member => still (List.mem_append_right owed member) (lined.asked request member)
  · intro other phase answer _ found
    by_cases own : other = call
    · exact absurd (own ▸ found) (unanswered phase answer)
    · exact lined.answered other phase answer (open' own) ((others other own).symm.trans found)
  · intro other phase _ found
    by_cases own : other = call
    · exact absurd (own ▸ found) (unsent phase)
    · exact lined.sent other phase (open' own) ((others other own).symm.trans found)
  · rw [errands, due_congr fun request member => others _ (different (List.mem_append_left _ member))]
    exact lined.order
  · intro other phase _ found
    rw [errands]
    by_cases own : other = call
    · exact absurd (own ▸ found) (unsent phase)
    · exact lined.ahead other phase (open' own) ((others other own).symm.trans found)

theorem Lined.restage {old : Stage} (lined : a.Lined busy owed opened) (found : a.stage? call = some old)
    (free : ∀ other, busy = some other → other = call) (unlisted : call ∉ (owed ++ opened).map Request.call) {stage : Stage}
    (unanswered : ∀ phase answer, stage ≠ .answered phase answer) (unsent : ∀ phase, stage ≠ .sent phase) :
    Lined none owed opened (a.setStage call stage) := by
  have now := stage?_setStage_self found stage
  refine lined.place call free unlisted (fun other different => stage?_setStage_other different a stage) (fun _ _ _ => id)
    (fun phase answer same => ?_) (fun phase same => ?_) rfl
  · exact unanswered phase answer (Option.some.inj (now.symm.trans same))
  · exact unsent phase (Option.some.inj (now.symm.trans same))

theorem Lined.send (lined : a.Lined (some call) owed opened) (phase : Phase)
    (others : ∀ other, other ≠ call → b.stage? other = a.stage? other) (finished : b.finished = a.finished)
    (now : b.stage? call = some (.sent phase)) (errands : b.errands = a.errands) :
    Lined none owed (opened ++ [phase.request call]) b := by
  obtain ⟨unlisted, asleep⟩ := lined.apart call rfl
  have different {request : Request} (member : request ∈ owed ++ opened) : request.call ≠ call :=
    fun same => unlisted (same ▸ List.mem_map_of_mem member)
  have still {stage : Phase → Stage} {request : Request} (member : request ∈ owed ++ opened)
      (stands : a.StandsAt stage request) : b.StandsAt stage request :=
    stands.of_same (others _ (different member)) fun result => by rw [finished]; exact id
  have open' {other : Nat} (foreign : other ≠ call) : some call ≠ some other := fun same => foreign (Option.some.inj same).symm
  refine ⟨?_, errands ▸ lined.single, ?_, ?_, ?_, ?_, ?_, ?_, nofun⟩
  · rw [← List.append_assoc, ← List.concat_eq_append, List.map_concat]
    exact lined.distinct.concat unlisted
  · exact fun request member => still (List.mem_append_left opened member) (lined.granted request member)
  · intro request member
    rcases List.mem_append.mp member with earlier | last
    · exact still (List.mem_append_right owed earlier) (lined.asked request earlier)
    · cases List.mem_singleton.mp last
      exact .inr ⟨phase, rfl, now⟩
  · intro other phase answer _ found
    by_cases own : other = call
    · cases now.symm.trans (own ▸ found)
    · exact lined.answered other phase answer (open' own) ((others other own).symm.trans found)
  · intro other phase _ found
    rw [List.map_append, List.mem_append]
    by_cases own : other = call
    · exact .inr (List.mem_singleton.mpr own)
    · exact .inl (lined.sent other phase (open' own) ((others other own).symm.trans found))
  · rw [errands, due_congr fun request member => others _ (different (List.mem_append_left _ member))]
    exact lined.order
  · intro other phase _ found pair
    rw [errands] at pair
    by_cases own : other = call
    · exact asleep (own ▸ pair.subset (by simp))
    · exact lined.ahead other phase (open' own) ((others other own).symm.trans found) pair

theorem Lined.giveUp {fewer : List Request} (lined : a.Lined none owed opened) (call : Nat)
    (unfinished : ∀ result, (call, result) ∉ a.finished) (sub : fewer <+ opened)
    (kept : ∀ request ∈ opened, request.call ≠ call → request ∈ fewer) (calls : b.calls = (a.forget call).calls)
    (finished : b.finished = a.finished) (ready : b.ready = (a.forget call).ready) : Lined none owed fewer b := by
  have stages (other : Nat) : b.stage? other = if other = call then none else a.stage? other := by
    rw [← stage?_forget, stage?, calls]
    rfl
  have own : b.Gone call := ⟨(stages call).trans (if_pos rfl), fun result => finished ▸ unfinished result⟩
  have errands : b.errands = a.errands.filter (· != .call call) := by
    rw [← errands_forget, Activity.errands, ready]
    rfl
  have still {stage : Phase → Stage} {request : Request} (stands : a.StandsAt stage request) : b.StandsAt stage request := by
    by_cases same : request.call = call
    · exact .inl (same ▸ own)
    · exact stands.of_same ((stages _).trans (if_neg same)) fun result => by rw [finished]; exact id
  have foreign {other : Nat} {stage : Stage} (found : b.stage? other = some stage) :
      other ≠ call ∧ a.stage? other = some stage := by
    rw [stages] at found
    split at found
    · cases found
    next different => exact ⟨different, found⟩
  refine ⟨?_, errands ▸ lined.single.filter _, ?_, ?_, ?_, ?_, ?_, ?_, nofun⟩
  · exact ((sub.append_left owed).map _).nodup lined.distinct
  · exact fun request member => still (lined.granted request member)
  · exact fun request member => still (lined.asked request (sub.subset member))
  · exact fun other phase answer free found => lined.answered other phase answer free (foreign found).2
  · intro other phase free found
    obtain ⟨different, before⟩ := foreign found
    obtain ⟨request, member, rfl⟩ := List.mem_map.mp (lined.sent other phase free before)
    exact List.mem_map_of_mem (kept request member different)
  · have due : b.due owed = (a.due owed).filter (· != .call call) := by
      unfold Activity.due
      rw [List.filter_map, List.filter_filter]
      congr 1
      refine List.filter_congr fun request _ => ?_
      rw [stages]
      by_cases same : request.call = call <;> simp [same]
    rw [due, errands]
    exact lined.order.filter _
  · intro other phase free found pair
    exact lined.ahead other phase free (foreign found).2 (pair.trans (errands ▸ List.filter_sublist))

/-- The first task in line is taken out, and the line of those who are owed a turn is `later` from then on. -/
theorem Lined.leave {task : Task} {rest : List Task} {later : List Request} (lined : a.Lined none owed opened)
    (front : a.ready = task :: rest) (sub : later <+ owed)
    (kept : ∀ other phase answer, busy ≠ some other → a.stage? other = some (.answered phase answer) →
      other ∈ later.map Request.call)
    (order : a.due later <+ rest.filter (· != .pump))
    (apart : ∀ call, busy = some call → call ∉ (later ++ opened).map Request.call ∧ .call call ∉ rest) :
    Lined busy later opened { a with ready := rest } := by
  have fewer : rest.filter (· != .pump) <+ a.errands := by
    unfold errands
    rw [front]
    exact (List.sublist_cons_self task rest).filter _
  refine ⟨((sub.append_right opened).map _).nodup lined.distinct, fewer.nodup lined.single,
    fun request member => lined.granted request (sub.subset member), lined.asked, kept,
    fun other phase _ => lined.sent other phase nofun, order, fun other phase _ sent pair => ?_, fun call own => ?_⟩
  · exact lined.ahead other phase nofun sent (pair.trans fewer)
  · exact (apart call own).imp_right fun asleep member => asleep (List.mem_of_mem_filter member)

theorem errands_front {task : Task} {rest : List Task} (front : a.ready = task :: rest) (other : task ≠ .pump) :
    a.errands = task :: rest.filter (· != .pump) := by
  unfold errands
  rw [front, List.filter_cons_of_pos (by simpa using other)]

/-- Whoever is not owed a turn can have one without any change to the line. -/
theorem Lined.drop {task : Task} {rest : List Task} (lined : a.Lined none owed opened) (front : a.ready = task :: rest)
    (undue : task ∉ a.due owed) : Lined none owed opened { a with ready := rest } := by
  refine lined.leave front (List.Sublist.refl _) lined.answered ?_ nofun
  have order := lined.order
  by_cases pumps : task = .pump
  · have same : a.errands = rest.filter (· != .pump) := by
      unfold errands
      rw [front, List.filter_cons_of_neg (by simp [pumps])]
    exact same ▸ order
  · rw [errands_front front pumps] at order
    rcases List.sublist_cons_iff.mp order with sub | ⟨others, own, -⟩
    · exact sub
    · exact absurd (own ▸ List.mem_cons_self) undue

/-- Whoever is under way and waits for no answer has no request that is still open. -/
theorem Lined.unopened {stage : Stage} (lined : a.Lined busy owed opened) (found : a.stage? call = some stage)
    (unsent : ∀ phase, stage ≠ .sent phase) : call ∉ opened.map Request.call := by
  intro member
  obtain ⟨request, inside, rfl⟩ := List.mem_map.mp member
  rcases lined.asked request inside with gone | ⟨phase, -, sent⟩
  · cases gone.1.symm.trans found
  · exact unsent phase (Option.some.inj (found.symm.trans sent))

/-- Whoever has no answer either has no request in line. -/
theorem Lined.unlisted {stage : Stage} (lined : a.Lined busy owed opened) (found : a.stage? call = some stage)
    (unsent : ∀ phase, stage ≠ .sent phase) (unanswered : ∀ phase answer, stage ≠ .answered phase answer) :
    call ∉ (owed ++ opened).map Request.call := by
  rw [List.map_append, List.mem_append]
  refine fun either => either.elim (fun member => ?_) (lined.unopened found unsent)
  obtain ⟨request, inside, rfl⟩ := List.mem_map.mp member
  rcases lined.granted request inside with gone | ⟨phase, -, answered⟩
  · cases gone.1.symm.trans found
  · exact unanswered phase _ (Option.some.inj (found.symm.trans answered))

private theorem sublist_front {first : Task} {earlier later rest : List Task} (sub : earlier ++ first :: later <+ first :: rest)
    (before : first ∉ earlier) (asleep : first ∉ rest) : earlier = [] ∧ later <+ rest := by
  cases earlier with
  | nil => exact ⟨rfl, List.cons_sublist_cons.mp sub⟩
  | cons head earlier =>
    cases sub with
    | cons _ sub => exact absurd (sub.subset (by simp)) asleep
    | cons_cons => exact absurd List.mem_cons_self before

/-- The next in line has been granted a request. Of those who were granted something earlier none is under way. -/
theorem Lined.front_granted {request : Request} {skipped later : List Request} {rest : List Task} {stage : Stage}
    (lined : a.Lined none (skipped ++ request :: later) opened) (front : a.ready = .call request.call :: rest)
    (found : a.stage? request.call = some stage) :
    (∀ other ∈ skipped, a.stage? other.call = none) ∧ request.call ∉ later.map Request.call ∧
      a.due later <+ rest.filter (· != .pump) := by
  have distinct := lined.distinct
  rw [List.append_assoc, List.map_append, List.cons_append, List.map_cons] at distinct
  obtain ⟨-, once, crossed⟩ := List.nodup_append.mp distinct
  have unlisted : request.call ∉ later.map Request.call := fun member =>
    (List.nodup_cons.mp once).1 (List.map_append ▸ List.mem_append_left _ member)
  have before : .call request.call ∉ a.due skipped := by
    intro early
    obtain ⟨other, among, -, own⟩ := mem_due.mp early
    exact crossed other.call (List.mem_map_of_mem among) _ List.mem_cons_self (Task.call.inj own).symm
  have next : a.due (request :: later) = .call request.call :: a.due later := by
    unfold due
    rw [List.filter_cons_of_pos (by rw [found]; rfl), List.map_cons]
  have errands := errands_front front nofun
  have order := lined.order
  rw [due_append, next, errands] at order
  obtain ⟨nobody, behind⟩ := sublist_front order before (List.nodup_cons.mp (errands ▸ lined.single)).1
  refine ⟨fun other among => Option.not_isSome_iff_eq_none.mp fun alive => ?_, unlisted, behind⟩
  have waits : Task.call other.call ∈ a.due skipped := mem_due.mpr ⟨other, among, alive, rfl⟩
  rw [nobody] at waits
  cases waits

/-- The next in line takes its turn. If it has been granted something, those who were granted something earlier have had
theirs or are gone. -/
theorem Lined.takeUp {rest : List Task} {stage : Stage} (lined : a.Lined none owed opened)
    (front : a.ready = .call call :: rest) (found : a.stage? call = some stage) (unsent : ∀ phase, stage ≠ .sent phase) :
    (∃ phase skipped later, stage = .answered phase (.ok ()) ∧ owed = skipped ++ phase.request call :: later ∧
      (∀ request ∈ skipped, a.Gone request.call) ∧ Lined (some call) later opened { a with ready := rest }) ∨
    (∀ phase answer, stage ≠ .answered phase answer) ∧ Lined (some call) owed opened { a with ready := rest } := by
  have unready : .call call ∉ rest := by
    have asleep := (List.nodup_cons.mp (errands_front front nofun ▸ lined.single)).1
    exact fun member => asleep (List.mem_filter.mpr ⟨member, rfl⟩)
  have unopened := lined.unopened found unsent
  by_cases member : call ∈ owed.map Request.call
  · obtain ⟨request, inside, rfl⟩ := List.mem_map.mp member
    rcases lined.granted request inside with gone | ⟨phase, asks, answered⟩
    · cases gone.1.symm.trans found
    · obtain rfl := Option.some.inj (found.symm.trans answered)
      obtain ⟨skipped, later, rfl⟩ := List.append_of_mem inside
      obtain ⟨idle, unlisted, behind⟩ := lined.front_granted front found
      refine .inl ⟨phase, skipped, later, rfl, asks ▸ rfl, fun other among => ?_, lined.leave front ?_ ?_ behind ?_⟩
      · refine (lined.granted other (List.mem_append_left _ among)).resolve_right fun ⟨_, _, found⟩ => ?_
        cases (idle other among).symm.trans found
      · exact (List.sublist_cons_self ..).trans (List.sublist_append_right ..)
      · intro other phase answer foreign found
        have among := lined.answered other phase answer nofun found
        rw [List.map_append, List.mem_append, List.map_cons, List.mem_cons] at among
        rcases among with early | own | late
        · obtain ⟨earlier, among, rfl⟩ := List.mem_map.mp early
          cases (idle earlier among).symm.trans found
        · exact absurd (congrArg some own.symm) foreign
        · exact late
      · rintro _ ⟨⟩
        rw [List.map_append, List.mem_append]
        exact ⟨fun either => either.elim unlisted unopened, unready⟩
  · have undue : .call call ∉ a.due owed := fun early => by
      obtain ⟨request, inside, -, same⟩ := mem_due.mp early
      exact member (Task.call.inj same ▸ List.mem_map_of_mem inside)
    refine .inr ⟨fun phase answer same => member (lined.answered call phase answer nofun (same ▸ found)), ?_⟩
    refine lined.leave front (List.Sublist.refl _) (fun other phase answer _ => lined.answered other phase answer nofun)
      (lined.drop front undue).order ?_
    rintro _ ⟨⟩
    rw [List.map_append, List.mem_append]
    exact ⟨fun either => either.elim member unopened, unready⟩

theorem Lined.same (lined : a.Lined busy owed opened) (calls : b.calls = a.calls) (finished : b.finished = a.finished)
    (errands : b.errands = a.errands) : Lined busy owed opened b := by
  have stages (call : Nat) : b.stage? call = a.stage? call := by
    unfold stage?
    rw [calls]
  have still {stage : Phase → Stage} {request : Request} (stands : a.StandsAt stage request) : b.StandsAt stage request :=
    stands.of_same (stages _) fun result => by rw [finished]; exact id
  refine ⟨lined.distinct, errands ▸ lined.single, ?_, ?_, ?_, ?_, ?_, ?_, errands ▸ lined.apart⟩
  · exact fun request member => still (lined.granted request member)
  · exact fun request member => still (lined.asked request member)
  · exact fun call phase answer free found => lined.answered call phase answer free ((stages call).symm.trans found)
  · exact fun call phase free found => lined.sent call phase free ((stages call).symm.trans found)
  · rw [errands, due_congr fun request _ => stages request.call]
    exact lined.order
  · rw [errands]
    exact fun call phase free found => lined.ahead call phase free ((stages call).symm.trans found)

/-- The answers of one pass are being heard: nobody who waits for one is in line for a turn. -/
structure Listening (owed opened : List Request) (activity : Activity τ) : Prop extends Lined none owed opened activity where
  alone : .background ∉ activity.errands
  asleep : ∀ call phase, activity.stage? call = some (.sent phase) → .call call ∉ activity.errands

theorem Lined.listens {rest : List Task} (lined : a.Lined none owed opened) (front : a.ready = .background :: rest) :
    Listening owed opened { a with ready := rest } := by
  have errands := errands_front front nofun
  have undue : .background ∉ a.due owed := fun early => by
    obtain ⟨_, -, -, same⟩ := mem_due.mp early
    cases same
  refine ⟨lined.drop front undue, (List.nodup_cons.mp (errands ▸ lined.single)).1, fun call phase sent waits => ?_⟩
  refine lined.ahead call phase nofun sent ?_
  rw [errands]
  exact List.cons_sublist_cons.mpr (List.singleton_sublist.mpr waits)

private theorem Listening.grant_gone {request : Request} (listening : a.Listening owed (request :: opened))
    (gone : a.Gone request.call) : Listening (owed ++ [request]) opened (a.hear (.answer request.call (.ok ()))) := by
  have lined := listening.toLined
  have unheard : a.hear (.answer request.call (.ok ())) = a := by
    unfold hear
    dsimp only
    rw [gone.1]
  have nothing : a.due [request] = [] := by
    unfold due
    rw [List.filter_cons_of_neg (by rw [gone.1]; simp)]
    rfl
  rw [unheard]
  refine ⟨{ lined with
    distinct := ?_, granted := ?_, asked := ?_, answered := ?_, sent := ?_, order := ?_, apart := nofun },
    listening.alone, listening.asleep⟩
  · rw [List.append_assoc]
    exact lined.distinct
  · intro other member
    rcases List.mem_append.mp member with earlier | last
    · exact lined.granted other earlier
    · exact .inl (List.mem_singleton.mp last ▸ gone)
  · exact fun other member => lined.asked other (List.mem_cons_of_mem _ member)
  · intro call phase answer free answered
    rw [List.map_append]
    exact List.mem_append_left _ (lined.answered call phase answer free answered)
  · intro call phase free sent
    refine (List.mem_cons.mp (lined.sent call phase free sent)).resolve_left fun own => ?_
    cases gone.1.symm.trans (own ▸ sent)
  · rw [due_append, nothing, List.append_nil]
    exact lined.order

private theorem hear_sent {phase : Phase} (found : a.stage? call = some (.sent phase)) (asleep : .call call ∉ a.errands)
    (answer : Except Error Unit) :
    (a.hear (.answer call answer)).stage? call = some (.answered phase answer) ∧
      (∀ other, other ≠ call → (a.hear (.answer call answer)).stage? other = a.stage? other) ∧
      (a.hear (.answer call answer)).finished = a.finished ∧
      (a.hear (.answer call answer)).errands = a.errands ++ [.call call] := by
  have heard : a.hear (.answer call answer) = (a.setStage call (.answered phase answer)).wake (.call call) := by
    unfold hear
    dsimp only
    rw [found]
  rw [heard, wake_finished, stage?_wake, stage?_setStage_self found]
  refine ⟨rfl, fun other different => ?_, rfl, ?_⟩
  · rw [stage?_wake, stage?_setStage_other different]
  · exact errands_wake_new (a := a.setStage call (.answered phase answer)) asleep nofun

private theorem Listening.grant_waiting {request : Request} {phase : Phase} (listening : a.Listening owed (request :: opened))
    (asks : phase.request request.call = request) (found : a.stage? request.call = some (.sent phase)) :
    Listening (owed ++ [request]) opened (a.hear (.answer request.call (.ok ()))) := by
  have lined := listening.toLined
  have asleep : .call request.call ∉ a.errands := listening.asleep request.call phase found
  obtain ⟨own, others, finished, errands⟩ := hear_sent found asleep (.ok ())
  generalize a.hear (.answer request.call (.ok ())) = told at own others finished errands ⊢
  have unlisted {other : Request} (member : other ∈ owed ++ opened) : other.call ≠ request.call := by
    intro own
    have apart := List.nodup_middle.mp (List.map_append ▸ lined.distinct)
    exact (List.nodup_cons.mp apart).1 (own ▸ List.map_append ▸ List.mem_map_of_mem member)
  have still {stage : Phase → Stage} {other : Request} (member : other ∈ owed ++ opened)
      (stands : a.StandsAt stage other) : told.StandsAt stage other :=
    stands.of_same (others _ (unlisted member)) fun result => by rw [finished]; exact id
  have foreign {call : Nat} {former : Phase} (sent : told.stage? call = some (.sent former)) :
      call ≠ request.call ∧ a.stage? call = some (.sent former) := by
    have different : call ≠ request.call := fun mine => by cases own.symm.trans (mine ▸ sent)
    exact ⟨different, (others call different).symm.trans sent⟩
  have alone : .background ∉ told.errands := by
    rw [errands, List.mem_append]
    exact fun either => either.elim listening.alone fun last => by cases List.mem_singleton.mp last
  refine ⟨⟨?_, ?_, ?_, ?_, ?_, ?_, ?_, ?_, nofun⟩, alone, ?_⟩
  · rw [List.append_assoc]
    exact lined.distinct
  · rw [errands, ← List.concat_eq_append]
    exact lined.single.concat asleep
  · intro other member
    rcases List.mem_append.mp member with earlier | last
    · exact still (List.mem_append_left opened earlier) (lined.granted other earlier)
    · obtain rfl := List.mem_singleton.mp last
      exact .inr ⟨phase, asks, own⟩
  · exact fun other member => still (List.mem_append_right owed member) (lined.asked other (List.mem_cons_of_mem _ member))
  · intro call former answer free answered
    rw [List.map_append, List.mem_append]
    by_cases mine : call = request.call
    · exact .inr (List.mem_singleton.mpr mine)
    · exact .inl (lined.answered call former answer free ((others call mine).symm.trans answered))
  · intro call former free sent
    obtain ⟨different, before⟩ := foreign sent
    exact (List.mem_cons.mp (lined.sent call former free before)).resolve_left different
  · have last : told.due [request] = [.call request.call] := by
      unfold due
      rw [List.filter_cons_of_pos (by rw [own]; rfl)]
      rfl
    rw [errands, due_append, last, due_congr fun other member => others _ (unlisted (List.mem_append_left _ member))]
    exact lined.order.append (List.Sublist.refl _)
  · exact fun call former _ _ pair => alone (pair.subset List.mem_cons_self)
  · intro call former sent
    obtain ⟨different, before⟩ := foreign sent
    rw [errands, List.mem_append]
    refine fun either => either.elim (listening.asleep call former before) fun last => different ?_
    exact Task.call.inj (List.mem_singleton.mp last)

private theorem Listening.aside (listening : a.Listening owed opened) {signal : Signal Error} (silent : signal.answer? = none)
    (unadmitted : ∀ call, signal ≠ .admitted call) : Listening owed opened (a.hear signal) := by
  have same {b : Activity τ} (calls : b.calls = a.calls) (finished : b.finished = a.finished)
      (errands : b.errands = a.errands) : b.Listening owed opened := by
    refine ⟨listening.toLined.same calls finished errands, errands ▸ listening.alone, fun call phase sent => ?_⟩
    rw [errands]
    refine listening.asleep call phase ?_
    rw [stage?, ← calls]
    exact sent
  cases signal with
  | answer call answer => cases silent
  | admitted call => exact absurd rfl (unadmitted call)
  | observed =>
    unfold hear
    dsimp only
    split
    · exact same (wake_calls _ _) (wake_finished _ _) (errands_wake_pump a)
    · exact listening
  | notice notice => exact same rfl rfl rfl

/-- Requests are granted in the order in which they were made. -/
theorem Listening.hearAll {newly : List Request} (signals : List (Signal Error))
    (answers : signals.filterMap Signal.answer? = newly.map fun request => (request.call, .ok ()))
    (unadmitted : ∀ call, .admitted call ∉ signals) (listening : a.Listening owed (newly ++ opened)) :
    Listening (owed ++ newly) opened (signals.foldl hear a) := by
  induction signals generalizing a owed newly with
  | nil =>
    obtain rfl := List.map_eq_nil_iff.mp answers.symm
    rw [List.append_nil]
    exact listening
  | cons signal signals ih =>
    have silent : ∀ call, .admitted call ∉ signals := fun call member => unadmitted call (List.mem_cons_of_mem _ member)
    cases said : signal.answer? with
    | none =>
      rw [List.filterMap_cons_none said] at answers
      exact ih answers silent (listening.aside said fun call same => unadmitted call (same ▸ List.mem_cons_self))
    | some answer =>
      rw [List.filterMap_cons_some said] at answers
      cases newly with
      | nil => cases answers
      | cons request newly =>
        obtain ⟨rfl, rest⟩ := List.cons.inj answers
        have mine : signal = .answer request.call (.ok ()) := by
          cases signal with
          | answer call result => cases said; rfl
          | _ => cases said
        subst mine
        have granted : Listening (owed ++ [request]) (newly ++ opened) (a.hear (.answer request.call (.ok ()))) := by
          rcases listening.asked request List.mem_cons_self with gone | ⟨phase, asks, found⟩
          · exact listening.grant_gone gone
          · exact listening.grant_waiting asks found
        have heard := ih rest silent granted
        rw [List.append_assoc] at heard
        exact heard

theorem Lined.admitAll (calls : List Nat) (lined : a.Lined none owed opened) (alone : .background ∉ a.errands) :
    Lined none owed opened ((calls.map Signal.admitted).foldl hear a) := by
  induction calls generalizing a with
  | nil => exact lined
  | cons call calls ih =>
    rw [List.map_cons, List.foldl_cons]
    unfold hear
    dsimp only
    split
    · refine ih (lined.wake _ fun _ _ _ _ => alone) ?_
      rcases errands_wake a (.call call) with same | ⟨-, more⟩
      · exact same ▸ alone
      · rw [more, List.mem_append]
        exact fun either => either.elim alone fun last => by cases List.mem_singleton.mp last
    · exact ih lined alone

end

end

section
variable {τ : Type} [Transport τ]

theorem errands_adjustPump (a : Activity τ) : a.adjustPump.errands = a.errands := by
  have stopped : a.stopPump.errands = a.errands := by
    unfold stopPump
    split
    · rfl
    · unfold errands
      dsimp only
      rw [List.filter_filter]
      exact List.filter_congr fun _ _ => Bool.and_self _
  unfold adjustPump
  split
  · exact stopped
  · split
    · rfl
    · exact (errands_wake_pump _).trans stopped

theorem errands_runPump (budget : Nat) (a : Activity τ) : (a.runPump budget).errands = a.errands := by
  induction budget generalizing a with
  | zero =>
    unfold runPump
    split
    · rfl
    · exact errands_wake_pump _
  | succ budget ih =>
    unfold runPump
    split
    · rfl
    next pump _ =>
      have polled : (a.pollPump pump (askSide pump)).2.errands = a.errands := rfl
      split
      next found =>
        rw [found] at polled
        exact polled
      next found =>
        rw [found] at polled
        exact (errands_adjustPump _).trans polled
      next found =>
        rw [found] at polled
        exact (ih _).trans polled
      next found =>
        rw [found] at polled
        exact (errands_adjustPump _).trans polled

theorem errands_begin (a : Activity τ) (step : Step τ)
    (quiet : match step with
      | .openStream | .poll _ | .drain _ | .drop _ | .cut _ => True
      | _ => False) : (a.begin step).2.errands = a.errands := by
  cases step with
  | openStream => rfl
  | poll stream =>
    unfold begin
    dsimp only
    split
    · rfl
    · exact errands_adjustPump _
  | drain stream =>
    unfold begin
    dsimp only
    split
    · rfl
    · exact errands_adjustPump _
  | drop stream => exact errands_adjustPump _
  | cut kind =>
    change (a.cut kind).errands = _
    unfold cut
    split
    · rfl
    · exact errands_wake_pump _
  | _ => exact quiet.elim

end

end Activity

end Subscriber
