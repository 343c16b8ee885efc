import Subscriber.Proofs.Workloads

/-! A session over a connection comes to rest between two steps. Every turn leaves less to be done: its connection does, and a
call sends two commands at most. -/

namespace Subscriber

theorem Phase.rank_bounds (phase : Phase) : 0 < phase.rank ∧ phase.rank ≤ 2 := by
  cases phase <;> simp [rank]

/-- How much a call may bring about from here on: for each command it wakes the connection and is woken, and it may have to
be told that there is room. -/
def Stage.effort : Stage → Nat
  | .starting _ => 8
  | .held phase | .released phase => 4 * phase.rank
  | .sent phase => 4 * (phase.rank - 1) + 1
  | .answered phase _ => 4 * (phase.rank - 1)

/-- A turn of the connection may wake the pump. -/
def Task.effort : Task → Nat
  | .background => 2
  | .call _ | .pump => 1

def Progress.effort : Progress → Nat
  | .finished _ => 0
  | .asking phase => 4 * phase.rank

def Pump.posts : Option Pump → List (Nat × Message.Kind)
  | none => []
  | some pump => [(pump.channels, .channel), (pump.patterns, .pattern)]

namespace Activity
open scoped List

section
variable {τ : Type} {a : Activity τ} {call : Nat} {old : Stage}

def labor (activity : Activity τ) : Nat :=
  (activity.calls.map fun entry => entry.2.effort).sum + (activity.ready.map Task.effort).sum

theorem sum_filter_le {α : Type} (weight : α → Nat) (keeps : α → Bool) (items : List α) :
    ((items.filter keeps).map weight).sum ≤ (items.map weight).sum := by
  induction items with
  | nil => exact Nat.le_refl _
  | cons item items ih =>
    rw [List.filter_cons]
    split <;> (simp only [List.map_cons, List.sum_cons]; omega)

private theorem labor_wake (a : Activity τ) (task : Task) : (a.wake task).labor ≤ a.labor + task.effort := by
  unfold wake
  split
  · exact Nat.le_add_right ..
  · simp only [labor, List.map_append, List.sum_append, List.map_cons, List.map_nil, List.sum_cons, List.sum_nil]
    omega

private theorem labor_setStage (numbered : (a.calls.map Prod.fst).Nodup) (known : a.stage? call = some old) (stage : Stage) :
    (a.setStage call stage).labor + old.effort = a.labor + stage.effort := by
  suffices calls : (((a.setStage call stage).calls).map fun entry => entry.2.effort).sum + old.effort =
      (a.calls.map fun entry => entry.2.effort).sum + stage.effort by
    have ready : (a.setStage call stage).ready = a.ready := rfl
    unfold labor
    rw [ready]
    omega
  unfold stage? at known
  unfold setStage
  dsimp only
  generalize a.calls = calls at numbered known ⊢
  -- The first call with the number is the only one.
  induction calls with
  | nil => cases known
  | cons entry calls ih =>
    obtain ⟨id, found⟩ := entry
    rw [List.map_cons, List.nodup_cons] at numbered
    rw [List.lookup_cons] at known
    simp only [List.map_cons, List.sum_cons]
    by_cases own : id = call
    · subst own
      rw [beq_self_eq_true] at known
      obtain rfl := Option.some.inj known
      have apart : calls.map (fun entry => if entry.1 = id then (id, stage) else entry) = calls := by
        refine (List.map_congr_left fun other member => if_neg fun same => ?_).trans (List.map_id _)
        exact numbered.1 (List.mem_map.mpr ⟨other, member, same⟩)
      rw [apart, if_pos rfl]
      dsimp only
      omega
    · rw [beq_false_of_ne (Ne.symm own)] at known
      have later := ih numbered.2 known
      rw [if_neg own]
      dsimp only
      omega

private theorem labor_forget (known : a.stage? call = some old) : (a.forget call).labor + old.effort ≤ a.labor := by
  have ready := sum_filter_le Task.effort (· != .call call) a.ready
  suffices calls : ((a.calls.filter (·.1 != call)).map fun entry => entry.2.effort).sum + old.effort ≤
      (a.calls.map fun entry => entry.2.effort).sum by
    unfold labor forget
    dsimp only
    omega
  unfold stage? at known
  generalize a.calls = calls at known ⊢
  induction calls with
  | nil => cases known
  | cons entry calls ih =>
    obtain ⟨id, found⟩ := entry
    rw [List.lookup_cons] at known
    by_cases own : id = call
    · subst own
      rw [beq_self_eq_true] at known
      obtain rfl := Option.some.inj known
      have others := sum_filter_le (fun entry : Nat × Stage => entry.2.effort) (·.1 != id) calls
      rw [List.filter_cons_of_neg (by simp)]
      simp only [List.map_cons, List.sum_cons]
      omega
    · rw [beq_false_of_ne (Ne.symm own)] at known
      have later := ih known
      rw [List.filter_cons_of_pos (by simpa using own)]
      simp only [List.map_cons, List.sum_cons]
      omega

private theorem labor_stopPump [Transport τ] (a : Activity τ) : a.stopPump.labor ≤ a.labor := by
  unfold stopPump
  split
  · exact Nat.le_refl _
  · exact Nat.add_le_add_left (sum_filter_le Task.effort (· != .pump) a.ready) _

end

/-- What a session has to do until it rests. -/
def effort (activity : Activity Link) : Nat := activity.labor + activity.transport.effort

/-- Less than there are turns, if only the pump has observers. -/
theorem effort_le_turns {a : Activity Link} (few : a.transport.observers.posts.length ≤ 2) : a.effort ≤ a.turns := by
  have calls : (a.calls.map fun entry => entry.2.effort).sum ≤ 8 * a.calls.length := by
    induction a.calls with
    | nil => exact Nat.le_refl _
    | cons entry calls ih =>
      have one : entry.2.effort ≤ 8 := by
        obtain ⟨-, stage⟩ := entry
        cases stage with
        | starting operation => exact Nat.le_refl _
        | held phase | released phase | sent phase | answered phase answer =>
          have := phase.rank_bounds.2
          simp only [Stage.effort]
          omega
      simp only [List.map_cons, List.sum_cons, List.length_cons]
      omega
  have ready : (a.ready.map Task.effort).sum ≤ 2 * a.ready.length := by
    induction a.ready with
    | nil => exact Nat.le_refl _
    | cons task ready ih =>
      have one : task.effort ≤ 2 := by cases task <;> simp [Task.effort]
      simp only [List.map_cons, List.sum_cons, List.length_cons]
      omega
  have live := a.transport.observers.live_le
  have backlog : Transport.backlog a.transport =
      a.transport.inbound.weight + a.transport.observers.backlog + a.transport.waiting.length := rfl
  unfold effort labor Link.effort Observers.content turns
  rw [backlog]
  omega

section
variable {a b : Activity Link} {call : Nat} {old : Stage} {phase : Phase}

private theorem submit_link_effort {link after : Link} {answer : Option (Except Error Unit)} {verb : Verb} {targets : List Bytes}
    (submitted : Transport.submit link call verb targets = (answer, after)) :
    after.effort ≤ link.effort + if answer.isNone then 1 else 0 := by
  have requested : ((link.request call verb targets).1.map (·.mapError Fault.toError), (link.request call verb targets).2) =
      (answer, after) := submitted
  obtain ⟨rfl, rfl⟩ := Prod.mk.inj requested
  unfold Link.request Link.effort
  split
  · exact Nat.le_add_right ..
  · split
    · exact Nat.le_add_right ..
    · split
      · exact Nat.le_add_right ..
      · simp only [Option.map_none, Option.isNone_none, if_true, List.length_append, List.length_singleton]
        omega

theorem finish_effort (known : a.stage? call = some old) (result : Except Error Unit) :
    (a.finish call result).effort + old.effort ≤ a.effort := by
  have gone := labor_forget known
  have same : (a.finish call result).effort = (a.forget call).labor + a.transport.effort := rfl
  rw [same]
  unfold effort
  omega

theorem restage_effort (numbered : (a.calls.map Prod.fst).Nodup) (known : a.stage? call = some old) (stage : Stage) :
    (a.setStage call stage).effort + old.effort = a.effort + stage.effort := by
  have moved := labor_setStage numbered known stage
  have same : (a.setStage call stage).effort = (a.setStage call stage).labor + a.transport.effort := rfl
  rw [same]
  unfold effort
  omega

theorem wake_effort (a : Activity Link) (task : Task) : (a.wake task).effort ≤ a.effort + task.effort := by
  have woken := labor_wake a task
  unfold effort
  rw [wake_transport]
  omega

theorem submit_effort {a : Activity Link} (numbered : (a.calls.map Prod.fst).Nodup) (known : a.stage? call = some old)
    (phase : Phase) : (a.submit call phase).effort + old.effort ≤ a.effort + 4 * phase.rank := by
  have some := phase.rank_bounds.1
  have whole : a.effort = a.labor + a.transport.effort := rfl
  unfold submit
  split
  next transport submitted =>
    have asked : transport.effort ≤ a.transport.effort + 1 := submit_link_effort submitted
    have begun : effort { a with transport } = a.labor + transport.effort := rfl
    have sent := restage_effort (a := { a with transport }) numbered known (.sent phase)
    have woken := wake_effort (setStage { a with transport } call (.sent phase)) .background
    have stage : (Stage.sent phase).effort = 4 * (phase.rank - 1) + 1 := rfl
    have task : Task.background.effort = 2 := rfl
    omega
  next answer transport submitted =>
    have asked : transport.effort ≤ a.transport.effort := submit_link_effort submitted
    split
    next result session _ =>
      have begun : effort { a with transport, session } = a.labor + transport.effort := rfl
      have finished := finish_effort (a := { a with transport, session }) known result
      omega
    next next session resumed =>
      have lower := Session.resume_rank resumed
      split
      · let gate : Gate := { a.gate with calls := a.gate.calls ++ [call] }
        have begun : effort { a with transport, session, gate } = a.labor + transport.effort := rfl
        have held := restage_effort (a := { a with transport, session, gate }) numbered known (.held next)
        have stage : (Stage.held next).effort = 4 * next.rank := rfl
        change (setStage { a with transport, session, gate } call (.held next)).effort + old.effort ≤ _
        omega
      · have begun : effort { a with transport, session } = a.labor + transport.effort := rfl
        have sent := submit_effort (a := { a with transport, session }) numbered known next
        omega
termination_by phase.rank
decreasing_by exact Session.resume_rank (by assumption)

private theorem proceed_effort (numbered : (a.calls.map Prod.fst).Nodup) (known : a.stage? call = some old) (progress : Progress) :
    (a.proceed call progress).effort + old.effort ≤ a.effort + progress.effort := by
  cases progress with
  | finished result => exact finish_effort known result
  | asking phase =>
    unfold proceed
    dsimp only
    split
    · exact Nat.le_of_eq (restage_effort (a := { a with gate := { a.gate with calls := a.gate.calls ++ [call] } }) numbered
        known (.held phase))
    · exact submit_effort numbered known phase

/-- The pump and nobody else has observers, one of each kind. -/
structure Equipped (activity : Activity Link) : Prop where
  tagged : activity.transport.observers.Tagged
  posts : activity.transport.observers.posts = Pump.posts activity.pump

structure Crewed (activity : Activity Link) : Prop extends Equipped activity where
  aligned : activity.pump.map (·.generation) = activity.session.fanout.pump

theorem Equipped.same (equipped : a.Equipped) (pump : b.pump = a.pump)
    (observers : b.transport.observers = a.transport.observers) : b.Equipped := by
  refine ⟨observers ▸ equipped.tagged, ?_⟩
  rw [observers, pump]
  exact equipped.posts

private theorem Equipped.apart (equipped : a.Equipped) : (a.transport.observers.posts.map Prod.snd).Nodup := by
  rw [equipped.posts]
  cases a.pump with
  | none => exact List.nodup_nil
  | some pump => exact List.nodup_cons.mpr ⟨by simp, List.nodup_singleton _⟩

private theorem Equipped.few (equipped : a.Equipped) : a.transport.observers.posts.length ≤ 2 := by
  rw [equipped.posts]
  cases a.pump with
  | none => exact Nat.zero_le _
  | some pump => exact Nat.le_refl _

theorem Equipped.stopPump (equipped : a.Equipped) :
    a.stopPump.Equipped ∧ a.stopPump.pump = none ∧ a.stopPump.effort ≤ a.effort := by
  have less := labor_stopPump a
  unfold Activity.stopPump at less ⊢
  split
  next none => exact ⟨equipped, none, Nat.le_refl _⟩
  next pump piped =>
    rw [piped] at less
    let observers := a.transport.observers
    have gone : ((observers.release pump.channels).release pump.patterns).posts = [] := by
      rw [Observers.posts_release, Observers.posts_release, equipped.posts, piped]
      simp [Pump.posts]
    have content : ((observers.release pump.channels).release pump.patterns).content ≤ observers.content :=
      Nat.le_trans (Observers.content_release ..) (Observers.content_release ..)
    refine ⟨⟨(equipped.tagged.release pump.channels).release pump.patterns, gone⟩, rfl, ?_⟩
    exact Nat.add_le_add less (Nat.add_le_add_right (Nat.add_le_add_left content _) _)

private theorem Equipped.startPump (equipped : a.Equipped) (stopped : a.pump = none) (generation : Nat) :
    (a.startPump generation).Equipped := by
  have alone : a.transport.observers.members = [] := by
    have posts := equipped.posts
    rw [stopped] at posts
    exact List.map_eq_nil_iff.mp posts
  have observe (link : Link) (kind : Message.Kind) : Transport.observe link kind = link.observe kind := rfl
  unfold Activity.startPump
  simp only [observe, Link.observe_new]
  refine ⟨?_, ?_⟩
  · rw [wake_transport]
    exact (equipped.tagged.opened rfl).opened rfl
  · rw [wake_transport, wake_pump]
    simp [Observers.posts, alone, Pump.posts]

theorem Equipped.adjustPump (equipped : a.Equipped) : a.adjustPump.Crewed := by
  refine ⟨?_, adjustPump_aligned a⟩
  obtain ⟨stopped, none, -⟩ := equipped.stopPump
  unfold Activity.adjustPump
  split
  · exact stopped
  · split
    · exact equipped
    · exact stopped.startPump none _

private theorem Crewed.quits (crewed : a.Crewed) (pump : b.pump = a.pump) (observers : b.transport.observers = a.transport.observers)
    (quits : a.session.fanout.Quits b.session.fanout) : b.adjustPump.Crewed ∧ b.adjustPump.effort ≤ b.effort := by
  have equipped := crewed.toEquipped.same pump observers
  refine ⟨equipped.adjustPump, ?_⟩
  rcases quits with same | cancelled
  · rw [adjustPump_same (by rw [pump, crewed.aligned, same])]
  · have unwanted : b.session.fanout.pump = none := congrArg Fanout.pump cancelled
    unfold Activity.adjustPump
    rw [unwanted]
    exact equipped.stopPump.2.2

private theorem resume_effort (session : Session) (phase : Phase) (answer : Except Error Unit) :
    (session.resume phase answer).1.effort ≤ 4 * (phase.rank - 1) := by
  rcases resumed : session.resume phase answer with ⟨result | next, after⟩
  · exact Nat.zero_le _
  · have lower := Session.resume_rank resumed
    change 4 * next.rank ≤ _
    omega

section
variable {rest : List Task}

theorem effort_front {task : Task} (front : a.ready = task :: rest) :
    effort { a with ready := rest } + task.effort = a.effort := by
  unfold effort labor
  rw [front, List.map_cons, List.sum_cons]
  dsimp only
  omega

private theorem Crewed.runCall (crewed : a.Crewed) (arranged : a.Arranged none) (front : a.ready = .call call :: rest) :
    (Activity.runCall { a with ready := rest } call).Crewed ∧
      (Activity.runCall { a with ready := rest } call).effort < a.effort := by
  have turn : effort { a with ready := rest } + 1 = a.effort := effort_front front
  have went (outcome : Progress × Session) (quits : a.session.fanout.Quits outcome.2.fanout) {old : Stage}
      (known : a.stage? call = some old) (enough : outcome.1.effort ≤ old.effort) :
      (Activity.proceed { a with ready := rest, session := outcome.2 } call outcome.1).adjustPump.Crewed ∧
        (Activity.proceed { a with ready := rest, session := outcome.2 } call outcome.1).adjustPump.effort < a.effort := by
    have detours := proceed_detours { a with ready := rest, session := outcome.2 } call outcome.1
    obtain ⟨after, less⟩ := crewed.quits detours.pump detours.observers (quits.trans detours.quits)
    have cost := proceed_effort (a := { a with ready := rest, session := outcome.2 }) arranged.numbered known outcome.1
    have begun : effort { a with ready := rest, session := outcome.2 } = effort { a with ready := rest } := rfl
    exact ⟨after, by omega⟩
  unfold Activity.runCall
  split
  next operation found =>
    refine went (a.session.start operation) (Session.start_quits a.session operation) found ?_
    cases (a.session.start operation).1 with
    | finished result => exact Nat.zero_le _
    | asking phase =>
      have := phase.rank_bounds.2
      change 4 * phase.rank ≤ 8
      omega
  next phase found =>
    have detours := submit_detours { a with ready := rest } call phase
    obtain ⟨after, less⟩ := crewed.quits detours.pump detours.observers detours.quits
    have cost := submit_effort (a := { a with ready := rest }) arranged.numbered found phase
    have stage : (Stage.released phase).effort = 4 * phase.rank := rfl
    exact ⟨after, by omega⟩
  next phase answer found =>
    exact went (a.session.resume phase answer) (Session.resume_quits a.session phase answer) found
      (resume_effort a.session phase answer)
  · exact ⟨⟨crewed.toEquipped.same rfl rfl, crewed.aligned⟩, by omega⟩

/-- What is to be done, with a turn kept for the pump that may be woken. -/
def restless (activity : Activity Link) : Nat := activity.effort + if .pump ∈ activity.ready then 0 else 1

private theorem restless_wake (a : Activity Link) (task : Task) : (a.wake task).restless ≤ a.restless + task.effort := by
  have woken := wake_effort a task
  unfold restless
  by_cases awake : .pump ∈ a.ready
  · rw [if_pos awake, if_pos (wake_mono awake task)]
    omega
  · rw [if_neg awake]
    split <;> omega

private theorem restless_wake_pump (a : Activity Link) : (a.wake .pump).restless ≤ a.restless := by
  have woken := wake_effort a .pump
  have task : Task.pump.effort = 1 := rfl
  unfold restless
  rw [if_pos (mem_wake a .pump)]
  by_cases awake : .pump ∈ a.ready
  · have same : a.wake .pump = a := by
      unfold wake
      rw [if_pos (List.contains_iff_mem.mpr awake)]
    rw [if_pos awake, same]
  · rw [if_neg awake]
    omega

private theorem hear_restless (numbered : (a.calls.map Prod.fst).Nodup) (signal : Signal Error) :
    (a.hear signal).restless ≤ a.restless + if signal.admits then 1 else 0 := by
  unfold hear
  cases signal with
  | answer call answer =>
    dsimp only
    split
    next phase found =>
      have moved := restage_effort numbered found (.answered phase answer)
      have woken := restless_wake (a.setStage call (.answered phase answer)) (.call call)
      have before : (Stage.sent phase).effort = 4 * (phase.rank - 1) + 1 := rfl
      have after : (Stage.answered phase answer).effort = 4 * (phase.rank - 1) := rfl
      have task : (Task.call call).effort = 1 := rfl
      have same : (a.setStage call (.answered phase answer)).restless =
        (a.setStage call (.answered phase answer)).effort + if .pump ∈ a.ready then 0 else 1 := rfl
      have whole : a.restless = a.effort + if .pump ∈ a.ready then 0 else 1 := rfl
      omega
    · exact Nat.le_add_right ..
  | admitted call =>
    dsimp only
    split
    · exact restless_wake a (.call call)
    · exact Nat.le_add_right ..
  | observed =>
    dsimp only
    split
    · exact restless_wake_pump a
    · exact Nat.le_refl _
  | notice notice => exact Nat.le_refl _

private theorem foldl_hear_restless (arranged : a.Arranged none) (busy : .background ∉ a.errands) (signals : List (Signal Error)) :
    (signals.foldl hear a).restless ≤ a.restless + signals.countP Signal.admits := by
  induction signals generalizing a with
  | nil => exact Nat.le_refl _
  | cons signal signals ih =>
    obtain ⟨heard, still⟩ := arranged.hear busy signal
    have first := hear_restless arranged.numbered signal
    have later := ih heard still
    rw [List.countP_cons]
    change (signals.foldl hear (a.hear signal)).restless ≤ _
    omega

private theorem Crewed.runBackground (crewed : a.Crewed) (arranged : a.Arranged none) (front : a.ready = .background :: rest) :
    (Activity.runBackground { a with ready := rest }).Crewed ∧
      (Activity.runBackground { a with ready := rest }).effort < a.effort := by
  let collected : Activity Link := { a with ready := rest, transport := { a.transport.work with signals := [] } }
  let told := a.transport.work.signals.map (·.mapFault Fault.toError)
  have ran : Activity.runBackground { a with ready := rest } = told.foldl hear collected := rfl
  obtain ⟨aside, fanout, -⟩ := foldl_hear_aside told collected
  have heeds := Link.work_heeds arranged.unclosed
  obtain ⟨begun, busy⟩ := arranged.worked front
  rw [ran]
  refine ⟨⟨⟨?_, ?_⟩, ?_⟩, ?_⟩
  · rw [aside.observers]
    exact crewed.tagged.same heeds.posts.2 heeds.posts.1
  · rw [aside.observers, aside.pump]
    exact heeds.posts.1.trans crewed.posts
  · rw [aside.pump, fanout]
    exact crewed.aligned
  · have heard : (told.foldl hear collected).restless ≤ collected.restless + told.countP Signal.admits :=
      foldl_hear_restless begun busy told
    have counted : told.countP Signal.admits = a.transport.work.signals.countP Signal.admits := by
      rw [List.countP_map]
      exact List.countP_congr fun signal _ => by cases signal <;> rfl
    have worked := Link.work_effort arranged.sound arranged.collected arranged.unclosed crewed.apart
    have turn : effort { a with ready := rest } + 2 = a.effort := effort_front front
    have before : effort { a with ready := rest } = labor { a with ready := rest } + a.transport.effort := rfl
    have after : collected.effort = labor { a with ready := rest } + a.transport.work.effort := rfl
    have least : (told.foldl hear collected).effort ≤ (told.foldl hear collected).restless := Nat.le_add_right ..
    have most : collected.restless ≤ collected.effort + 1 := by
      unfold restless
      split <;> omega
    omega

private theorem askSide_draws {link : Link} (tagged : link.observers.Tagged) (pump : Pump) (side : Side) :
    Poll.Spends link.Drawn link (askSide pump side link) := by
  have polled (id : Nat) : Poll.Spends link.Drawn link (Transport.poll link id) := by
    change Poll.Spends link.Drawn link
      ((link.observers.poll id).1.mapFault _, { link with observers := (link.observers.poll id).2 })
    rcases Observers.content_poll tagged id with ⟨⟨item, found⟩, less⟩ | ⟨nothing, same⟩
    · exact .inl ⟨⟨_, by rw [found]; rfl⟩, _, rfl, less⟩
    · refine .inr ⟨?_, by rw [same]⟩
      intro value
      cases answer : (link.observers.poll id).1 with
      | ready item => exact absurd answer (nothing item)
      | _ => exact nofun
  cases side with
  | left =>
    unfold askSide
    dsimp only
    split
    · exact .inr ⟨nofun, rfl⟩
    · exact polled pump.channels
  | right =>
    unfold askSide
    dsimp only
    split
    · exact .inr ⟨nofun, rfl⟩
    · exact polled pump.patterns

/-- What a poll of the pump comes to: it is still the same pump, and an item that was found is one less to be given. -/
structure Fetched (a : Activity Link) (pump : Pump) (item : Poll (Except Error Message)) (after : Activity Link) : Prop where
  equipped : after.Equipped
  generation : after.pump.map (·.generation) = some pump.generation
  session : after.session = a.session
  ready : after.ready = a.ready
  less : after.effort + (match item with | .ready _ => 1 | _ => 0) = a.effort

private theorem pollPump_fetched (equipped : a.Equipped) {pump : Pump} (piped : a.pump = some pump) :
    Fetched a pump (a.pollPump pump (askSide pump)).1 (a.pollPump pump (askSide pump)).2 := by
  have posts := equipped.posts
  rw [piped] at posts
  have spends := Merge.poll_spends (askSide_draws equipped.tagged pump) pump.merge
  unfold pollPump
  dsimp only
  rcases spends with ⟨⟨item, found⟩, observers, same, less, kept, next⟩ | ⟨nothing, same⟩
  · dsimp only at found same
    rw [found, same]
    refine ⟨⟨equipped.tagged.same next kept, kept.trans posts⟩, rfl, rfl, rfl, ?_⟩
    unfold effort Link.effort
    dsimp only
    change a.labor + _ + 1 = _
    omega
  · dsimp only at same
    rw [same]
    refine ⟨⟨equipped.tagged, posts⟩, rfl, rfl, rfl, ?_⟩
    split
    next item found => exact absurd found (nothing item)
    · rfl

private theorem Equipped.releases (equipped : a.Equipped) {session : Session} (released : session.fanout.pump = none) :
    (Activity.adjustPump { a with session }).Crewed ∧ (Activity.adjustPump { a with session }).effort ≤ a.effort := by
  have equipped : Equipped { a with session } := equipped.same rfl rfl
  refine ⟨equipped.adjustPump, ?_⟩
  unfold Activity.adjustPump
  rw [released]
  exact equipped.stopPump.2.2

private theorem Crewed.runPump_spent (crewed : a.Crewed) : (a.runPump 0).Crewed ∧ (a.runPump 0).effort ≤ a.effort + 1 := by
  unfold Activity.runPump
  split
  · exact ⟨crewed, Nat.le_succ _⟩
  next pump piped =>
    have same : id (pump.merge.poll askNothing a.transport).2.2 = id a.transport :=
      Merge.poll_keeps (fun _ _ => rfl) pump.merge a.transport
    have turned : (a.pollPump pump askNothing).2 = { a with pump := some { pump with
        merge := (pump.merge.poll askNothing a.transport).2.1 } } := by
      unfold pollPump
      dsimp only
      rw [show (pump.merge.poll askNothing a.transport).2.2 = a.transport from same]
    have posts := crewed.posts
    have aligned := crewed.aligned
    rw [piped] at posts aligned
    rw [turned]
    refine ⟨⟨⟨?_, ?_⟩, ?_⟩, wake_effort _ _⟩
    · rw [wake_transport]
      exact crewed.tagged
    · rw [wake_transport, wake_pump]
      exact posts
    · rw [wake_pump, wake_session]
      exact aligned

private theorem Crewed.runPump (crewed : a.Crewed) (budget : Nat) : (a.runPump budget).Crewed ∧
    (a.runPump budget).effort ≤ a.effort + 1 ∧ (0 < budget → (a.runPump budget).effort ≤ a.effort) := by
  induction budget generalizing a with
  | zero =>
    obtain ⟨after, less⟩ := crewed.runPump_spent
    exact ⟨after, less, fun none => absurd none (Nat.lt_irrefl 0)⟩
  | succ budget ih =>
    suffices turn : (a.runPump (budget + 1)).Crewed ∧ (a.runPump (budget + 1)).effort ≤ a.effort from
      ⟨turn.1, Nat.le_succ_of_le turn.2, fun _ => turn.2⟩
    unfold Activity.runPump
    split
    · exact ⟨crewed, Nat.le_refl _⟩
    next pump piped =>
      have fetched := pollPump_fetched crewed.toEquipped piped
      have wanted := crewed.aligned.symm
      rw [piped] at wanted
      have current {between : Activity Link} {item : Poll (Except Error Message)} (fetched : Fetched a pump item between) :
          between.session.fanout.pump = some pump.generation := fetched.session ▸ wanted
      split
      next between found =>
        rw [found] at fetched
        exact ⟨⟨fetched.equipped, fetched.generation.trans (current fetched).symm⟩, Nat.le_of_eq fetched.less⟩
      next between found =>
        rw [found] at fetched
        have released : (between.session.finish pump.generation).fanout.pump = none := by
          unfold Session.finish Fanout.finish
          rw [if_pos (current fetched), if_pos (current fetched)]
          rfl
        obtain ⟨after, less⟩ := fetched.equipped.releases released
        exact ⟨after, Nat.le_trans less (Nat.le_of_eq fetched.less)⟩
      next message between found =>
        rw [found] at fetched
        have running : (between.session.publish pump.generation (.ok message)).fanout.pump = some pump.generation := by
          rw [Session.fanout_publish, Fanout.publish_ok (current fetched)]
          exact current fetched
        have published : Crewed { between with session := between.session.publish pump.generation (.ok message) } :=
          ⟨fetched.equipped.same rfl rfl, fetched.generation.trans running.symm⟩
        obtain ⟨after, less, -⟩ := ih published
        exact ⟨after, Nat.le_trans less (Nat.le_of_eq fetched.less)⟩
      next error between found =>
        rw [found] at fetched
        have released : (between.session.publish pump.generation (.error (.upstream error))).fanout.pump = none := by
          rw [Session.fanout_publish, Fanout.publish_error (current fetched)]
          rfl
        have less : between.effort + 1 = a.effort := fetched.less
        obtain ⟨after, fewer⟩ := fetched.equipped.releases released
        exact ⟨after, Nat.le_trans fewer (Nat.le_of_succ_le (Nat.le_of_eq less))⟩

/-- Every turn leaves less to be done. -/
theorem Crewed.run {task : Task} (crewed : a.Crewed) (arranged : a.Arranged none) (front : a.ready = task :: rest) :
    (Activity.run { a with ready := rest } task).Crewed ∧ (Activity.run { a with ready := rest } task).effort < a.effort := by
  cases task with
  | call call => exact crewed.runCall arranged front
  | background => exact crewed.runBackground arranged front
  | pump =>
    have turn : effort { a with ready := rest } + 1 = a.effort := effort_front front
    have begun : Crewed { a with ready := rest } := ⟨crewed.toEquipped.same rfl rfl, crewed.aligned⟩
    obtain ⟨after, -, less⟩ := begun.runPump pumpTurn
    exact ⟨after, Nat.lt_of_le_of_lt (less (Nat.zero_lt_succ _)) (Nat.lt_of_succ_le (Nat.le_of_eq turn))⟩

/-- Everything is done in as many turns as there is to do. -/
theorem Crewed.settles (crewed : a.Crewed) (arranged : a.Arranged none) {bound : Nat} (enough : a.effort ≤ bound) :
    ∃ count rest, Settles count a rest ∧ count ≤ bound ∧ rest.Crewed ∧ rest.Arranged none := by
  induction bound generalizing a with
  | zero =>
    cases wanting : a.ready with
    | nil => exact ⟨0, a, .rest wanting, Nat.le_refl 0, crewed, arranged⟩
    | cons task ready =>
      have less := (crewed.run arranged wanting).2
      omega
  | succ bound ih =>
    cases wanting : a.ready with
    | nil => exact ⟨0, a, .rest wanting, Nat.zero_le _, crewed, arranged⟩
    | cons task ready =>
      obtain ⟨after, less⟩ := crewed.run arranged wanting
      obtain ⟨count, rest, settles, few, crewed, still⟩ := ih after (arranged.run wanting) (by omega)
      exact ⟨count + 1, rest, .turn wanting settles, Nat.succ_le_succ few, crewed, still⟩

theorem Crewed.begin (crewed : a.Crewed) (step : Step Link) : (a.begin step).2.Crewed := by
  have adjusted (session : Session) : (Activity.adjustPump { a with session }).Crewed :=
    Equipped.adjustPump (crewed.toEquipped.same rfl rfl)
  have aside {b : Activity Link} (past : Aside a b ∧ b.session.fanout = a.session.fanout) : b.Crewed := by
    refine ⟨crewed.toEquipped.same past.1.pump past.1.observers, ?_⟩
    rw [past.1.pump, past.2]
    exact crewed.aligned
  cases step with
  | openStream => exact ⟨crewed.toEquipped.same rfl rfl, crewed.aligned⟩
  | poll stream =>
    cases found : a.session.fanout.stream? stream with
    | none => exact (begin_poll_none found).symm ▸ crewed
    | some attachment => exact (begin_poll_some found).symm ▸ adjusted _
  | drain stream =>
    cases found : a.session.fanout.stream? stream with
    | none => exact (begin_drain_none found).symm ▸ crewed
    | some attachment => exact (begin_drain_some found).symm ▸ adjusted _
  | drop stream => exact adjusted _
  | cut kind =>
    change (a.cut kind).Crewed
    have aligned := crewed.aligned
    have posts := crewed.posts
    unfold cut
    split
    · exact crewed
    next pump piped =>
      rw [piped] at aligned posts
      refine ⟨⟨?_, ?_⟩, ?_⟩
      · rw [wake_transport]
        exact crewed.tagged
      · rw [wake_transport, wake_pump, posts]
        cases kind <;> rfl
      · rw [wake_pump, wake_session, ← aligned]
        cases kind <;> rfl
  | _ => exact aside (begin_aside a _ trivial)

/-- A step comes to its end. -/
theorem Crewed.settle (crewed : a.Crewed) (arranged : a.Arranged none) :
    ∃ count, Settles count a a.settle ∧ count ≤ a.turns ∧ a.settle.Crewed ∧ a.settle.Arranged none := by
  obtain ⟨count, rest, settles, few, crewed', arranged'⟩ := crewed.settles arranged (effort_le_turns crewed.few)
  have ends : a.settle = rest := settles.runTasks few
  exact ends ▸ ⟨count, settles, few, crewed', arranged'⟩

theorem arranged_start (connection : Connection) (queueSize : Nat) :
    Arranged none { transport := Link.ofConnection connection queueSize } := by
  refine ⟨⟨Nat.lt_of_lt_of_le Nat.one_pos (Nat.le_max_right ..), absurd rfl, absurd rfl, nofun⟩, rfl, rfl, List.nodup_nil,
    List.nodup_nil, ?_, ?_, List.nodup_nil, nofun, nofun⟩
  · intro call stage _ found
    cases found
  · intro call phase _ found
    cases found

theorem crewed_start (connection : Connection) (queueSize : Nat) :
    Crewed { transport := Link.ofConnection connection queueSize } :=
  ⟨⟨⟨nofun, List.nodup_nil⟩, rfl⟩, rfl⟩

end

end

end Activity

end Subscriber
