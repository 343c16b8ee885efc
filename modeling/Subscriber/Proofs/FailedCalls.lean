import Subscriber.Proofs.Clearing
import Subscriber.Proofs.Closing
import Subscriber.Proofs.Omissions

/-! Calls that fail. A call whose first command is refused, and one that is given up while that command is held back,
leaves no trace: had nothing been done in the steps that it used up, everything else would have been answered alike. -/

namespace Subscriber

def Phase.opens : Phase → Bool
  | .adding _ _ | .removing _ _ _ => true
  | _ => false

namespace Activity

def perform (activity : Activity Loopback) (script : List (Step Loopback)) : Activity Loopback :=
  script.foldl (fun activity step => (activity.step step).2) activity

def holdsBack (activity : Activity Loopback) (call : Nat) : Bool :=
  match activity.stage? call with
  | some (.held phase) => phase.opens
  | _ => false

/-- The first command of a call is refused, and the call returns with that; or the call is given up while that command is
held back. -/
def Fails (call : Nat) (activity : Activity Loopback) (script : List (Step Loopback)) : Prop :=
  (∃ refusal : Refusal, (call, .error refusal.toError) ∈ (activity.perform script).finished) ∨
  ∃ before after, script = before ++ .abandon call :: after ∧ (activity.perform before).holdsBack call = true

section
variable {call : Nat} {refusal : Option Refusal} {a b : Activity Loopback} {step : Step Loopback}
  {script : List (Step Loopback)}

/-- A call that adds or removes names, once its first command has been accepted. It may have to take back what it has
added, but then it returns for another reason. -/
def Accepted (_ : List Deed) : Progress → Session → Prop
  | .asking phase, _ => ∃ kind targets, phase = .undoing kind targets
  | .finished result, _ => ∀ refusal : Refusal, result ≠ .error refusal.toError

private theorem resume_accepted {phase : Phase} (opens : phase.opens = true) (session : Session) (deeds : List Deed) :
    Accepted deeds (session.resume phase (.ok ())).1 (session.resume phase (.ok ())).2 := by
  cases phase with
  | adding kind targets =>
    unfold Session.resume
    dsimp only
    split
    · exact ⟨kind, targets, rfl⟩
    · exact fun _ same => by cases same
  | removing kind targets sweeping => exact fun _ same => by cases same
  | _ => cases opens

theorem lasting_accepted (deeds : List Deed) (progress : Progress) : Session.Lasting (Accepted deeds progress) := by
  cases progress <;> exact Session.Lasting.const _

theorem path_accepted (operation : Operation) : Session.Path operation (fun _ => False) Accepted := by
  refine ⟨fun _ => False.elim, fun deeds phase session answer asked => ?_⟩
  obtain ⟨kind, targets, rfl⟩ := asked
  exact fun refusal same => by cases same

private theorem submit_accepted {phase : Phase} (opens : phase.opens = true) (willing : a.transport.refusal = none) {stage : Stage}
    (found : a.stage? call = some stage) (unfinished : ∀ result, (call, result) ∉ a.finished) (operation : Operation) :
    ∃ done, Bears operation (fun _ => False) Accepted call done (a.submit call phase) := by
  have accepted := resume_accepted opens a.session []
  let transport : Loopback := { a.transport with commands := a.transport.commands ++ [(phase.verb, phase.targets)] }
  unfold submit
  rw [Loopback.submit_willing willing ⟨call, phase.verb, phase.targets⟩]
  dsimp only
  rcases told : a.session.resume phase (.ok ()) with ⟨result | next, session⟩
  · rw [told] at accepted
    exact ⟨[], bears_finish (a := { a with transport, session }) unfinished result accepted⟩
  · rw [told] at accepted
    dsimp only
    split
    · let lined : Activity Loopback := { a with transport, session, gate := { a.gate with calls := a.gate.calls ++ [call] } }
      exact ⟨[], bears_setStage (a := lined) found unfinished (.held next) accepted⟩
    · exact ⟨_, submit_bears (a := { a with transport, session }) (path_accepted operation) found unfinished next accepted⟩

private theorem perform_moves (a : Activity Loopback) (script : List (Step Loopback)) :
    ∃ list, a.perform script = a.moves list ∧
      ∀ move ∈ list, (∃ task, move = .turn task) ∨ ∃ step ∈ script, move = .step step := by
  induction script generalizing a with
  | nil => exact ⟨[], rfl, fun _ member => absurd member List.not_mem_nil⟩
  | cons step script ih =>
    obtain ⟨tasks, stepped⟩ := step_moves a step
    obtain ⟨list, performed, moves⟩ := ih (a.step step).2
    refine ⟨.step step :: tasks.map .turn ++ list, ?_, fun move member => ?_⟩
    · rw [moves_append, ← stepped]
      exact performed
    · rcases List.mem_append.mp member with now | later
      · rcases List.mem_cons.mp now with rfl | turn
        · exact .inr ⟨step, List.mem_cons_self, rfl⟩
        · obtain ⟨task, -, rfl⟩ := List.mem_map.mp turn
          exact .inl ⟨task, rfl⟩
      · exact (moves move later).imp id fun ⟨other, among, same⟩ => ⟨other, List.mem_cons_of_mem _ among, same⟩

theorem held_of_holdsBack (held : a.holdsBack call = true) :
    ∃ phase, a.stage? call = some (.held phase) ∧ phase.opens = true := by
  unfold holdsBack at held
  split at held
  next phase found => exact ⟨phase, found, held⟩
  · cases held

/-- A call whose command has been accepted does not fail any more. -/
theorem Bears.succeeds {operation : Operation} {done : List Deed} (bears : Bears operation (fun _ => False) Accepted call done a)
    (once : ∀ operation, .call call operation ∉ script) : ¬Fails call a script := by
  have later (list : List (Step Loopback)) (among : ∀ step ∈ list, step ∈ script) :
      ∃ done, Bears operation (fun _ => False) Accepted call done (a.perform list) := by
    obtain ⟨moves, performed, steps⟩ := perform_moves a list
    rw [performed]
    refine ⟨_, moves_bear (path_accepted operation) (Session.Lasting.const False) lasting_accepted moves ?_ bears⟩
    intro move member same
    rcases steps move member with ⟨task, rfl⟩ | ⟨step, there, rfl⟩
    · cases same
    · cases step with
      | call id operation =>
        cases same
        exact once operation (among _ there)
      | _ => cases same
  rintro (⟨refusal, finished⟩ | ⟨before, after, rfl, held⟩)
  · obtain ⟨done, bears⟩ := later script fun _ member => member
    exact bears.ended _ finished refusal rfl
  · obtain ⟨done, bears⟩ := later before fun _ member => List.mem_append_left _ member
    obtain ⟨phase, found, opens⟩ := held_of_holdsBack held
    obtain ⟨⟨kind, targets, rfl⟩, -⟩ := bears.going _ found
    cases opens

theorem once_later (once : ∀ operation, .call call operation ∉ step :: script) (operation : Operation) :
    .call call operation ∉ script := by
  intro member
  exact once operation (List.mem_cons_of_mem _ member)

/-- How far a call that fails has come between two steps. -/
inductive Due (call : Nat) (a : Activity Loopback) (script : List (Step Loopback)) : Prop where
  | unmade (unknown : a.stage? call = none) (unfinished : ∀ result, (call, result) ∉ a.finished)
    (numbered : Numbered (script.map Move.step)) (subscribing : .call call .cancel ∉ script) (fails : Fails call a script)
  | waits (phase : Phase) (opens : phase.opens = true)
    (found : a.stage? call = some (.held phase) ∨ a.stage? call = some (.released phase))
    (unfinished : ∀ result, (call, result) ∉ a.finished) (once : ∀ operation, .call call operation ∉ script)
    (fails : Fails call a script)
  | past (unknown : a.stage? call = none) (once : ∀ operation, .call call operation ∉ script)

/-- A call that fails will still do so after a step, unless it is the one in which it is given up. -/
theorem Fails.next (fails : Fails call a (step :: script)) :
    (step = .abandon call ∧ ∃ phase, a.stage? call = some (.held phase)) ∨ Fails call (a.step step).2 script := by
  rcases fails with finished | ⟨before, after, same, held⟩
  · exact .inr (.inl finished)
  · cases before with
    | nil =>
      obtain ⟨phase, found, -⟩ := held_of_holdsBack held
      exact .inl ⟨(List.cons.inj same).1, phase, found⟩
    | cons first before =>
      obtain ⟨rfl, rfl⟩ := List.cons.inj same
      exact .inr (.inr ⟨before, after, rfl, held⟩)

/-- What a step in which the call has a part comes to. -/
structure Fares (call : Nat) (a after : Activity Loopback) (script : List (Step Loopback)) : Prop where
  besides : Besides call a after
  spends : Spends call a after
  due : Due call after script

private theorem submit_refused {phase : Phase} (opens : phase.opens = true) {refusal : Refusal} (armed : a.transport.refusal = some refusal) :
    a.submit call phase = finish { a with
      transport := { a.transport with refusal := none },
      session := a.session.note (.requestFailed phase.verb refusal.toError) } call (.error refusal.toError) := by
  have executed : Transport.submit a.transport call phase.verb phase.targets =
      (some (.error refusal.toError), { a.transport with refusal := none }) := by
    change (some ((a.transport.execute phase.verb phase.targets).1.mapError Refusal.toError),
      (a.transport.execute phase.verb phase.targets).2) = _
    unfold Loopback.execute
    rw [armed]
    rfl
  have failed : a.session.resume phase (.error refusal.toError) =
      (.finished (.error refusal.toError), a.session.note (.requestFailed phase.verb refusal.toError)) := by
    cases phase with
    | adding kind targets => rfl
    | removing kind targets sweeping => rfl
    | _ => cases opens
  unfold submit
  rw [executed]
  dsimp only
  split
  next told =>
    cases failed.symm.trans told
    rfl
  next told => cases failed.symm.trans told

theorem submit_fares (moored : a.Moored) (quiet : a.ready = []) {calls : List (Nat × Stage)} {gate : Gate}
    (besides : Besides call a { a with calls, gate }) {stage : Stage}
    (found : stage? { a with calls, gate } call = some stage) (unfinished : ∀ result, (call, result) ∉ a.finished)
    {phase : Phase} (opens : phase.opens = true)
    (ran : runCall { a with calls, gate } call = (submit { a with calls, gate } call phase).adjustPump)
    (once : ∀ operation, .call call operation ∉ script)
    (fails : Fails call (settle { a with calls, gate, ready := [.call call] }) script) :
    Fares call a (settle { a with calls, gate, ready := [.call call] }) script := by
  let e : Activity Loopback := { a with calls, gate }
  have turn : run { a with calls, gate, ready := [] } (.call call) = (e.submit call phase).adjustPump := by
    rw [← quiet]
    exact ran
  cases armed : a.transport.refusal with
  | none =>
    obtain ⟨done, accepted⟩ := submit_accepted (a := e) opens armed found unfinished .cancel
    obtain ⟨tasks, settled⟩ := settle_first (a := { e with ready := [.call call] }) rfl
    have others (move : Move Loopback) (member : move ∈ tasks.map Move.turn) : move.call? ≠ some call := by
      obtain ⟨task, -, rfl⟩ := List.mem_map.mp member
      exact (Option.some_ne_none call).symm
    have later := moves_bear (path_accepted .cancel) (Session.Lasting.const False) lasting_accepted _ others accepted.adjusted
    rw [settled, turn] at fails
    exact absurd fails (later.succeeds once)
  | some refusal =>
    let failed : Activity Loopback := { e with
      transport := { a.transport with refusal := none },
      session := a.session.note (.requestFailed phase.verb refusal.toError) }
    have refused : e.submit call phase = failed.finish call (.error refusal.toError) := submit_refused opens armed
    have still : (failed.finish call (.error refusal.toError)).adjustPump = failed.finish call (.error refusal.toError) :=
      adjustPump_same moored.aligned
    rw [refused, still] at turn
    have idle : (failed.finish call (.error refusal.toError)).ready = [] := congrArg (List.filter _) quiet
    have settled : settle { e with ready := [.call call] } = failed.finish call (.error refusal.toError) :=
      (settle_turn rfl (turn ▸ idle)).trans turn
    have beside : Besides call a failed := { besides with session := ⟨_, rfl⟩ }
    have spent : returns call a (failed.finish call (.error refusal.toError)) = true := returns_finish unfinished failed _
    rw [settled]
    exact ⟨beside.finish _, .inr ⟨armed ▸ rfl, rfl, spent⟩, .past (stage?_forget_self failed call) once⟩

private theorem start_opens {session : Session} {operation : Operation} (other : operation ≠ .cancel) {phase : Phase}
    (asked : (session.start operation).1 = .asking phase) : phase.opens = true := by
  have removes {kind : Message.Kind} {targets : List Bytes} {sweeping : Bool}
      (asked : (session.remove kind targets sweeping).1 = .asking phase) : phase.opens = true := by
    unfold Session.remove at asked
    split at asked
    · cases asked
    · cases asked
      trivial
  cases operation with
  | add kind targets =>
    unfold Session.start at asked
    dsimp only at asked
    split at asked
    · cases asked
    · split at asked
      · cases asked
      · cases asked
        trivial
  | remove kind targets =>
    unfold Session.start at asked
    dsimp only at asked
    split at asked
    · cases asked
    · exact removes asked
  | removeAll kind => exact removes asked
  | cancel => exact absurd rfl other

private theorem call_fares (moored : a.Moored) (quiet : a.ready = []) (unknown : a.stage? call = none)
    (unfinished : ∀ result, (call, result) ∉ a.finished) {operation : Operation} (other : operation ≠ .cancel)
    (once : ∀ operation, .call call operation ∉ script) (fails : Fails call (a.step (.call call operation)).2 script) :
    Fares call a (a.step (.call call operation)).2 script := by
  let calls := a.calls ++ [(call, Stage.starting operation)]
  let e : Activity Loopback := { a with calls }
  have apart : calls.filter (·.1 != call) = a.calls.filter (·.1 != call) :=
    filter_self Prod.fst (call, Stage.starting operation) a.calls
  have besides : Besides call a e := { Besides.refl call a with calls := apart }
  have found : e.stage? call = some (.starting operation) := (stage?_calls unknown rfl call).trans (if_pos rfl)
  have begun : (a.step (.call call operation)).2 = settle { e with ready := [.call call] } :=
    congrArg settle (begin_call quiet operation)
  have ran : e.runCall call = (e.proceed call (a.session.start operation).1).adjustPump := by
    rw [runCall_starting found, show e.session = a.session from rfl, Session.start_still other]
  rw [begun] at fails ⊢
  -- What the call does before it sends a command brings no work for anybody.
  have turned {after : Activity Loopback} (proceeds : e.proceed call (a.session.start operation).1 = after)
      (aligned : after.pump.map (·.generation) = after.session.fanout.pump) (idle : after.ready = []) :
      settle { e with ready := [.call call] } = after := by
    have turn : run { e with ready := [] } (.call call) = after := by
      rw [← quiet]
      exact (ran.trans (congrArg adjustPump proceeds)).trans (adjustPump_same aligned)
    exact (settle_turn rfl (turn ▸ idle)).trans turn
  cases started : (a.session.start operation).1 with
  | finished result =>
    rw [turned (congrArg (e.proceed call) started) moored.aligned (congrArg (List.filter _) quiet)]
    exact ⟨besides.finish result, .inl rfl, .past (stage?_forget_self e call) once⟩
  | asking phase =>
    have opens := start_opens other started
    by_cases shut : a.gate.shut = true
    · let held : Activity Loopback :=
        { e with gate := { a.gate with calls := a.gate.calls ++ [call] } }.setStage call (.held phase)
      have proceeds : e.proceed call (.asking phase) = held := if_pos shut
      rw [turned ((congrArg (e.proceed call) started).trans proceeds) moored.aligned quiet] at fails ⊢
      exact ⟨besides.hold phase, .inl rfl, .waits phase opens (.inl (stage?_setStage_self found _)) unfinished once fails⟩
    · have proceeds : e.proceed call (.asking phase) = e.submit call phase := if_neg shut
      rw [started, proceeds] at ran
      exact submit_fares moored quiet besides found unfinished opens ran once fails

private theorem letThrough_fares (moored : a.Moored) (quiet : a.ready = []) {phase : Phase} (opens : phase.opens = true)
    (held : a.stage? call = some (.held phase)) (unfinished : ∀ result, (call, result) ∉ a.finished)
    (once : ∀ operation, .call call operation ∉ script) (fails : Fails call (a.letThrough call).2.settle script) :
    Fares call a (a.letThrough call).2.settle script := by
  let gate : Gate := { a.gate with calls := a.gate.calls.erase call }
  let released : Activity Loopback := { a with gate }.setStage call (.released phase)
  have freed : (a.letThrough call).2 = { released with ready := [.call call] } := by
    unfold letThrough
    rw [held]
    exact wake_quiet (a := released) quiet (.call call)
  have apart : (a.gate.calls.erase call).filter (· != call) = a.gate.calls.filter (· != call) := by
    rw [← List.erase_filter]
    refine List.erase_of_not_mem ?_
    intro member
    exact bne_iff_ne.mp (List.mem_filter.mp member).2 rfl
  have opened : Besides call a { a with gate } := { Besides.refl call a with held := apart }
  have found : released.stage? call = some (.released phase) := stage?_setStage_self (a := { a with gate }) held _
  have ran : released.runCall call = (released.submit call phase).adjustPump := by
    unfold runCall
    rw [found]
  rw [freed] at fails ⊢
  exact submit_fares moored quiet (opened.setStage (.released phase)) found unfinished opens ran once fails

private theorem abandon_fares (quiet : a.ready = []) {stage : Stage} (found : a.stage? call = some stage)
    (once : ∀ operation, .call call operation ∉ script) : Fares call a (a.step (.abandon call)).2 script := by
  have gone : (a.begin (.abandon call)).2 = a.forget call := by
    change (a.abandon call).2 = a.forget call
    unfold abandon
    rw [found]
    rfl
  have idle : (a.forget call).ready = [] := congrArg (List.filter _) quiet
  have settled : (a.step (.abandon call)).2 = a.forget call := (congrArg settle gone).trans (settle_quiet idle)
  rw [settled]
  exact ⟨(Besides.refl call a).forget, .inl rfl, .past (stage?_forget_self a call) once⟩

theorem Due.passes (due : Due call a (step :: script)) (passes : Passes call a (a.step step).2)
    (kept : step = .abandon call → a.stage? call = none) : Due call (a.step step).2 script := by
  have drifted := passes.stage
  have unheard (unfinished : ∀ result, (call, result) ∉ a.finished) (result : Except Error Unit) :
      (call, result) ∉ (a.step step).2.finished := fun member => unfinished result ((passes.finished result).mp member)
  have gone (unknown : a.stage? call = none) : (a.step step).2.stage? call = none := by
    rw [unknown] at drifted
    generalize (a.step step).2.stage? call = stage at drifted ⊢
    cases drifted with
    | none => rfl
  have still (fails : Fails call a (step :: script)) : Fails call (a.step step).2 script := by
    rcases fails.next with ⟨given, phase, held⟩ | fails
    · exact absurd ((kept given).symm.trans held) (Option.some_ne_none _).symm
    · exact fails
  cases due with
  | unmade unknown unfinished numbered subscribing fails =>
    have rest : Numbered (script.map Move.step) := List.Nodup.sublist ((List.sublist_cons_self _ _).filterMap _) numbered
    exact .unmade (gone unknown) (unheard unfinished) rest (fun member => subscribing (List.mem_cons_of_mem _ member))
      (still fails)
  | waits phase opens found unfinished once fails =>
    refine .waits phase opens ?_ (unheard unfinished) (once_later once) (still fails)
    generalize (a.step step).2.stage? call = stage at drifted ⊢
    rcases found with found | found
    · rw [found] at drifted
      cases drifted with
      | some drifts =>
        cases drifts with
        | stays => exact .inl rfl
        | freed => exact .inr rfl
    · rw [found] at drifted
      cases drifted with
      | some drifts =>
        cases drifts with
        | stays => exact .inr rfl
  | past unknown once => exact .past (gone unknown) (once_later once)

private theorem still_fares (due : Due call a (step :: script)) (quiet : a.ready = []) (still : (a.begin step).2 = a)
    (kept : step ≠ .abandon call) : Fares call a (a.step step).2 script := by
  have settled : (a.step step).2 = a := (congrArg settle still).trans (settle_quiet quiet)
  have passes : Passes call a (a.step step).2 := by
    rw [settled]
    exact .refl call a
  have due := due.passes passes fun given => absurd given kept
  rw [settled] at due ⊢
  exact ⟨.refl call a, .inl rfl, due⟩

private theorem through_fares (due : Due call a (step :: script)) (moored : a.Moored) (quiet : a.ready = [])
    (through : a.begin step = a.begin (.letThrough call)) (kept : step ≠ .abandon call) :
    Fares call a (a.step step).2 script := by
  have stepped : (a.step step).2 = (a.letThrough call).2.settle :=
    congrArg (fun begun : Reply × Activity Loopback => begun.2.settle) through
  have nothing (unheld : a.letThrough call = (false, a)) : Fares call a (a.step step).2 script := by
    refine still_fares due quiet ?_ kept
    rw [through]
    exact congrArg Prod.snd unheld
  cases due with
  | unmade unknown => exact nothing (letThrough_unknown unknown)
  | past unknown => exact nothing (letThrough_unknown unknown)
  | waits phase opens found unfinished once fails =>
    rcases found with held | released
    · have later : Fails call (a.step step).2 script := fails.next.resolve_left fun given => kept given.1
      rw [stepped] at later ⊢
      exact letThrough_fares moored quiet opens held unfinished (once_later once) later
    · refine nothing ?_
      unfold letThrough
      rw [released]

private theorem Due.own (due : Due call a (step :: script)) (moored : a.Moored) (quiet : a.ready = [])
    (own : a.concerns call step = true) : Fares call a (a.step step).2 script := by
  cases step with
  | call id operation =>
    obtain rfl : id = call := beq_iff_eq.mp own
    cases due with
    | unmade unknown unfinished numbered subscribing fails =>
      have once (again : Operation) : .call id again ∉ script := by
        intro member
        have apart := (List.nodup_cons.mp numbered).1
        exact apart (List.mem_filterMap.mpr ⟨_, List.mem_map_of_mem member, rfl⟩)
      have other : operation ≠ .cancel := by
        rintro rfl
        exact subscribing List.mem_cons_self
      have later := fails.next.resolve_left fun given => by cases given.1
      exact call_fares moored quiet unknown unfinished other once later
    | waits _ _ _ _ once => exact absurd List.mem_cons_self (once operation)
    | past _ once => exact absurd List.mem_cons_self (once operation)
  | abandon id =>
    obtain ⟨same, known⟩ := Bool.and_eq_true_iff.mp own
    obtain rfl : id = call := beq_iff_eq.mp same
    obtain ⟨stage, found⟩ := Option.isSome_iff_exists.mp known
    cases due with
    | waits _ _ _ _ once => exact abandon_fares quiet found (once_later once)
    | unmade unknown => cases unknown.symm.trans found
    | past unknown => cases unknown.symm.trans found
  | letThrough id =>
    obtain rfl : id = call := beq_iff_eq.mp (Bool.and_eq_true_iff.mp own).1
    exact through_fares due moored quiet rfl fun same => by cases same
  | letFirstThrough =>
    obtain ⟨rest, held⟩ := List.head?_eq_some_iff.mp (beq_iff_eq.mp own)
    have through : a.begin .letFirstThrough = a.begin (.letThrough call) := by
      unfold begin
      rw [held]
    exact through_fares due moored quiet through fun same => by cases same
  | _ => cases own

/-- A run with a call that fails, and the run without it, with the same part of the script to come. -/
structure Without (call : Nat) (a b : Activity Loopback) (script : List (Step Loopback)) : Prop where
  apart : Apart call (a.spared call script) a b
  mine : a.Moored
  yours : b.Moored
  quiet : a.ready = []
  due : Due call a script

def Comes (call : Nat) (a b : Activity Loopback) (step : Step Loopback) (script : List (Step Loopback)) : Prop :=
  let place := if a.usesUp call step script then none else some step
  (b.attempt place).1 = (if place.isNone then .nothing else (a.step step).1) ∧
    Without call (a.step step).2 (b.attempt place).2 script

theorem comes_used (used : a.usesUp call step script = true) (without : Without call (a.step step).2 b script) :
    Comes call a b step script := by
  unfold Comes
  rw [if_pos used]
  exact ⟨rfl, without⟩

theorem comes_kept (kept : a.usesUp call step script = false) (same : (a.step step).1 = (b.step step).1)
    (without : Without call (a.step step).2 (b.step step).2 script) : Comes call a b step script := by
  unfold Comes
  rw [if_neg (ne_true_of_eq_false kept)]
  exact ⟨same.symm, without⟩

/-- A refusal that is armed is armed in both runs, unless it will be spent on the call. -/
theorem Without.arms {armed : Refusal}
    (without : Without call a b (.transport (Loopback.Event.refuseNext armed) :: script)) :
    Comes call a b (.transport (Loopback.Event.refuseNext armed)) script := by
  obtain ⟨apart, mine, yours, quiet, due⟩ := without
  obtain ⟨moored, idle⟩ := step_moored mine (.transport (Loopback.Event.refuseNext armed))
  have told := step_refuseNext quiet armed
  have passes : Passes call a (a.step (.transport (Loopback.Event.refuseNext armed))).2 := by
    rw [told]
    exact .of_eq rfl rfl rfl
  have due := due.passes passes fun given => by cases given
  by_cases spent : (a.step (.transport (Loopback.Event.refuseNext armed))).2.spentOn call script = true
  · have gone := spared_armed (by rw [told]; rfl) spent
    rw [gone] at apart
    refine comes_used ?_ ⟨?_, moored, yours, idle, due⟩
    · exact spent
    · rw [show spared call _ script = none from if_pos spent, told]
      exact { apart with transport := apart.transport }
  · have still : b.ready = [] := by
      rw [apart.ready, quiet]
      rfl
    refine comes_kept ?_ rfl ⟨?_, moored, (step_moored yours _).1, idle, due⟩
    · exact Bool.eq_false_iff.mpr spent
    · rw [show spared call _ script = _ from if_neg spent, told, step_refuseNext still armed]
      refine { apart with transport := ?_ }
      dsimp only
      rw [apart.transport]

/-- A step in which the call has no part is taken in both runs. -/
theorem Without.passes (without : Without call a b (step :: script)) (foreign : a.concerns call step = false)
    (plain : Activity.arms step = false) : Comes call a b step script := by
  obtain ⟨apart, mine, yours, quiet, due⟩ := without
  obtain ⟨moored, idle⟩ := step_moored mine step
  obtain ⟨same, follows⟩ := apart.step mine yours quiet foreign plain
  have passes := step_passes mine quiet foreign plain
  have due : Due call (a.step step).2 script := by
    refine due.passes passes ?_
    intro given
    subst given
    exact unknown_of_abandon foreign
  have kept : a.usesUp call step script = false := by
    unfold usesUp
    rw [foreign, plain, Bool.false_and, Bool.or_false]
  refine comes_kept kept same ⟨?_, moored, (step_moored yours step).1, idle, due⟩
  rcases follows with ⟨waiting, apart⟩ | ⟨spent, apart⟩
  · rwa [← spared_kept waiting]
  · rw [spared_unarmed spent]
    apply apart
    cases waiting : a.transport.refusal with
    | none => exact spared_unarmed waiting
    | some refusal =>
      rw [spared_spent (waiting ▸ rfl) spent, returns_passes passes, if_neg Bool.false_ne_true, waiting]

private theorem Without.next (without : Without call a b (step :: script)) : Comes call a b step script := by
  by_cases own : a.concerns call step = true
  · obtain ⟨besides, spends, due⟩ := without.due.own without.mine without.quiet own
    obtain ⟨moored, idle⟩ := step_moored without.mine step
    refine comes_used ?_ ⟨?_, moored, without.yours, idle, due⟩
    · unfold usesUp
      rw [own, Bool.true_or]
    · rw [← spared_spends spends]
      exact besides.apart without.apart
  · have foreign := Bool.eq_false_iff.mpr own
    cases plain : Activity.arms step with
    | false => exact without.passes foreign plain
    | true =>
      unfold Activity.arms at plain
      split at plain
      · exact without.arms
      · cases plain

private theorem Without.views (without : Without call a b script) :
    b.views (sparing call a script) =
      List.zipWith (View.besides call) (sparing call a script) (a.views (script.map some)) := by
  induction script generalizing a b with
  | nil => rfl
  | cons step script ih =>
    obtain ⟨reply, later⟩ := without.next
    let place := if a.usesUp call step script then none else some step
    have seen : (b.attempt place).2.view (b.attempt place).1 = ((a.step step).2.view (a.step step).1).besides call place :=
      (congrArg (b.attempt place).2.view reply).trans (later.apart.besides place (a.step step).1)
    exact congrArg₂ List.cons seen (ih later)

end

/-- A call that fails leaves no trace: had nothing been done in the steps that it uses up, all else that can be seen
would have been the same. -/
theorem failed_call_leaves_no_trace {script : List (Step Loopback)} {call : Nat}
    (numbered : Numbered (script.map Move.step)) (subscribing : .call call .cancel ∉ script)
    (fails : Fails call { transport := {} } script) :
    views { transport := {} } (sparing call { transport := {} } script) =
      List.zipWith (View.besides call) (sparing call { transport := {} } script)
        (views { transport := {} } (script.map some)) := by
  have moored : Moored { transport := {} } := ⟨rfl, fun _ member => absurd member List.not_mem_nil, List.nodup_nil⟩
  have due : Due call { transport := {} } script :=
    .unmade rfl (fun _ member => absurd member List.not_mem_nil) numbered subscribing fails
  refine Without.views ⟨?_, moored, moored, rfl, due⟩
  rw [spared_unarmed rfl]
  exact ⟨rfl, .refl _, rfl, rfl, rfl, rfl, rfl, rfl⟩

/-- One call is refused when it is let through, behind it another is given up at the gate; between them two refusals are
armed, of which the first counts for nothing. -/
theorem failed_call_leaves_no_trace_twice :
    let script : List (Step Loopback) :=
      [.openStream, .poll 0, .setGate true, .call 3 (.add .channel [[97]]), .call 4 (.remove .pattern [[42]]), .abandon 4,
        .transport (.refuseNext ⟨"lost"⟩), .transport (.refuseNext ⟨"no"⟩), .letFirstThrough, .setGate false,
        .call 10 (.add .channel [[98]]), .transport (.emit (.channel [98] [49])), .drain 0, .call 13 .cancel]
    let quiet : Activity Loopback := { transport := {} }
    Fails 3 quiet script ∧ Fails 4 quiet script ∧
      (sparing 3 quiet script).map Option.isNone =
        [false, false, false, true, false, false, true, true, true, false, false, false, false, false] ∧
      quiet.views (sparing 3 quiet script) =
        List.zipWith (View.besides 3) (sparing 3 quiet script) (quiet.views (script.map some)) ∧
      (sparing 4 quiet script).map Option.isNone =
        [false, false, false, false, true, true, false, false, false, false, false, false, false, false] ∧
      quiet.views (sparing 4 quiet script) =
        List.zipWith (View.besides 4) (sparing 4 quiet script) (quiet.views (script.map some)) := by
  intro script quiet
  have numbered : Numbered (script.map Move.step) := by
    unfold Numbered
    decide +kernel
  have refused : Fails 3 quiet script := .inl ⟨⟨"no"⟩, by decide +kernel⟩
  have abandoned : Fails 4 quiet script := .inr ⟨script.take 5, script.drop 6, rfl, by decide +kernel⟩
  have subscribing : .call 3 .cancel ∉ script := by simp [script]
  have removing : .call 4 .cancel ∉ script := by simp [script]
  exact ⟨refused, abandoned, by decide +kernel, failed_call_leaves_no_trace numbered subscribing refused, by decide +kernel,
    failed_call_leaves_no_trace numbered removing abandoned⟩

end Activity

end Subscriber
