import Subscriber.Proofs.Logging
import Subscriber.Proofs.Resting
import Subscriber.Proofs.ServerAgreement

/-! Doing without a call. What the other calls, the streams and the pump do, they do in the same way when the call is not
there, apart from what is logged. Whether the next command will be refused matters only when one is sent. -/

namespace Subscriber

namespace Activity
open Session (Alike)

/-- The second is the first without a call, and may have another refusal in wait for the next command. -/
structure Apart (call : Nat) (refusal : Option Refusal) (a b : Activity Loopback) : Prop where
  transport : b.transport = { a.transport with refusal }
  session : Alike a.session b.session
  calls : b.calls = a.calls.filter (·.1 != call)
  shut : b.gate.shut = a.gate.shut
  held : b.gate.calls = a.gate.calls.filter (· != call)
  pump : b.pump = a.pump
  ready : b.ready = a.ready.filter (· != .call call)
  finished : b.finished = a.finished.filter (·.1 != call)

theorem filter_concat {α κ : Type} [DecidableEq κ] (key : α → κ) {out : κ} {item : α} (kept : key item ≠ out)
    (items : List α) : items.filter (key · != out) ++ [item] = (items ++ [item]).filter (key · != out) := by
  have stays : (key item != out) = true := bne_iff_ne.mpr kept
  rw [List.filter_append, List.filter_cons, if_pos stays, List.filter_nil]

section
variable {call other : Nat} {refusal : Option Refusal} {a b : Activity Loopback}

theorem Apart.known (apart : Apart call refusal a b) (different : other ≠ call) : b.stage? other = a.stage? other := by
  have forgotten : (a.forget call).stage? other = _ := stage?_forget a call
  rw [if_neg different] at forgotten
  rw [← forgotten]
  exact congrArg (List.lookup other) apart.calls

theorem Apart.unknown (apart : Apart call refusal a b) : b.stage? call = none := by
  rw [← stage?_forget_self a call]
  exact congrArg (List.lookup call) apart.calls

theorem Apart.wake (apart : Apart call refusal a b) {task : Task} (foreign : task ≠ .call call) :
    Apart call refusal (a.wake task) (b.wake task) := by
  have kept : (task != .call call) = true := bne_iff_ne.mpr foreign
  have wanted : b.ready.contains task = a.ready.contains task := by
    rw [apart.ready, Bool.eq_iff_iff, List.contains_iff_mem, List.contains_iff_mem, List.mem_filter]
    exact and_iff_left kept
  unfold Activity.wake
  rw [wanted]
  split
  · exact apart
  · exact { apart with ready := (congrArg (· ++ [task]) apart.ready).trans (filter_concat id foreign _) }

theorem Apart.setStage (apart : Apart call refusal a b) (other : Nat) (stage : Stage) :
    Apart call refusal (a.setStage other stage) (b.setStage other stage) := by
  refine { apart with calls := ?_ }
  change b.calls.map _ = (a.calls.map _).filter _
  rw [apart.calls, List.filter_map]
  congr 1
  refine List.filter_congr fun entry _ => ?_
  dsimp only [Function.comp]
  split
  next own => rw [own]
  next => rfl

theorem Apart.forget (apart : Apart call refusal a b) (other : Nat) :
    Apart call refusal (a.forget other) (b.forget other) := by
  refine { apart with calls := ?_, held := ?_, ready := ?_ }
  · exact (congrArg (List.filter _) apart.calls).trans (List.filter_comm ..)
  · exact (congrArg (List.filter _) apart.held).trans (List.filter_comm ..)
  · exact (congrArg (List.filter _) apart.ready).trans (List.filter_comm ..)

theorem Apart.finish (apart : Apart call refusal a b) (different : other ≠ call) (result : Except Error Unit) :
    Apart call refusal (a.finish other result) (b.finish other result) :=
  { apart.forget other with
    finished := (congrArg (· ++ [(other, result)]) apart.finished).trans (filter_concat Prod.fst different _) }

theorem Apart.hold (apart : Apart call refusal a b) (different : other ≠ call) (phase : Phase) :
    Apart call refusal
      ({ a with gate := { a.gate with calls := a.gate.calls ++ [other] } }.setStage other (.held phase))
      ({ b with gate := { b.gate with calls := b.gate.calls ++ [other] } }.setStage other (.held phase)) := by
  have lined : Apart call refusal { a with gate := { a.gate with calls := a.gate.calls ++ [other] } }
      { b with gate := { b.gate with calls := b.gate.calls ++ [other] } } :=
    { apart with held := (congrArg (· ++ [other]) apart.held).trans (filter_concat id different _) }
  exact lined.setStage other (.held phase)

private theorem Apart.stopPump (apart : Apart call refusal a b) : Apart call refusal a.stopPump b.stopPump := by
  unfold Activity.stopPump
  rw [apart.pump]
  split
  · exact apart
  next pump _ =>
    refine { apart with transport := ?_, pump := rfl, ready := ?_ }
    · dsimp only
      rw [apart.transport]
      rfl
    · exact (congrArg (List.filter _) apart.ready).trans (List.filter_comm ..)

private theorem Apart.startPump (apart : Apart call refusal a b) (generation : Nat) :
    Apart call refusal (a.startPump generation) (b.startPump generation) := by
  unfold Activity.startPump
  rw [apart.transport]
  refine Apart.wake ?_ Task.noConfusion
  exact { apart with transport := rfl, pump := rfl }

theorem Apart.adjustPump (apart : Apart call refusal a b) : Apart call refusal a.adjustPump b.adjustPump := by
  unfold Activity.adjustPump
  rw [apart.session.fanout, apart.pump]
  split
  · exact apart.stopPump
  · split
    · exact apart
    · exact apart.stopPump.startPump _

/-- The second has followed the first: without a command it does not matter whether the next one will be refused, and a
command is taken alike if it is the same refusal that waits for it. -/
def Follows (call : Nat) (refusal : Option Refusal) (before after b : Activity Loopback) : Prop :=
  after.transport.refusal = before.transport.refusal ∧ Apart call refusal after b ∨
  after.transport.refusal = none ∧ (refusal = before.transport.refusal → Apart call none after b)

/-- A command takes the refusal that waits for it, if there is one. -/
theorem Loopback.submit_spends {loopback after : Loopback} {call : Nat} {verb : Verb} {targets : List Bytes}
    {answer : Option (Except Error Unit)} (submitted : Transport.submit loopback call verb targets = (answer, after)) :
    answer ≠ none ∧ after.refusal = none := by
  have executed : (some ((loopback.execute verb targets).1.mapError Refusal.toError), (loopback.execute verb targets).2) =
    (answer, after) := submitted
  obtain ⟨rfl, rfl⟩ := Prod.mk.inj executed
  refine ⟨Option.some_ne_none _, ?_⟩
  unfold Loopback.execute
  split
  · rfl
  next unarmed => exact unarmed

theorem submit_refusal (a : Activity Loopback) (call : Nat) (phase : Phase) :
    (a.submit call phase).transport.refusal = none := by
  unfold submit
  split
  next unanswered => exact absurd rfl (Loopback.submit_spends unanswered).1
  next answer transport submitted =>
    have spent : transport.refusal = none := (Loopback.submit_spends submitted).2
    split
    · exact spent
    next next session _ =>
      split
      · exact spent
      · exact submit_refusal { a with transport, session } call next
termination_by phase.rank
decreasing_by exact Session.resume_rank (by assumption)

theorem Apart.submit {refusal : Option Refusal} {a b : Activity Loopback} (apart : Apart call refusal a b)
    (same : refusal = a.transport.refusal) (different : other ≠ call) (phase : Phase) :
    Apart call none (a.submit other phase) (b.submit other phase) := by
  have transport : b.transport = a.transport := apart.transport.trans (same ▸ rfl)
  unfold Activity.submit
  rw [transport]
  rcases submitted : Transport.submit a.transport other phase.verb phase.targets with ⟨_ | answer, after⟩
  · exact absurd rfl (Loopback.submit_spends submitted).1
  · have spent : after.refusal = none := (Loopback.submit_spends submitted).2
    obtain ⟨progress, alike⟩ := apart.session.resume phase answer
    dsimp only
    rcases mine : a.session.resume phase answer with ⟨result | next, session⟩
    all_goals
      rcases yours : b.session.resume phase answer with ⟨again, follower⟩
      rw [mine, yours] at progress alike
      cases progress
      have moved : Apart call none { a with transport := after, session } { b with transport := after, session := follower } :=
        { apart with transport := spent ▸ rfl, session := alike }
    · exact moved.finish different result
    · dsimp only
      by_cases shut : a.gate.shut = true
      · rw [if_pos shut, if_pos (apart.shut.trans shut)]
        exact moved.hold different next
      · rw [if_neg shut, if_neg fun held => shut (apart.shut.symm.trans held)]
        exact moved.submit spent.symm different next
termination_by phase.rank
decreasing_by exact Session.resume_rank (by assumption)

private theorem Apart.proceed (apart : Apart call refusal a b) (different : other ≠ call) (progress : Progress) :
    Follows call refusal a (a.proceed other progress) (b.proceed other progress) := by
  unfold Activity.proceed
  cases progress with
  | finished result => exact .inl ⟨rfl, apart.finish different result⟩
  | asking phase =>
    dsimp only
    by_cases shut : a.gate.shut = true
    · rw [if_pos shut, if_pos (apart.shut.trans shut)]
      exact .inl ⟨rfl, apart.hold different phase⟩
    · rw [if_neg shut, if_neg fun held => shut (apart.shut.symm.trans held)]
      exact .inr ⟨submit_refusal a other phase, fun same => apart.submit same different phase⟩

private theorem Follows.adjustPump {before after : Activity Loopback} (follows : Follows call refusal before after b) :
    Follows call refusal before after.adjustPump b.adjustPump := by
  unfold Follows
  rw [adjustPump_refusal]
  exact follows.imp (And.imp_right Apart.adjustPump) (And.imp_right fun apart same => (apart same).adjustPump)

private theorem Apart.runCall (apart : Apart call refusal a b) (different : other ≠ call) :
    Follows call refusal a (a.runCall other) (b.runCall other) := by
  have went {mine yours : Progress × Session} (same : yours.1 = mine.1) (alike : Alike mine.2 yours.2) :
      Follows call refusal a (({ a with session := mine.2 } : Activity Loopback).proceed other mine.1).adjustPump
        (({ b with session := yours.2 } : Activity Loopback).proceed other yours.1).adjustPump := by
    have begun : Apart call refusal { a with session := mine.2 } { b with session := yours.2 } :=
      { apart with session := alike }
    rw [same]
    exact (begun.proceed different mine.1).adjustPump
  unfold Activity.runCall
  rw [apart.known different]
  split
  next operation _ =>
    obtain ⟨same, alike⟩ := apart.session.start operation
    exact went same alike
  next phase _ =>
    have sent : Follows call refusal a (a.submit other phase) (b.submit other phase) :=
      .inr ⟨submit_refusal a other phase, fun same => apart.submit same different phase⟩
    exact sent.adjustPump
  next phase answer _ =>
    obtain ⟨same, alike⟩ := apart.session.resume phase answer
    exact went same alike
  · exact .inl ⟨rfl, apart⟩

private theorem Apart.pollPump (apart : Apart call refusal a b) (pump : Pump)
    {ask : Side → Loopback → Poll (Except Error Message) × Loopback}
    (asked : ∀ side loopback, ask side { loopback with refusal } =
      ((ask side loopback).1, { (ask side loopback).2 with refusal })) :
    (a.pollPump pump ask).1 = (b.pollPump pump ask).1 ∧
      Apart call refusal (a.pollPump pump ask).2 (b.pollPump pump ask).2 := by
  have answers (side : Side) (source twin : Loopback) (same : twin = { source with refusal }) :
      (ask side source).1 = (ask side twin).1 ∧ (ask side twin).2 = { (ask side source).2 with refusal } := by
    rw [same, asked]
    exact ⟨rfl, rfl⟩
  obtain ⟨item, merge, after⟩ := Merge.poll_alike answers pump.merge apart.transport
  unfold Activity.pollPump
  refine ⟨item, { apart with transport := after, pump := ?_ }⟩
  dsimp only
  rw [merge]

private theorem askSide_refusal (pump : Pump) (side : Side) (loopback : Loopback) :
    askSide pump side { loopback with refusal } =
      ((askSide pump side loopback).1, { (askSide pump side loopback).2 with refusal }) := by
  unfold askSide
  cases side with
  | left =>
    dsimp only
    split <;> rfl
  | right =>
    dsimp only
    split <;> rfl

private theorem Apart.runPump (apart : Apart call refusal a b) (budget : Nat) :
    Apart call refusal (a.runPump budget) (b.runPump budget) := by
  induction budget generalizing a b with
  | zero =>
    unfold Activity.runPump
    rw [apart.pump]
    split
    · exact apart
    next pump _ => exact (apart.pollPump pump fun _ _ => rfl).2.wake Task.noConfusion
  | succ budget ih =>
    unfold Activity.runPump
    rw [apart.pump]
    split
    · exact apart
    next pump _ =>
      obtain ⟨item, polled⟩ := apart.pollPump pump (askSide_refusal pump)
      rcases mine : a.pollPump pump (askSide pump) with ⟨found, next⟩
      rcases yours : b.pollPump pump (askSide pump) with ⟨again, follower⟩
      rw [mine, yours] at item polled
      cases item
      cases found with
      | pending => exact polled
      | ended =>
        have ended : Apart call refusal { next with session := next.session.finish pump.generation }
            { follower with session := follower.session.finish pump.generation } :=
          { polled with session := polled.session.finish pump.generation }
        exact ended.adjustPump
      | ready outcome =>
        cases outcome with
        | ok message =>
          refine ih ?_
          exact { polled with session := polled.session.publish pump.generation (.ok message) }
        | error error =>
          have failed : Apart call refusal
              { next with session := next.session.publish pump.generation (.error (.upstream error)) }
              { follower with session := follower.session.publish pump.generation (.error (.upstream error)) } :=
            { polled with session := polled.session.publish pump.generation (.error (.upstream error)) }
          exact failed.adjustPump

private theorem Apart.run (apart : Apart call refusal a b) {task : Task} (foreign : task ≠ .call call) :
    Follows call refusal a (a.run task) (b.run task) := by
  cases task with
  | call other => exact apart.runCall fun same => foreign (congrArg Task.call same)
  | background => exact .inl ⟨rfl, apart⟩
  | pump => exact .inl ⟨(runPump_delivers Loopback.steady_refusal pumpTurn a).transport, apart.runPump pumpTurn⟩

private theorem Follows.trans {before between after : Activity Loopback} {c : Activity Loopback}
    (first : Follows call refusal before between b)
    (second : ∀ refusal, Apart call refusal between b → Follows call refusal between after c)
    (unarmed : between.transport.refusal = none → after.transport.refusal = none) :
    Follows call refusal before after c := by
  rcases first with ⟨kept, apart⟩ | ⟨spent, apart⟩
  · have later := second refusal apart
    unfold Follows at later ⊢
    rw [← kept]
    exact later
  · refine .inr ⟨unarmed spent, ?_⟩
    intro same
    rcases second none (apart same) with ⟨-, later⟩ | ⟨-, later⟩
    · exact later
    · exact later spent.symm

private theorem runTasks_unrefused (turns : Nat) (unrefused : a.transport.refusal = none) :
    (runTasks turns a).transport.refusal = none := by
  induction turns generalizing a with
  | zero => exact unrefused
  | succ turns ih =>
    unfold runTasks
    split
    · exact unrefused
    next task ready _ => exact ih (run_unrefused { a with ready } unrefused task)

private theorem filter_absent {ready : List Task} (absent : .call call ∉ ready) : ready.filter (· != .call call) = ready := by
  refine List.filter_eq_self.mpr fun task member => bne_iff_ne.mpr ?_
  rintro rfl
  exact absent member

theorem run_absent (moored : a.Moored) (absent : .call call ∉ a.ready) (task : Task) :
    (a.run task).Moored ∧ .call call ∉ (a.run task).ready := by
  obtain ⟨after, eases⟩ := run_moored moored task
  refine ⟨after, ?_⟩
  intro wants
  rcases eases.ready (.call call) wants with old | own
  · exact absent old
  · cases own

/-- As long as the call does not want a turn, the others take theirs in the same order without it. -/
theorem Apart.runTasks (apart : Apart call refusal a b) (moored : a.Moored) (absent : .call call ∉ a.ready) (turns : Nat) :
    Follows call refusal a (runTasks turns a) (runTasks turns b) := by
  induction turns generalizing refusal a b with
  | zero => exact .inl ⟨rfl, apart⟩
  | succ turns ih =>
    unfold Activity.runTasks
    rw [apart.ready, filter_absent absent]
    cases wanting : a.ready with
    | nil => exact .inl ⟨rfl, apart⟩
    | cons task ready =>
      rw [wanting] at absent
      obtain ⟨foreign, rest⟩ := List.ne_and_not_mem_of_not_mem_cons absent
      have taken : Apart call refusal { a with ready } { b with ready } :=
        { apart with ready := (filter_absent rest).symm }
      obtain ⟨after, gone⟩ := run_absent (a := { a with ready }) ⟨moored.aligned, moored.tagged⟩ rest task
      exact (taken.run foreign.symm).trans (fun _ apart => ih apart after gone) (runTasks_unrefused turns)

private theorem Apart.settle (apart : Apart call refusal a b) (mine : a.Moored) (yours : b.Moored) (absent : .call call ∉ a.ready) :
    Follows call refusal a a.settle b.settle := by
  rw [← mine.settle.2.2 (a.load + b.load) (Nat.le_add_right _ _), ← yours.settle.2.2 (a.load + b.load) (Nat.le_add_left _ _)]
  exact apart.runTasks mine absent _

/-- The steps in which a call has a part: it is made or given up, or its command is let through. -/
def concerns (call : Nat) (activity : Activity Loopback) : Step Loopback → Bool
  | .call id _ => id == call
  | .abandon id => id == call && (activity.stage? call).isSome
  | .letThrough id => id == call && (activity.letThrough call).1
  | .letFirstThrough => activity.gate.calls.head? == some call
  | _ => false

theorem unknown_of_abandon (foreign : a.concerns call (.abandon call) = false) : a.stage? call = none := by
  change (call == call && (a.stage? call).isSome) = false at foreign
  rwa [beq_self_eq_true, Bool.true_and, Option.isSome_eq_false_iff, Option.isNone_iff_eq_none] at foreign

theorem nobody_of_letThrough (foreign : a.concerns call (.letThrough call) = false) : (a.letThrough call).1 = false := by
  change (call == call && (a.letThrough call).1) = false at foreign
  rwa [beq_self_eq_true, Bool.true_and] at foreign

theorem other_of_letFirst (foreign : a.concerns call .letFirstThrough = false) {first : Nat} {later : List Nat}
    (held : a.gate.calls = first :: later) : first ≠ call := by
  change (a.gate.calls.head? == some call) = false at foreign
  rw [held] at foreign
  intro same
  exact beq_eq_false_iff_ne.mp foreign (congrArg some same)

def arms : Step Loopback → Bool
  | .transport (Loopback.Event.refuseNext _) => true
  | _ => false

theorem letThrough_unknown {τ : Type} {a : Activity τ} (unknown : a.stage? call = none) : a.letThrough call = (false, a) := by
  unfold letThrough
  rw [unknown]

private theorem Apart.letThrough (apart : Apart call refusal a b) (different : other ≠ call) :
    (a.letThrough other).1 = (b.letThrough other).1 ∧ Apart call refusal (a.letThrough other).2 (b.letThrough other).2 := by
  unfold Activity.letThrough
  rw [apart.known different]
  split
  next phase _ =>
    let mine : Activity Loopback := { a with gate := { a.gate with calls := a.gate.calls.erase other } }
    let yours : Activity Loopback := { b with gate := { b.gate with calls := b.gate.calls.erase other } }
    have opened : Apart call refusal mine yours :=
      { apart with held := (congrArg (List.erase · other) apart.held).trans (List.erase_filter ..) }
    have released := opened.setStage other (.released phase)
    exact ⟨rfl, released.wake fun same => different (Task.call.inj same)⟩
  · exact ⟨rfl, apart⟩

theorem letThrough_nobody {τ : Type} {a : Activity τ} (nobody : (a.letThrough other).1 = false) :
    a.letThrough other = (false, a) := by
  unfold letThrough at nobody ⊢
  split at nobody
  · cases nobody
  · rfl

private theorem Apart.told (apart : Apart call refusal a b) (event : Loopback.Event) (plain : arms (.transport event) = false) :
    Apart call refusal (a.affect event) (b.affect event) := by
  have heard {a b : Activity Loopback} (apart : Apart call refusal a b) {signals : List (Signal Error)}
      (some : signals = [] ∨ signals = [.observed]) : Apart call refusal (signals.foldl hear a) (signals.foldl hear b) := by
    rcases some with rfl | rfl
    · exact apart
    · change Apart call refusal (a.hear .observed) (b.hear .observed)
      unfold hear
      dsimp only
      rw [apart.pump]
      split
      · exact apart.wake Task.noConfusion
      · exact apart
  have signals (kind : Message.Kind) : a.transport.observed kind = [] ∨ a.transport.observed kind = [.observed] := by
    unfold Loopback.observed
    exact ite_eq_or_eq ..
  have met (observers : Observers Refusal) : Apart call refusal { a with transport := { a.transport with observers } }
      { b with transport := { a.transport with refusal, observers } } := { apart with transport := rfl }
  unfold affect
  rw [apart.transport]
  refine Apart.wake ?_ Task.noConfusion
  cases event with
  | refuseNext refusal => cases plain
  | emit message => exact heard (met (a.transport.observers.deliver message)) (signals message.kind)
  | fail kind fault => exact heard (met (a.transport.observers.fail kind fault)) (signals kind)

private theorem Apart.start (apart : Apart call refusal a b) (different : other ≠ call) (operation : Operation) :
    Apart call refusal (a.start other operation) (b.start other operation) := by
  have listed : Apart call refusal { a with calls := a.calls ++ [(other, .starting operation)] }
      { b with calls := b.calls ++ [(other, .starting operation)] } :=
    { apart with calls := (congrArg (· ++ [(other, _)]) apart.calls).trans (filter_concat Prod.fst different _) }
  exact listed.wake fun same => different (Task.call.inj same)

private theorem Apart.abandon (apart : Apart call refusal a b) (foreign : a.concerns call (.abandon other) = false) :
    (a.abandon other).1 = (b.abandon other).1 ∧ Apart call refusal (a.abandon other).2 (b.abandon other).2 := by
  unfold Activity.abandon
  by_cases own : other = call
  · subst own
    rw [unknown_of_abandon foreign, apart.unknown]
    exact ⟨rfl, apart⟩
  · rw [apart.known own]
    split
    · exact ⟨rfl, apart⟩
    · exact ⟨rfl, apart.forget other⟩

private theorem Apart.cut (apart : Apart call refusal a b) (kind : Message.Kind) :
    Apart call refusal (a.cut kind) (b.cut kind) := by
  unfold Activity.cut
  rw [apart.pump]
  split
  · exact apart
  · refine Apart.wake ?_ Task.noConfusion
    exact { apart with pump := rfl }

private theorem Apart.attend (apart : Apart call refusal a b) {mine yours : Session} (alike : Alike mine yours) :
    Apart call refusal (Activity.adjustPump { a with session := mine }) (Activity.adjustPump { b with session := yours }) := by
  have attended : Apart call refusal { a with session := mine } { b with session := yours } := { apart with session := alike }
  exact attended.adjustPump

private theorem Apart.begin (apart : Apart call refusal a b) (step : Step Loopback) (foreign : a.concerns call step = false)
    (plain : arms step = false) :
    (a.begin step).1 = (b.begin step).1 ∧ Apart call refusal (a.begin step).2 (b.begin step).2 := by
  cases step with
  | call id operation => exact ⟨rfl, apart.start (beq_eq_false_iff_ne.mp foreign) operation⟩
  | abandon id =>
    obtain ⟨same, after⟩ := apart.abandon foreign
    exact ⟨congrArg Reply.known same, after⟩
  | openStream =>
    have fanout := apart.session.fanout
    obtain ⟨notices, session⟩ := apart.session
    refine ⟨congrArg (fun fanout => Reply.stream (Fanout.openStream fanout).1) fanout.symm,
      { apart with session := ⟨notices, ?_⟩ }⟩
    change { b.session with fanout := b.session.fanout.openStream.2 } = _
    rw [session]
    rfl
  | poll stream =>
    obtain ⟨same, polled⟩ := apart.session.poll stream
    unfold Activity.begin
    dsimp only
    rw [apart.session.fanout]
    split
    · exact ⟨rfl, apart⟩
    · exact ⟨congrArg Reply.item same.symm, apart.attend polled⟩
  | drain stream =>
    obtain ⟨items, last, drained⟩ := apart.session.drainOnto [] (a.session.fanout.backlog stream) stream
    unfold Activity.begin Session.drain
    dsimp only
    rw [apart.session.fanout]
    split
    · exact ⟨rfl, apart⟩
    · exact ⟨congrArg₂ Reply.items items.symm last.symm, apart.attend drained⟩
  | drop stream => exact ⟨rfl, apart.attend (apart.session.drop stream)⟩
  | setGate shut => exact ⟨rfl, { apart with shut := rfl }⟩
  | letThrough id =>
    by_cases own : id = call
    · subst own
      change Reply.known (a.letThrough id).1 = .known (b.letThrough id).1 ∧
        Apart id refusal (a.letThrough id).2 (b.letThrough id).2
      rw [letThrough_nobody (nobody_of_letThrough foreign), letThrough_unknown apart.unknown]
      exact ⟨rfl, apart⟩
    · obtain ⟨same, after⟩ := apart.letThrough own
      exact ⟨congrArg Reply.known same, after⟩
  | letFirstThrough =>
    have held := apart.held
    unfold Activity.begin
    dsimp only
    cases waiting : a.gate.calls with
    | nil =>
      rw [waiting] at held
      rw [held]
      exact ⟨rfl, apart⟩
    | cons first later =>
      have different := other_of_letFirst foreign waiting
      rw [waiting, List.filter_cons, if_pos (bne_iff_ne.mpr different)] at held
      rw [held]
      obtain ⟨same, after⟩ := apart.letThrough different
      exact ⟨congrArg Reply.known same, after⟩
  | cut kind => exact ⟨rfl, apart.cut kind⟩
  | transport event => exact ⟨rfl, apart.told event plain⟩

/-- A step that neither has to do with the call nor arms a refusal. -/
structure Aloof (call : Nat) (before after : Activity Loopback) : Prop where
  refusal : after.transport.refusal = before.transport.refusal
  absent : .call call ∉ before.ready → .call call ∉ after.ready

theorem Aloof.of_eq (transport : b.transport.refusal = a.transport.refusal) (ready : b.ready = a.ready) : Aloof call a b :=
  ⟨transport, fun absent => ready ▸ absent⟩

theorem Aloof.wake (aloof : Aloof call a b) {task : Task} (foreign : task ≠ .call call) : Aloof call a (b.wake task) := by
  refine ⟨(congrArg Loopback.refusal (wake_transport b task)).trans aloof.refusal, ?_⟩
  intro absent wants
  unfold Activity.wake at wants
  split at wants
  · exact aloof.absent absent wants
  · rcases List.mem_append.mp wants with old | own
    · exact aloof.absent absent old
    · exact foreign (List.mem_singleton.mp own).symm

private theorem Aloof.adjustPump (aloof : Aloof call a b) : Aloof call a b.adjustPump := by
  refine ⟨(adjustPump_refusal b).trans aloof.refusal, ?_⟩
  intro absent wants
  rcases (adjustPump_eases b).ready (.call call) wants with old | own
  · exact aloof.absent absent old
  · cases own

private theorem letThrough_aloof (a : Activity Loopback) (different : other ≠ call) : Aloof call a (a.letThrough other).2 := by
  have foreign : Task.call other ≠ .call call := fun same => different (Task.call.inj same)
  unfold letThrough
  split
  next phase _ =>
    have released : Aloof call a (setStage { a with gate := { a.gate with calls := a.gate.calls.erase other } } other
        (.released phase)) := .of_eq rfl rfl
    exact released.wake foreign
  · exact .of_eq rfl rfl

private theorem affect_aloof (a : Activity Loopback) (event : Loopback.Event) (plain : arms (.transport event) = false) :
    Aloof call a (a.affect event) := by
  have met : (Transport.meet a.transport event).2.refusal = a.transport.refusal := by
    cases event with
    | refuseNext refusal => cases plain
    | emit message => rfl
    | fail kind refusal => rfl
  have heard {kind : Message.Kind} {transport : Loopback} (kept : transport.refusal = a.transport.refusal) :
      Aloof call a ((a.transport.observed kind).foldl hear { a with transport }) := by
    unfold Loopback.observed
    split
    · exact .of_eq kept rfl
    · change Aloof call a (hear { a with transport } .observed)
      unfold hear
      dsimp only
      split
      · apply Aloof.wake
        · exact .of_eq kept rfl
        · exact Task.noConfusion
      · exact .of_eq kept rfl
  refine Aloof.wake ?_ Task.noConfusion
  cases event with
  | refuseNext refusal => cases plain
  | emit message => exact heard met
  | fail kind refusal => exact heard met

theorem begin_aloof (a : Activity Loopback) (step : Step Loopback) (foreign : a.concerns call step = false)
    (plain : arms step = false) : Aloof call a (a.begin step).2 := by
  have attended (session : Session) : Aloof call a (Activity.adjustPump { a with session }) :=
    Aloof.adjustPump (.of_eq rfl rfl)
  cases step with
  | call id operation =>
    have different : id ≠ call := beq_eq_false_iff_ne.mp foreign
    have listed : Aloof call a { a with calls := a.calls ++ [(id, .starting operation)] } := .of_eq rfl rfl
    exact listed.wake fun same => different (Task.call.inj same)
  | abandon id =>
    change Aloof call a (a.abandon id).2
    unfold abandon
    split
    · exact .of_eq rfl rfl
    · exact ⟨rfl, fun absent wants => absent (List.mem_filter.mp wants).1⟩
  | openStream => exact .of_eq rfl rfl
  | poll stream =>
    unfold begin
    dsimp only
    split
    · exact .of_eq rfl rfl
    · exact attended _
  | drain stream =>
    unfold begin
    dsimp only
    split
    · exact .of_eq rfl rfl
    · exact attended _
  | drop stream => exact attended _
  | setGate shut => exact .of_eq rfl rfl
  | letThrough id =>
    change Aloof call a (a.letThrough id).2
    by_cases own : id = call
    · subst own
      rw [letThrough_nobody (nobody_of_letThrough foreign)]
      exact .of_eq rfl rfl
    · exact letThrough_aloof a own
  | letFirstThrough =>
    unfold begin
    dsimp only
    split
    · exact .of_eq rfl rfl
    next held => exact letThrough_aloof a (other_of_letFirst foreign held)
  | cut kind =>
    change Aloof call a (a.cut kind)
    unfold cut
    split
    · exact .of_eq rfl rfl
    · apply Aloof.wake
      · exact .of_eq rfl rfl
      · exact Task.noConfusion
  | transport event => exact affect_aloof a event plain

theorem begin_absent (quiet : a.ready = []) {step : Step Loopback} (foreign : a.concerns call step = false)
    (plain : arms step = false) : .call call ∉ (a.begin step).2.ready := by
  apply (begin_aloof a step foreign plain).absent
  rw [quiet]
  exact List.not_mem_nil

/-- A whole step in which the call has no part is answered alike, and leads to the same but for the call. -/
theorem Apart.step (apart : Apart call refusal a b) (mine : a.Moored) (yours : b.Moored) (quiet : a.ready = [])
    {step : Step Loopback} (foreign : a.concerns call step = false) (plain : arms step = false) :
    (a.step step).1 = (b.step step).1 ∧ Follows call refusal a (a.step step).2 (b.step step).2 := by
  obtain ⟨same, begun⟩ := apart.begin step foreign plain
  have settled := begun.settle (begin_moored mine step) (begin_moored yours step) (begin_absent quiet foreign plain)
  unfold Follows at settled
  rw [(begin_aloof a step foreign plain).refusal] at settled
  exact ⟨same, settled⟩

private theorem runTasks_passes (moored : a.Moored) (absent : .call call ∉ a.ready) (turns : Nat) :
    Passes call a (runTasks turns a) := by
  induction turns generalizing a with
  | zero => exact .refl call a
  | succ turns ih =>
    unfold runTasks
    cases wanting : a.ready with
    | nil => exact .refl call a
    | cons task ready =>
      rw [wanting] at absent
      obtain ⟨different, rest⟩ := List.ne_and_not_mem_of_not_mem_cons absent
      obtain ⟨after, gone⟩ := run_absent (a := { a with ready }) ⟨moored.aligned, moored.tagged⟩ rest task
      have taken : Passes call a { a with ready } := by
        refine ⟨stays _, fun _ => Iff.rfl, ?_⟩
        intro ahead queues
        exact absurd (wanting ▸ queues.mem) absent
      exact (taken.trans (run_passes different.symm _)).trans (ih after gone)

theorem step_passes (moored : a.Moored) (quiet : a.ready = []) {step : Step Loopback}
    (foreign : a.concerns call step = false) (plain : arms step = false) : Passes call a (a.step step).2 := by
  have begun : Passes call a (a.begin step).2 := by
    by_cases given : step = .abandon call
    · subst given
      have still : (a.begin (.abandon call)).2 = a := by
        change (a.abandon call).2 = a
        unfold abandon
        rw [unknown_of_abandon foreign]
      rw [still]
      exact .refl call a
    · refine begin_passes a step (fun operation same => ?_) given
      subst same
      exact absurd foreign (ne_true_of_eq_false · (beq_self_eq_true call))
  exact begun.trans (runTasks_passes (begin_moored moored step) (begin_absent quiet foreign plain) _)

end

end Activity

end Subscriber
