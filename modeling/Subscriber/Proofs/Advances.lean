import Subscriber.Proofs.OwnTurns
import Subscriber.Proofs.ServerAgreement

/-! How calls go on. A call asks for one command after the other, few of which can follow each other; over a transport that
answers later it asks for one in each of its turns. -/

namespace Subscriber

def Progress.phase? : Progress → Option Phase
  | .finished _ => none
  | .asking phase => some phase

namespace Session
variable {session after : Session} {kind : Message.Kind} {phase next : Phase}

/-- The next step of a call that has come so far. Who has nothing to go on with stays where it is. -/
def advance (session : Session) : Stage → Progress × Session
  | .starting operation => session.start operation
  | .answered phase answer => session.resume phase answer
  | .held phase | .released phase | .sent phase => (.asking phase, session)

theorem aims_start (session : Session) (operation : Operation) : (session.start operation).1.Aims fun _ => True :=
  have tracks : session.Tracks fun _ => True := fun _ _ _ => trivial
  (tracks.start operation fun _ _ => trivial).1

theorem aims_resume (session : Session) (phase : Phase) (answer : Except Error Unit) (aimed : phase.targets ≠ []) :
    (session.resume phase answer).1.Aims fun _ => True :=
  have tracks : session.Tracks fun _ => True := fun _ _ _ => trivial
  (tracks.resume phase answer aimed fun _ _ => trivial).1

theorem aims_advance (session : Session) (stage : Stage) (aimed : ∀ phase, stage.phase? = some phase → phase.targets ≠ []) :
    (session.advance stage).1.Aims fun _ => True := by
  cases stage with
  | starting operation => exact aims_start session operation
  | answered phase answer => exact aims_resume session phase answer (aimed phase rfl)
  | held phase | released phase | sent phase => exact ⟨aimed phase rfl, fun _ _ => trivial⟩

theorem cancelPatterns_asks {first : Bool} {channels : Except Error Unit}
    (asked : session.cancelPatterns first channels = (.asking next, after)) :
    ∃ names, next = .clearingPatterns names first channels := by
  unfold cancelPatterns at asked
  split at asked
  · simp [finishCancel] at asked
  · cases asked
    exact ⟨_, rfl⟩

private theorem remove_asks {names : List Bytes} {sweeping : Bool}
    (asked : session.remove kind names sweeping = (.asking next, after)) : next = .removing kind names sweeping := by
  unfold Session.remove at asked
  split at asked
  · cases asked
  · cases asked
    rfl

/-- The commands with which a call can begin. -/
theorem start_asks {operation : Operation} (asked : session.start operation = (.asking next, after)) :
    (∃ kind names, operation = .add kind names ∧ next = .adding kind names) ∨
      (∃ kind names sweeping, next = .removing kind names sweeping) ∨
      (∃ names first, next = .clearingChannels names first) ∨ ∃ names first, next = .clearingPatterns names first (.ok ()) := by
  unfold start at asked
  cases operation with
  | add kind names =>
    dsimp only at asked
    split at asked
    · cases asked
    · split at asked
      · cases asked
      · cases asked
        exact .inl ⟨kind, names, rfl, rfl⟩
  | remove kind names =>
    dsimp only at asked
    split at asked
    · cases asked
    · exact .inr (.inl ⟨_, _, _, remove_asks asked⟩)
  | removeAll kind => exact .inr (.inl ⟨_, _, _, remove_asks asked⟩)
  | cancel =>
    dsimp only at asked
    split at asked
    · obtain ⟨names, same⟩ := cancelPatterns_asks asked
      exact .inr (.inr (.inr ⟨names, _, same⟩))
    · cases asked
      exact .inr (.inr (.inl ⟨_, _, rfl⟩))

theorem resume_asks {answer : Except Error Unit} (asked : session.resume phase answer = (.asking next, after)) :
    (∃ kind names, next = .undoing kind names) ∨ ∃ names first, next = .clearingPatterns names first answer := by
  cases phase with
  | adding kind names =>
    cases answer with
    | ok =>
      simp only [resume] at asked
      split at asked
      · cases asked
        exact .inl ⟨_, _, rfl⟩
      · cases asked
    | error error => cases asked
  | undoing kind names => cases asked
  | removing kind names sweeping => cases answer <;> cases asked
  | clearingChannels names first =>
    right
    cases answer with
    | ok =>
      obtain ⟨names, same⟩ := cancelPatterns_asks asked
      exact ⟨names, first, same⟩
    | error error =>
      obtain ⟨names, same⟩ := cancelPatterns_asks asked
      exact ⟨names, first, same⟩
  | clearingPatterns names first channels => cases answer <;> simp [resume, finishCancel] at asked

private theorem start_adds {operation : Operation} (asked : session.start operation = (.asking next, after))
    (adds : next.verb = .adding kind) : operation = .add kind next.targets := by
  rcases start_asks asked with ⟨other, names, rfl, rfl⟩ | ⟨other, _, _, rfl⟩ | ⟨_, _, rfl⟩ | ⟨_, _, rfl⟩
  · obtain rfl : other = kind := by cases other <;> cases kind <;> first | rfl | cases adds
    rfl
  · cases other <;> cases kind <;> cases adds
  · cases kind <;> cases adds
  · cases kind <;> cases adds

private theorem resume_adds_nothing {answer : Except Error Unit} (asked : session.resume phase answer = (.asking next, after)) :
    next.verb ≠ .adding kind := by
  intro adds
  rcases resume_asks asked with ⟨other, _, rfl⟩ | ⟨_, _, rfl⟩
  · cases other <;> cases kind <;> cases adds
  · cases kind <;> cases adds

/-- How far a call has come that asks for additions only if it was started as one, and always with some target. -/
def Suits (operation : Operation) (deeds : List Deed) (progress : Progress) (_ : Session) : Prop :=
  (∀ kind names, .asks (.adding kind) names ∈ deeds → operation = .add kind names) ∧
    ∀ phase, progress = .asking phase →
      phase.targets ≠ [] ∧ ∀ kind, phase.verb = .adding kind → operation = .add kind phase.targets

theorem lasting_suits (operation : Operation) (deeds : List Deed) (progress : Progress) :
    Lasting (Suits operation deeds progress) := .const _

theorem path_suits (operation : Operation) : Path operation (fun _ => True) (Suits operation) := by
  refine ⟨fun session _ => ⟨fun kind names member => ?_, fun next asked => ?_⟩, fun deeds phase session answer suits => ?_⟩
  · cases List.mem_singleton.mp member
  · have aims := aims_start session operation
    rw [asked] at aims
    exact ⟨aims.1, fun kind adds => start_adds (Prod.ext asked rfl) adds⟩
  · obtain ⟨before, asking⟩ := suits
    obtain ⟨aimed, adding⟩ := asking phase rfl
    refine ⟨fun kind names member => ?_, fun next asked => ?_⟩
    · rcases List.mem_append.mp member with earlier | last
      · exact before kind names earlier
      · rcases List.mem_cons.mp last with same | heard
        · obtain ⟨verb, rfl⟩ := Deed.asks.inj same
          exact adding kind verb.symm
        · cases List.mem_singleton.mp heard
    · have aims := aims_resume session phase answer aimed
      rw [asked] at aims
      exact ⟨aims.1, fun kind adds => absurd adds (resume_adds_nothing (Prod.ext asked rfl))⟩

end Session

namespace Activity

def phase? {τ : Type} (activity : Activity τ) (call : Nat) : Option Phase := (activity.stage? call).bind Stage.phase?

section
variable {τ : Type} {a b : Activity τ} {call : Nat}

theorem Passes.phase? (passes : Passes call a b) : b.phase? call = a.phase? call := by
  have drifted := passes.stage
  unfold Activity.phase?
  generalize a.stage? call = old at drifted
  generalize b.stage? call = new at drifted
  cases drifted with
  | none => rfl
  | some drifts => cases drifts <;> rfl

variable [Transport τ]

theorem submit_phase {old : Stage} (found : a.stage? call = some old) {phase : Phase} {transport : τ}
    (defers : Transport.submit a.transport call phase.verb phase.targets = (none, transport)) :
    (a.submit call phase).session = a.session ∧ (a.submit call phase).phase? call = some phase := by
  have now : ({ a with transport }.setStage call (.sent phase)).stage? call = some (.sent phase) :=
    stage?_setStage_self (a := { a with transport }) found _
  unfold submit
  rw [defers]
  refine ⟨wake_session _ _, ?_⟩
  rw [Activity.phase?, stage?_wake, now]
  rfl

private theorem proceed_phase {old : Stage} (found : a.stage? call = some old) {progress : Progress}
    (defers : ∀ phase, progress = .asking phase →
      ∃ transport, Transport.submit a.transport call phase.verb phase.targets = (none, transport)) :
    (a.proceed call progress).session = a.session ∧ (a.proceed call progress).phase? call = progress.phase? := by
  cases progress with
  | finished result =>
    have gone : (a.finish call result).stage? call = none := stage?_forget_self a call
    refine ⟨rfl, ?_⟩
    change ((a.finish call result).stage? call).bind _ = _
    rw [gone]
    rfl
  | asking phase =>
    unfold proceed
    dsimp only
    split
    · have now := stage?_setStage_self (a := { a with gate := { a.gate with calls := a.gate.calls ++ [call] } }) found
        (.held phase)
      refine ⟨rfl, ?_⟩
      rw [Activity.phase?, now]
      rfl
    · obtain ⟨transport, deferred⟩ := defers phase rfl
      exact submit_phase found deferred

/-- Over a transport that answers later, a call takes one step in its turn. -/
theorem runCall_advance {stage : Stage} (found : a.stage? call = some stage)
    (defers : ∀ phase, (a.session.advance stage).1 = .asking phase →
      ∃ transport, Transport.submit a.transport call phase.verb phase.targets = (none, transport)) :
    (a.runCall call).session = (a.session.advance stage).2 ∧
      (a.runCall call).phase? call = (a.session.advance stage).1.phase? := by
  have adjusted {b : Activity τ} {progress : Progress} {session : Session}
      (taken : b.session = session ∧ b.phase? call = progress.phase?) :
      b.adjustPump.session = session ∧ b.adjustPump.phase? call = progress.phase? := by
    refine ⟨(adjustPump_session b).trans taken.1, ?_⟩
    rw [Activity.phase?, stage?_adjustPump]
    exact taken.2
  unfold runCall
  rw [found]
  cases stage with
  | starting operation =>
    exact adjusted (proceed_phase (a := { a with session := (a.session.start operation).2 }) found defers)
  | answered phase answer =>
    exact adjusted (proceed_phase (a := { a with session := (a.session.resume phase answer).2 }) found defers)
  | released phase =>
    obtain ⟨transport, deferred⟩ := defers phase rfl
    exact @adjusted _ (.asking phase) _ (submit_phase found deferred)
  | held phase => exact ⟨rfl, by rw [Activity.phase?, found]; rfl⟩
  | sent phase => exact ⟨rfl, by rw [Activity.phase?, found]; rfl⟩

end

section
variable {operation : Operation} {before : Session → Prop} {holds : List Deed → Progress → Session → Prop}
  {deeds : List Deed} {session : Session} {stage : Stage} {phase : Phase}

private theorem Stands.asking (stands : Stands operation before holds deeds session stage) (asks : stage.phase? = some phase) :
    ∃ earlier, holds earlier (.asking phase) session := by
  cases stage with
  | starting own => cases asks
  | held own | released own =>
    obtain rfl := Option.some.inj asks
    exact ⟨deeds, stands⟩
  | sent own | answered own answer =>
    obtain rfl := Option.some.inj asks
    obtain ⟨earlier, -, asked⟩ := stands
    exact ⟨earlier, asked⟩

end

section
variable {τ : Type} [Transport τ] {transport : τ} {list : List (Move τ)} {call : Nat} {stage : Stage} {phase : Phase}

/-- What every call asserts of its command, whatever it was started as. -/
theorem asking_holds {before : Session → Prop} {holds : Operation → List Deed → Progress → Session → Prop}
    (path : ∀ operation, Session.Path operation before (holds operation)) (fresh : Session.Lasting before)
    (lasting : ∀ operation deeds progress, Session.Lasting (holds operation deeds progress)) (initial : before {})
    (numbered : Numbered list) (found : (moves { transport } list).phase? call = some phase) :
    ∃ operation deeds, holds operation deeds (.asking phase) (moves { transport } list).session := by
  obtain ⟨stage, known, asks⟩ := Option.bind_eq_some_iff.mp found
  obtain ⟨operation, started⟩ := started_of_stage known
  have bears := path_holds (path operation) fresh (lasting operation) transport initial numbered started
  exact ⟨operation, (bears.going stage known).1.asking asks⟩

theorem distinct_moves (transport : τ) (list : List (Move τ)) : (moves { transport } list).session.Distinct :=
  moves_lasting Session.lasting_distinct _ list fun kind => by cases kind <;> exact List.nodup_nil

theorem clearing_moves (numbered : Numbered list) (found : (moves { transport } list).phase? call = some phase) :
    (moves { transport } list).session.Clearing phase := by
  have initial : ({} : Session).Distinct := fun kind => by cases kind <;> exact List.nodup_nil
  obtain ⟨operation, deeds, ⟨-, clearing⟩, -⟩ :=
    asking_holds Session.path_clears Session.lasting_distinct Session.lasting_clears initial numbered found
  exact clearing

theorem aimed_moves (numbered : Numbered list) (found : (moves { transport } list).phase? call = some phase) :
    phase.targets ≠ [] := by
  obtain ⟨operation, deeds, -, asking⟩ :=
    asking_holds Session.path_suits (.const True) Session.lasting_suits trivial numbered found
  exact (asking phase rfl).1

private theorem mem_moveDeeds {a : Activity τ} {move : Move τ} {deed : Deed} (does : deed ∈ a.moveDeeds call move) :
    move = .turn (.call call) ∧ .call call ∈ a.ready ∧ ∃ stage, a.stage? call = some stage := by
  cases move with
  | step step => cases does
  | turn task =>
    by_cases own : task ∈ a.ready ∧ task = .call call
    · obtain ⟨wants, rfl⟩ := own
      refine ⟨rfl, wants, Option.ne_none_iff_exists'.mp fun unknown => ?_⟩
      rw [(move_unknown unknown fun same => by cases same).2.2] at does
      cases does
    · rw [moveDeeds, if_neg own] at does
      cases does

theorem add_started (numbered : Numbered list) {kind : Message.Kind} {names : List Bytes}
    (asked : .asks (.adding kind) names ∈ deeds call { transport } list) : .step (.call call (.add kind names)) ∈ list := by
  induction list using List.reverseRecOn with
  | nil => cases asked
  | append_singleton list move ih =>
    have whole := asked
    rw [deeds_append] at asked
    rcases List.mem_append.mp asked with earlier | now
    · exact List.mem_append_left _ (ih numbered.left earlier)
    · rw [deeds, deeds, List.append_nil] at now
      obtain ⟨rfl, wants, stage, found⟩ := mem_moveDeeds now
      obtain ⟨operation, started⟩ := started_of_stage found
      have bears := path_holds (Session.path_suits operation) (.const True) (Session.lasting_suits operation) transport
        trivial numbered (List.mem_append_left _ started)
      have rests : (moves { transport } (list ++ [.turn (.call call)])).Rests call := by
        rw [moves_append]
        change ((moves { transport } list).move (.turn (.call call))).Rests call
        rw [move_own wants]
        exact runCall_rests found
      have same : operation = .add kind names := by
        rcases rests with ⟨result, finished⟩ | ⟨phase, held | sent⟩
        · exact (bears.ended result finished).1 kind names whole
        · exact (bears.going _ held).1.1 kind names whole
        · obtain ⟨earlier, parts, suits⟩ := (bears.going _ sent).1
          rw [parts] at whole
          rcases List.mem_append.mp whole with before | last
          · exact suits.1 kind names before
          · obtain ⟨verb, rfl⟩ := Deed.asks.inj (List.mem_singleton.mp last)
            exact (suits.2 phase rfl).2 kind verb.symm
      exact List.mem_append_left _ (same ▸ started)

theorem unfinished_moves (numbered : Numbered list) (found : (moves { transport } list).stage? call = some stage)
    (result : Except Error Unit) : (call, result) ∉ (moves { transport } list).finished := by
  obtain ⟨operation, started⟩ := started_of_stage found
  have bears := path_holds (Session.path_suits operation) (.const True) (Session.lasting_suits operation) transport trivial
    numbered started
  exact (bears.going stage found).2 result

end

end Activity

end Subscriber
