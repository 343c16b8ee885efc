import Subscriber.Proofs.RequestLine

/-! What a session owes its server. Of every name that its settled requests have left subscribed it keeps an account, or a
call of its own is taking the name back; only those who are given up leave something behind that nobody knows of. -/

namespace Subscriber

open Targets (replay)

namespace Request

def command (request : Request) : Verb × List Bytes := (request.verb, request.targets)

def Names (kind : Message.Kind) (name : Bytes) (request : Request) : Prop :=
  (request.verb = .adding kind ∨ request.verb = .removing kind) ∧ name ∈ request.targets

instance (kind : Message.Kind) (name : Bytes) (request : Request) : Decidable (request.Names kind name) :=
  inferInstanceAs (Decidable (_ ∧ _))

def last? (kind : Message.Kind) (name : Bytes) (requests : List Request) : Option Request :=
  requests.reverse.find? fun request => request.Names kind name

section
variable {kind : Message.Kind} {name : Bytes} {requests : List Request} {request : Request}

theorem last?_append (kind : Message.Kind) (name : Bytes) (first last : List Request) :
    last? kind name (first ++ last) = (last? kind name last).or (last? kind name first) := by
  unfold last?
  rw [List.reverse_append, List.find?_append]

theorem last?_concat (kind : Message.Kind) (name : Bytes) (requests : List Request) (request : Request) :
    last? kind name (requests ++ [request]) =
      if request.Names kind name then some request else last? kind name requests := by
  rw [last?_append]
  by_cases named : request.Names kind name
  · simp [last?, named]
  · simp [last?, named]

theorem last?_mem (last : last? kind name requests = some request) : request ∈ requests :=
  List.mem_reverse.mp (List.mem_of_find?_eq_some last)

/-- A name is subscribed in the end if the last request that has to do with it adds it. -/
theorem mem_replay : name ∈ (replay kind (requests.map command)).names ↔
    ∃ request, last? kind name requests = some request ∧ request.verb = .adding kind := by
  induction requests using List.reverseRecOn with
  | nil => simp [replay, last?]
  | append_singleton requests request ih =>
    have differ : Verb.removing kind ≠ .adding kind := by cases kind <;> decide
    have followed (targets : Targets) : Targets.follow kind targets request.command =
        if request.verb = .adding kind then targets.insertAll request.targets
        else if request.verb = .removing kind then targets.eraseAll request.targets else targets := rfl
    rw [List.map_append, List.map_singleton, Targets.replay_append, last?_concat, followed]
    by_cases adds : request.verb = .adding kind
    · rw [if_pos adds, Targets.mem_insertAll, ih]
      by_cases member : name ∈ request.targets
      · simp [Names, adds, member]
      · simp [Names, member]
    · rw [if_neg adds]
      by_cases removes : request.verb = .removing kind
      · rw [if_pos removes, Targets.mem_eraseAll (Targets.distinct_replay _ _), ih]
        by_cases member : name ∈ request.targets
        · simp [Names, removes, member, differ]
        · simp [Names, member]
      · rw [if_neg removes, ih]
        simp [Names, adds, removes]

end

end Request

/-- No command of a cancellation has been refused so far. -/
def Phase.Unfailing : Phase → Prop
  | .clearingPatterns _ _ channels => channels = .ok ()
  | .adding .. | .undoing .. | .removing .. | .clearingChannels .. => True

namespace Session
variable {session after : Session} {kind : Message.Kind} {name : Bytes} {phase next : Phase}

theorem cancelPatterns_tracked (session : Session) (empty : session.tracked .channel = {}) (first : Bool)
    (channels : Except Error Unit) (kind : Message.Kind) :
    (session.cancelPatterns first channels).2.tracked kind = session.tracked kind := by
  unfold cancelPatterns
  split
  next none =>
    rw [finishCancel_tracked]
    cases kind with
    | channel => exact empty.symm
    | pattern => exact (sorted_nil none).symm
  · rfl

private theorem start_tracked (session : Session) (operation : Operation) (kind : Message.Kind) :
    (session.start operation).2.tracked kind = session.tracked kind := by
  by_cases cancels : operation = .cancel
  · subst cancels
    have raised : ({ session with cancelled := true } : Session).tracked kind = session.tracked kind := by cases kind <;> rfl
    unfold start
    dsimp only
    split
    next none => exact (cancelPatterns_tracked { session with cancelled := true } (sorted_nil none) _ _ kind).trans raised
    · exact raised
  · rw [start_still cancels]

private theorem update_keeps (distinct : session.Distinct) (member : name ∈ (session.tracked kind).names) (other : Message.Kind)
    (names : List Bytes) (sweeping : Bool) :
    name ∈ ((session.update other false names sweeping).tracked kind).names ∨ other = kind ∧ name ∈ names := by
  rw [tracked_update]
  split
  next same =>
    rw [if_neg Bool.false_ne_true, Targets.mem_eraseAll (distinct kind)]
    by_cases named : name ∈ names
    · exact .inr ⟨same, named⟩
    · exact .inl ⟨named, member⟩
  · exact .inl member

private theorem resume_keeps (distinct : session.Distinct) (clearing : session.Clearing phase) (unfailing : phase.Unfailing)
    (member : name ∈ (session.tracked kind).names) :
    name ∈ ((session.resume phase (.ok ())).2.tracked kind).names ∨
      phase.verb = .removing kind ∧ name ∈ phase.targets := by
  cases phase with
  | adding other names =>
    left
    unfold resume
    dsimp only [hear]
    split
    · exact member
    · rw [tracked_update]
      split
      · exact Targets.mem_insertAll.mpr (.inr member)
      · exact member
  | undoing other names => exact .inl member
  | removing other names sweeping =>
    exact (update_keeps distinct member other names sweeping).imp_right (.imp_left (congrArg Verb.removing))
  | clearingChannels names first =>
    have cleared := tracked_cleared (distinct .channel) clearing.covered
    have kept := cancelPatterns_tracked _ cleared first (.ok ()) kind
    refine (update_keeps distinct member .channel names true).imp (fun remains => ?_) (.imp_left (congrArg Verb.removing))
    change name ∈ (((session.update .channel false names true).cancelPatterns first (.ok ())).2.tracked kind).names
    rw [kept]
    exact remains
  | clearingPatterns names first channels =>
    right
    cases kind with
    | channel => exact absurd member ((clearing.1 unfailing).none ▸ List.not_mem_nil)
    | pattern => exact ⟨rfl, clearing.2.covered name member⟩

/-- What has been added is remembered, or taken back at once. -/
theorem resume_adds (adds : phase.verb = .adding kind) (named : name ∈ phase.targets) :
    name ∈ ((session.resume phase (.ok ())).2.tracked kind).names ∨
      (session.resume phase (.ok ())).1 = .asking (.undoing kind phase.targets) := by
  cases phase with
  | adding other names =>
    obtain rfl : other = kind := by cases other <;> cases kind <;> first | rfl | cases adds
    unfold resume
    dsimp only [hear]
    split
    · exact .inr rfl
    · rw [tracked_update, if_pos rfl, if_pos rfl]
      exact .inl (Targets.mem_insertAll.mpr (.inl named))
  | undoing other names => cases other <;> cases kind <;> cases adds
  | removing other names sweeping => cases other <;> cases kind <;> cases adds
  | clearingChannels names first => cases kind <;> cases adds
  | clearingPatterns names first channels => cases kind <;> cases adds

private theorem start_unfailing {operation : Operation} (asked : session.start operation = (.asking next, after)) :
    next.Unfailing := by
  rcases start_asks asked with ⟨_, _, -, rfl⟩ | ⟨_, _, _, rfl⟩ | ⟨_, _, rfl⟩ | ⟨_, _, rfl⟩
  all_goals trivial

private theorem resume_unfailing (asked : session.resume phase (.ok ()) = (.asking next, after)) : next.Unfailing := by
  rcases resume_asks asked with ⟨_, _, rfl⟩ | ⟨_, _, rfl⟩
  · trivial
  · rfl

end Session

namespace Activity

theorem Passes.gone {τ : Type} {a b : Activity τ} {call : Nat} (passes : Passes call a b) (gone : a.Gone call) :
    b.Gone call := by
  refine ⟨?_, fun result finished => gone.2 result ((passes.finished result).mp finished)⟩
  have drifted := passes.stage
  rw [gone.1] at drifted
  generalize b.stage? call = new at drifted ⊢
  cases drifted with
  | none => rfl

/-- Somebody knows of a name that a call has added: the session, or the call itself, which is taking it back. Or nobody
does, because the call has been given up. -/
def Accounts {τ : Type} (activity : Activity τ) (kind : Message.Kind) (name : Bytes) (call : Nat) : Prop :=
  name ∈ (activity.session.tracked kind).names ∨ activity.Gone call ∨
    ∃ targets, activity.phase? call = some (.undoing kind targets) ∧ name ∈ targets

/-- What the settled requests have left on the server is accounted for. -/
structure Balanced {τ : Type} (settled : List Request) (activity : Activity τ) : Prop where
  accounted : ∀ kind name request, Request.last? kind name settled = some request → request.verb = .adding kind →
    activity.Accounts kind name request.call
  unfailing : ∀ call phase, activity.phase? call = some phase → phase.Unfailing

theorem balanced_start {τ : Type} (transport : τ) : Balanced [] { transport } := ⟨nofun, nofun⟩

section
variable {τ : Type} {a b : Activity τ} {call : Nat} {settled : List Request}

theorem Balanced.carry (balanced : a.Balanced settled)
    (tracked : ∀ kind, b.session.tracked kind = a.session.tracked kind)
    (gone : ∀ request ∈ settled, a.Gone request.call → b.Gone request.call)
    (kept : ∀ request ∈ settled, ∀ phase, a.phase? request.call = some phase →
      b.phase? request.call = some phase ∨ b.Gone request.call)
    (unfailing : ∀ call phase, b.phase? call = some phase → a.phase? call = some phase ∨ phase.Unfailing) :
    b.Balanced settled := by
  refine ⟨fun kind name request last adds => ?_, fun call phase found => ?_⟩
  · have member := Request.last?_mem last
    rcases balanced.accounted kind name request last adds with known | given | ⟨targets, undoing, named⟩
    · exact .inl (tracked kind ▸ known)
    · exact .inr (.inl (gone request member given))
    · exact .inr ((kept request member _ undoing).symm.imp_right fun same => ⟨targets, same, named⟩)
  · exact (unfailing call phase found).elim (balanced.unfailing call phase) id

private theorem Balanced.passes (balanced : a.Balanced settled)
    (tracked : ∀ kind, b.session.tracked kind = a.session.tracked kind) (passes : ∀ call, Passes call a b) :
    b.Balanced settled :=
  balanced.carry tracked (fun request _ => (passes request.call).gone)
    (fun request _ _ found => .inl ((passes request.call).phase?.trans found))
    fun call _ found => .inl ((passes call).phase?.symm.trans found)

/-- A call that has been granted something settles it, and all that was granted before and concerns nobody any more. -/
theorem Balanced.granted {phase : Phase} {skipped : List Request} (balanced : a.Balanced settled)
    (found : a.stage? call = some (.answered phase (.ok ()))) (gone : ∀ request ∈ skipped, a.Gone request.call)
    (distinct : a.session.Distinct) (clearing : a.session.Clearing phase) (others : ∀ other, other ≠ call → Passes other a b)
    (session : b.session = (a.session.resume phase (.ok ())).2)
    (next : b.phase? call = (a.session.resume phase (.ok ())).1.phase?) :
    b.Balanced (settled ++ skipped ++ [phase.request call]) := by
  have now : a.phase? call = some phase := by
    rw [Activity.phase?, found]
    rfl
  have own := balanced.unfailing call phase now
  have alive : ¬ a.Gone call := fun gone => by cases gone.1.symm.trans found
  have still {other : Nat} (given : a.Gone other) : b.Gone other :=
    (others other fun same => alive (same ▸ given)).gone given
  refine ⟨fun kind name request last adds => ?_, fun other asked same => ?_⟩
  · rw [Request.last?_concat] at last
    split at last
    next named =>
      obtain rfl := Option.some.inj last
      rcases Session.resume_adds adds named.2 with known | undoing
      · exact .inl (session ▸ known)
      · have asked : b.phase? call = some (.undoing kind phase.targets) := by
          rw [next, undoing]
          rfl
        exact .inr (.inr ⟨phase.targets, asked, named.2⟩)
    next unnamed =>
      rw [Request.last?_append] at last
      rcases Option.or_eq_some_iff.mp last with late | ⟨-, early⟩
      · exact .inr (.inl (still (gone request (Request.last?_mem late))))
      · rcases balanced.accounted kind name request early adds with known | given | ⟨targets, undoing, named⟩
        · rcases Session.resume_keeps distinct clearing own known with kept | ⟨removes, named⟩
          · exact .inl (session ▸ kept)
          · exact absurd ⟨.inr removes, named⟩ unnamed
        · exact .inr (.inl (still given))
        · have foreign : request.call ≠ call := by
            intro same
            rw [same] at undoing
            obtain rfl := Option.some.inj (now.symm.trans undoing)
            exact unnamed ⟨.inr rfl, named⟩
          exact .inr (.inr ⟨targets, (others _ foreign).phase?.trans undoing, named⟩)
  · by_cases mine : other = call
    · subst mine
      rw [next] at same
      rcases stepped : a.session.resume phase (.ok ()) with ⟨result | later, after⟩
      · rw [stepped] at same
        cases same
      · rw [stepped] at same
        obtain rfl := Option.some.inj same
        exact Session.resume_unfailing stepped
    · exact balanced.unfailing other asked ((others other mine).phase?.symm.trans same)

private theorem Balanced.undecided {stage : Stage} (balanced : a.Balanced settled) (found : a.stage? call = some stage)
    (unanswered : ∀ phase answer, stage ≠ .answered phase answer) (others : ∀ other, other ≠ call → Passes other a b)
    (session : b.session = (a.session.advance stage).2) (next : b.phase? call = (a.session.advance stage).1.phase?) :
    b.Balanced settled := by
  have now : a.phase? call = stage.phase? := by
    rw [Activity.phase?, found]
    rfl
  have tracked (kind : Message.Kind) : b.session.tracked kind = a.session.tracked kind := by
    rw [session]
    cases stage with
    | starting operation => exact Session.start_tracked a.session operation kind
    | answered phase answer => exact absurd rfl (unanswered phase answer)
    | _ => rfl
  have same {phase : Phase} (asked : a.phase? call = some phase) : b.phase? call = some phase := by
    rw [next]
    rw [now] at asked
    cases stage with
    | starting operation => cases asked
    | answered phase answer => exact absurd rfl (unanswered phase answer)
    | _ => exact asked
  refine balanced.carry tracked (fun request _ gone => ?_) (fun request _ phase asked => .inl ?_) fun other phase asked => ?_
  · exact (others _ fun mine => by cases (mine ▸ gone.1).symm.trans found).gone gone
  · by_cases mine : request.call = call
    · rw [mine] at asked ⊢
      exact same asked
    · exact (others _ mine).phase?.trans asked
  · by_cases mine : other = call
    · subst mine
      rw [next] at asked
      cases stage with
      | starting operation =>
        rcases stepped : a.session.start operation with ⟨result | later, after⟩
        · rw [Session.advance, stepped] at asked
          cases asked
        · rw [Session.advance, stepped] at asked
          obtain rfl := Option.some.inj asked
          exact .inr (Session.start_unfailing stepped)
      | answered phase answer => exact absurd rfl (unanswered phase answer)
      | _ => exact .inl (now.trans asked)
    · exact .inl ((others other mine).phase?.symm.trans asked)

end

section
variable {τ : Type} [Transport τ] {a : Activity τ} {settled : List Request}

private theorem Balanced.started (balanced : a.Balanced settled) {call : Nat} (operation : Operation)
    (unknown : a.stage? call = none) (unlisted : ∀ request ∈ settled, request.call ≠ call) :
    (a.move (.step (.call call operation))).Balanced settled := by
  have passes (other : Nat) (different : other ≠ call) := move_passes a (.step (.call call operation)) (different ·.symm)
  have idle : (a.move (.step (.call call operation))).phase? call = none := by
    rw [Activity.phase?, start_stage unknown]
    rfl
  refine balanced.carry (a.move_record fun _ same => by cases same).tracked
    (fun request member => (passes _ (unlisted request member)).gone)
    (fun request member phase asked => .inl ((passes _ (unlisted request member)).phase?.trans asked))
    fun other phase asked => .inl ?_
  by_cases own : other = call
  · cases idle.symm.trans (own ▸ asked)
  · exact (passes _ own).phase?.symm.trans asked

/-- Nobody has to account any more for what is added on behalf of a call that has been given up. -/
theorem Balanced.abandoned (balanced : a.Balanced settled) {call : Nat}
    (unfinished : ∀ stage, a.stage? call = some stage → ∀ result, (call, result) ∉ a.finished) :
    (a.move (.step (.abandon call))).Balanced settled := by
  cases found : a.stage? call with
  | none =>
    have still : a.move (.step (.abandon call)) = a := by
      change (a.abandon call).2 = a
      rw [abandon, found]
    rw [still]
    exact balanced
  | some stage =>
    have passes (other : Nat) (different : other ≠ call) := move_passes a (.step (.abandon call)) (different ·.symm)
    have left : a.move (.step (.abandon call)) = { a.forget call with transport := Transport.abandon a.transport call } := by
      change (a.abandon call).2 = _
      rw [abandon, found]
    have gone : (a.move (.step (.abandon call))).Gone call := by
      rw [left]
      exact ⟨stage?_forget_self a call, unfinished stage found⟩
    refine balanced.carry (a.move_record fun _ same => by cases same).tracked (fun request member given => ?_)
      (fun request member phase asked => ?_) fun other phase asked => .inl ?_
    · by_cases own : request.call = call
      · exact own ▸ gone
      · exact (passes _ own).gone given
    · by_cases own : request.call = call
      · exact .inr (own ▸ gone)
      · exact .inl ((passes _ own).phase?.trans asked)
    · by_cases own : other = call
      · rw [own, Activity.phase?, gone.1] at asked
        cases asked
      · exact (passes _ own).phase?.symm.trans asked

theorem Balanced.move (balanced : a.Balanced settled) (move : Move τ) (other : ∀ call, move ≠ .turn (.call call))
    (fresh : ∀ call operation, move = .step (.call call operation) →
      a.stage? call = none ∧ ∀ request ∈ settled, request.call ≠ call)
    (unfinished : ∀ call stage, a.stage? call = some stage → ∀ result, (call, result) ∉ a.finished) :
    (a.move move).Balanced settled := by
  have aside (quiet : ∀ call, ¬ move.Concerns call) : (a.move move).Balanced settled :=
    balanced.passes (a.move_record other).tracked fun call => move_passes a move (quiet call)
  cases move with
  | turn task => exact aside fun call own => other call (congrArg Move.turn own)
  | step step =>
    cases step with
    | call call operation =>
      obtain ⟨unknown, unlisted⟩ := fresh call operation rfl
      exact balanced.started operation unknown unlisted
    | abandon call => exact balanced.abandoned (unfinished call)
    | _ => exact aside fun _ => id

end

section
variable {a : Activity Link} {line settled owed unanswered done : List Request} {past future : List (Remark × Server)}
  {fed : Bytes} {call : Nat}

/-- What a call does in its turn settles what it has been granted. -/
theorem Balanced.turn (balanced : a.Balanced settled)
    (conversing : a.Conversing none line settled owed unanswered past future fed) (settles : a.Concludes call settled done)
    (wants : .call call ∈ a.ready) (distinct : a.session.Distinct)
    (clearing : ∀ phase, a.phase? call = some phase → a.session.Clearing phase)
    (aimed : ∀ phase, a.phase? call = some phase → phase.targets ≠ []) : (a.move (.turn (.call call))).Balanced done := by
  cases found : a.stage? call with
  | none =>
    have idle : ({ a with ready := a.ready.erase (.call call) } : Activity Link).stage? call = none := found
    rcases settles with ⟨phase, skipped, answered, -⟩ | ⟨-, rfl⟩
    · cases found.symm.trans answered
    · rw [move_own wants, runCall, idle]
      exact ⟨balanced.accounted, balanced.unfailing⟩
  | some stage =>
    have asks : a.phase? call = stage.phase? := by
      rw [Activity.phase?, found]
      rfl
    obtain ⟨session, next⟩ := runCall_advance (a := { a with ready := a.ready.erase (.call call) }) found
      fun phase asking => by
        have aims := Session.aims_advance a.session stage fun phase same => aimed phase (asks.trans same)
        rw [asking] at aims
        obtain ⟨queue, waiting, submitted, -⟩ := conversing.defers call aims.1
        exact ⟨_, submitted⟩
    rw [← move_own wants] at session next
    have others (other : Nat) (different : other ≠ call) : Passes other a (a.move (.turn (.call call))) :=
      move_passes a _ fun own => different (Task.call.inj own).symm
    rcases settles with ⟨phase, skipped, answered, rfl, gone⟩ | ⟨unanswered', rfl⟩
    · obtain rfl := Option.some.inj (found.symm.trans answered)
      exact balanced.granted found gone distinct (clearing phase asks) others session next
    · exact balanced.undecided found (fun phase answer same => unanswered' phase answer (same ▸ found)) others session next

end

end Activity

end Subscriber
