import Mathlib.Data.List.Induction
import Subscriber.Proofs.Clearing

/-! Whose turn it is. What a session tracks and tells its listener changes in the turns of calls and nowhere else, so an
assertion about it needs to be followed through one turn of one call at a time. -/

namespace Subscriber.Activity

section
variable {τ : Type} [Transport τ]

/-- What streams and messages leave alone can be changed by the turn of a call that is under way, and by nothing else. -/
theorem move_passive {holds : Session → Prop} (passive : Session.Passive holds)
    (poll : ∀ session stream, holds session → holds (Session.poll session stream).2)
    (drop : ∀ session stream, holds session → holds (Session.drop session stream)) (a : Activity τ) (move : Move τ)
    (before : holds a.session) : holds (a.move move).session ∨
      ∃ call stage, move = .turn (.call call) ∧ .call call ∈ a.ready ∧ a.stage? call = some stage := by
  cases move with
  | step step => exact .inl (begin_outside passive poll drop a step before)
  | turn task =>
    by_cases wants : task ∈ a.ready
    · have turned : a.move (.turn task) = { a with ready := a.ready.erase task }.run task := if_pos wants
      rw [turned]
      cases task with
      | background => exact .inl (foldl_hear_passive passive _ _ before)
      | pump => exact .inl (runPump_passive passive pumpTurn { a with ready := a.ready.erase .pump } before)
      | call call =>
        cases found : a.stage? call with
        | some stage => exact .inr ⟨call, stage, rfl, wants, found⟩
        | none =>
          have unknown : Activity.stage? { a with ready := a.ready.erase (.call call) } call = none := found
          refine .inl ?_
          change holds (runCall { a with ready := a.ready.erase (.call call) } call).session
          unfold runCall
          rw [unknown]
          exact before
    · have still : a.move (.turn task) = a := if_neg wants
      rw [still]
      exact .inl before

/-- Whatever is not the turn of a call leaves the record alone. -/
theorem move_record (a : Activity τ) {move : Move τ} (other : ∀ call, move ≠ .turn (.call call)) :
    Session.SameRecord a.session (a.move move).session := by
  have kept {before after : Session} (more : Session.SameRecord before after)
      (same : Session.SameRecord a.session before) : Session.SameRecord a.session after := same.trans more
  have passive : Session.Passive (Session.SameRecord a.session) :=
    ⟨fun _ => kept ⟨rfl, rfl, rfl, rfl⟩, fun session generation item => kept (session.publish_sameRecord generation item),
      fun session generation => kept (session.finish_sameRecord generation), fun _ _ => kept ⟨rfl, rfl, rfl, rfl⟩⟩
  rcases move_passive passive (fun session stream => kept (session.poll_sameRecord stream))
    (fun session stream => kept (session.drop_sameRecord stream)) a move (.refl a.session) with same | ⟨call, -, own, -⟩
  · exact same
  · exact absurd own (other call)

/-- Where a turn of its own takes a call: it has returned, or waits with what it asserts about its command. -/
theorem Bears.turned {operation : Operation} {before : Session → Prop} {holds : List Deed → Progress → Session → Prop}
    {call : Nat} {done : List Deed} {a : Activity τ} {stage : Stage} (path : Session.Path operation before holds)
    (bears : Bears operation before holds call done a) (found : a.stage? call = some stage) (wants : .call call ∈ a.ready) :
    (∃ result deeds, (call, result) ∈ (a.move (.turn (.call call))).finished ∧
      holds deeds (.finished result) (a.move (.turn (.call call))).session) ∨
    ∃ phase deeds, ((a.move (.turn (.call call))).stage? call = some (.held phase) ∨
        (a.move (.turn (.call call))).stage? call = some (.sent phase)) ∧
      holds deeds (.asking phase) (a.move (.turn (.call call))).session := by
  have ready : Bears operation before holds call done { a with ready := a.ready.erase (.call call) } :=
    ⟨bears.going, bears.ended⟩
  have ran := runCall_bears path ready
  have rests : (runCall { a with ready := a.ready.erase (.call call) } call).Rests call := runCall_rests found
  rw [move_own wants]
  rcases rests with ⟨result, finished⟩ | ⟨phase, held | sent⟩
  · exact .inl ⟨result, _, finished, ran.ended result finished⟩
  · exact .inr ⟨phase, _, .inl held, (ran.going _ held).1⟩
  · obtain ⟨deeds, -, asked⟩ := (ran.going _ sent).1
    exact .inr ⟨phase, deeds, .inr sent, asked⟩

section
variable {transport : τ} {list : List (Move τ)} {call : Nat}

theorem started_of_stage {stage : Stage} (found : (moves { transport } list).stage? call = some stage) :
    ∃ operation, .step (.call call operation) ∈ list := by
  by_contra unstarted
  have other (move : Move τ) (member : move ∈ list) : move.call? ≠ some call := by
    intro same
    cases move with
    | turn task => cases same
    | step step =>
      cases step with
      | call id operation =>
        obtain rfl : id = call := Option.some.inj same
        exact unstarted ⟨operation, member⟩
      | _ => cases same
  rw [(moves_unheard transport other).1] at found
  cases found

theorem finished_concat {move : Move τ} (numbered : Numbered (list ++ [move])) {operation : Operation}
    {result : Except Error Unit} (started : .step (.call call operation) ∈ list)
    (finished : (call, result) ∈ (moves { transport } list).finished) :
    (call, result) ∈ (moves { transport } (list ++ [move])).finished := by
  have trivially : Session.Path operation (fun _ => True) fun _ _ _ => True := ⟨fun _ _ => trivial, fun _ _ _ _ _ => trivial⟩
  have bears := path_holds trivially (.const True) (fun _ _ => .const True) transport trivial numbered.left started
  have known : move.call? ≠ some call := numbered.apart started rfl List.mem_cons_self
  rw [moves_append]
  cases found : (moves { transport } list).stage? call with
  | some stage => exact absurd finished ((bears.going stage found).2 result)
  | none => exact ((move_unknown found known).2.1 result).mpr finished

omit [Transport τ] in
private theorem Rests.under_way {a : Activity τ} (rests : a.Rests call) (unfinished : ∀ result, (call, result) ∉ a.finished) :
    ∃ stage, a.stage? call = some stage := by
  rcases rests with ⟨result, finished⟩ | ⟨phase, held | sent⟩
  · exact absurd finished (unfinished result)
  · exact ⟨_, held⟩
  · exact ⟨_, sent⟩

private theorem move_under_way {a : Activity τ} {stage : Stage} (found : a.stage? call = some stage) {move : Move τ}
    (known : move.call? ≠ some call) (kept : move ≠ .step (.abandon call))
    (unfinished : ∀ result, (call, result) ∉ (a.move move).finished) : ∃ stage, (a.move move).stage? call = some stage := by
  by_cases concerned : move.Concerns call
  · cases move with
    | step step =>
      cases step with
      | call id operation => exact absurd (congrArg some concerned) known
      | abandon id => exact absurd (congrArg (fun id => Move.step (.abandon id)) concerned) kept
      | _ => exact concerned.elim
    | turn task =>
      obtain rfl : task = .call call := concerned
      by_cases wants : .call call ∈ a.ready
      · rw [move_own wants] at unfinished ⊢
        have rests : (runCall { a with ready := a.ready.erase (.call call) } call).Rests call := runCall_rests found
        exact rests.under_way unfinished
      · have still : a.move (.turn (.call call)) = a := if_neg wants
        exact ⟨stage, still.symm ▸ found⟩
  · have drifted := (move_passes a move concerned).stage
    rw [found] at drifted
    generalize (a.move move).stage? call = now at drifted ⊢
    cases drifted with
    | some => exact ⟨_, rfl⟩

/-- A call that has been started and not abandoned is under way or has returned. -/
theorem under_way (numbered : Numbered list) {operation : Operation} (started : .step (.call call operation) ∈ list)
    (kept : .step (.abandon call) ∉ list) (unfinished : ∀ result, (call, result) ∉ (moves { transport } list).finished) :
    ∃ stage, (moves { transport } list).stage? call = some stage := by
  induction list using List.reverseRecOn with
  | nil => cases started
  | append_singleton list move ih =>
    rcases List.mem_append.mp started with before | now
    · have earlier (result : Except Error Unit) : (call, result) ∉ (moves { transport } list).finished :=
        fun finished => unfinished result (finished_concat numbered before finished)
      obtain ⟨stage, found⟩ := ih numbered.left before (fun member => kept (List.mem_append_left _ member)) earlier
      have other : move ≠ .step (.abandon call) := fun same => kept (List.mem_append_right _ (same ▸ List.mem_cons_self))
      rw [moves_append] at unfinished ⊢
      exact move_under_way found (numbered.apart before rfl List.mem_cons_self) other unfinished
    · obtain rfl := List.mem_singleton.mp now
      have fresh (move : Move τ) (member : move ∈ list) : move.call? ≠ some call := fun same =>
        numbered.apart member same List.mem_cons_self rfl
      rw [moves_append]
      exact ⟨_, start_stage (moves_unheard transport fresh).1 operation⟩

end

/-- What is known of a session between any two moves, and how it is followed through a single turn of a call. -/
structure Followed (known : Session → Prop) (asserts : Operation → List Deed → Progress → Session → Prop) : Prop where
  passive : Session.Passive known
  poll : ∀ session stream, known session → known (Session.poll session stream).2
  drop : ∀ session stream, known session → known (Session.drop session stream)
  path : ∀ operation, Session.Path operation known (asserts operation)
  takenUp : ∀ operation deeds phase session, Session.Clears operation deeds (.asking phase) session → known session →
    asserts operation deeds (.asking phase) session

theorem Followed.move {known : Session → Prop} {asserts : Operation → List Deed → Progress → Session → Prop}
    (followed : Followed known asserts) {transport : τ} {list : List (Move τ)} (numbered : Numbered list)
    (before : known (moves { transport } list).session) (move : Move τ) :
    known (moves { transport } (list ++ [move])).session ∨ ∃ call operation deeds progress,
      .step (.call call operation) ∈ list ∧ asserts operation deeds progress (moves { transport } (list ++ [move])).session ∧
        ∀ result, progress = .finished result → (call, result) ∈ (moves { transport } (list ++ [move])).finished := by
  have last : moves { transport } (list ++ [move]) = (moves { transport } list).move move := moves_append ..
  rw [last]
  rcases move_passive followed.passive followed.poll followed.drop (moves { transport } list) move before with
    still | ⟨call, stage, rfl, wants, found⟩
  · exact .inl still
  · obtain ⟨operation, started⟩ := started_of_stage found
    have initial : ({} : Session).Distinct := fun kind => by cases kind <;> exact List.nodup_nil
    have clears := path_holds (Session.path_clears operation) Session.lasting_distinct (Session.lasting_clears operation)
      transport initial numbered started
    have asserted : Bears operation known (asserts operation) call _ (moves { transport } list) :=
      clears.become (clears.going stage found).2 (fun _ => before) fun deeds phase asked =>
        followed.takenUp operation deeds phase _ asked before
    rcases asserted.turned (followed.path operation) found wants with
      ⟨result, deeds, finished, ended⟩ | ⟨phase, deeds, -, asked⟩
    · refine .inr ⟨call, operation, deeds, .finished result, started, ended, ?_⟩
      rintro _ ⟨⟩
      exact finished
    · exact .inr ⟨call, operation, deeds, .asking phase, started, asked, nofun⟩

end

end Subscriber.Activity
