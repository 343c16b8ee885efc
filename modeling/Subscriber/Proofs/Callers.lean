import Subscriber.Link.Clients
import Subscriber.Proofs.Pipelining

/-! Callers who share a connection. What they make of the signals of a pass depends only on which calls were answered
in it, and nothing that they do takes a failure of the connection back. -/

namespace Subscriber

namespace Clients

private theorem answer_eq {clients : Clients} (once : clients.calls.Nodup) (call : Nat) (result : Except Fault Unit) :
    clients.answer call result = { clients with
      calls := clients.calls.filter (· != call),
      finished := clients.finished ++ if call ∈ clients.calls then [(call, result)] else [] } := by
  unfold answer
  by_cases waits : call ∈ clients.calls
  · rw [if_pos (List.contains_iff_mem.mpr waits), if_pos waits, once.erase_eq_filter]
  · have others : clients.calls.filter (· != call) = clients.calls := by
      refine List.filter_eq_self.mpr fun other member => bne_iff_ne.mpr ?_
      rintro rfl
      exact waits member
    rw [if_neg (mt List.contains_iff_mem.mp waits), if_neg waits, others, List.append_nil]

theorem link_foldl_hear (signals : List (Signal Fault)) (clients : Clients) :
    (signals.foldl hear clients).link = clients.link := by
  induction signals generalizing clients with
  | nil => rfl
  | cons signal signals ih =>
    rw [List.foldl_cons, ih]
    cases signal with
    | answer call result =>
      unfold hear answer
      dsimp only
      split <;> rfl
    | _ => rfl

/-- What clients have when they have heard all signals of a pass, in which no call is answered twice. -/
theorem foldl_hear (signals : List (Signal Fault)) (clients : Clients) (once : clients.calls.Nodup)
    (single : ((signals.filterMap Signal.answer?).map Prod.fst).Nodup) :
    (signals.foldl hear clients).calls =
      clients.calls.filter (fun call => call ∉ (signals.filterMap Signal.answer?).map Prod.fst) ∧
    (signals.foldl hear clients).finished =
      clients.finished ++ (signals.filterMap Signal.answer?).filter (fun entry => entry.1 ∈ clients.calls) ∧
    ∀ notice ∈ (signals.foldl hear clients).notices, notice ∈ clients.notices ∨ .notice notice ∈ signals := by
  induction signals generalizing clients with
  | nil => exact ⟨by simp, by simp, fun notice member => Or.inl member⟩
  | cons signal signals ih =>
    cases signal with
    | answer call result =>
      have first : (Signal.answer call result :: signals).filterMap Signal.answer? =
        (call, result) :: signals.filterMap Signal.answer? := rfl
      have apart : call ∉ (signals.filterMap Signal.answer?).map Prod.fst ∧
        ((signals.filterMap Signal.answer?).map Prod.fst).Nodup := List.nodup_cons.mp single
      let told : Clients := { clients with
        calls := clients.calls.filter (· != call),
        finished := clients.finished ++ if call ∈ clients.calls then [(call, result)] else [] }
      have heard : clients.hear (.answer call result) = told := answer_eq once call result
      rw [List.foldl_cons, heard, first]
      obtain ⟨calls, finished, notices⟩ := ih told (once.filter (· != call)) apart.2
      refine ⟨calls.trans ?_, finished.trans ?_, ?_⟩
      · rw [List.filter_filter]
        refine List.filter_congr fun other _ => ?_
        rw [Bool.eq_iff_iff, Bool.and_eq_true, decide_eq_true_eq, decide_eq_true_eq, bne_iff_ne, List.map_cons,
          List.mem_cons, not_or, and_comm]
      · have others : (signals.filterMap Signal.answer?).filter (fun entry => entry.1 ∈ clients.calls.filter (· != call)) =
            (signals.filterMap Signal.answer?).filter (fun entry => entry.1 ∈ clients.calls) := by
          refine List.filter_congr fun entry member => ?_
          have different : entry.1 ≠ call := by
            rintro rfl
            exact apart.1 (List.mem_map_of_mem member)
          simp [different]
        change told.finished ++ _ = _
        rw [others, List.append_assoc]
        by_cases waits : call ∈ clients.calls
        · simp [waits]
        · simp [waits]
      · exact fun notice member => (notices notice member).imp_right (List.mem_cons_of_mem _)
    | notice notice =>
      obtain ⟨calls, finished, notices⟩ := ih (clients.hear (.notice notice)) once single
      refine ⟨calls, finished, fun other member => ?_⟩
      rcases notices other member with earlier | new
      · rcases List.mem_append.mp earlier with before | this
        · exact Or.inl before
        · exact Or.inr (List.mem_singleton.mp this ▸ List.mem_cons_self)
      · exact Or.inr (List.mem_cons_of_mem _ new)
    | admitted call =>
      obtain ⟨calls, finished, notices⟩ := ih clients once single
      exact ⟨calls, finished, fun other member => (notices other member).imp_right (List.mem_cons_of_mem _)⟩
    | observed =>
      obtain ⟨calls, finished, notices⟩ := ih clients once single
      exact ⟨calls, finished, fun other member => (notices other member).imp_right (List.mem_cons_of_mem _)⟩

theorem link_settle (clients : Clients) : clients.settle.link = { clients.link.work with signals := [] } :=
  link_foldl_hear _ _

theorem link_answer (clients : Clients) (call : Nat) (result : Except Fault Unit) :
    (clients.answer call result).link = clients.link := by
  unfold answer
  split <;> rfl

theorem failure_request (clients : Clients) (call : Nat) (verb : Verb) (targets : List Bytes) :
    (clients.request call verb targets).link.failure = clients.link.failure := by
  obtain ⟨queue, waiting, requested⟩ := Link.request_eq clients.link call verb targets
  have asked : (clients.link.request call verb targets).2.failure = clients.link.failure := by
    rw [requested]
  unfold request
  dsimp only
  split
  · exact asked
  · rw [link_answer]
    exact asked

private theorem failure_close (clients : Clients) : clients.close.link.failure = clients.link.failure := by
  have abandoned (calls : List Nat) (link : Link) : (calls.foldl Link.abandon link).failure = link.failure := by
    induction calls generalizing link with
    | nil => rfl
    | cons call calls ih => exact (ih _).trans rfl
  exact abandoned _ _

private theorem begin_keeps (clients : Clients) (step : Step) : clients.link.Keeps (clients.begin step).2.link := by
  apply Link.Keeps.of_eq
  cases step with
  | network event => cases event <;> rfl
  | request call verb targets =>
    unfold begin
    dsimp only
    split
    · rfl
    · exact failure_request clients call verb targets
  | abandon call =>
    change (clients.abandon call).2.link.failure = _
    unfold abandon
    split <;> rfl
  | observe kind =>
    obtain ⟨observers, registered⟩ := Link.observe_eq clients.link kind
    unfold begin
    dsimp only
    split
    · rfl
    · change (clients.link.observe kind).2.failure = _
      rw [registered]
  | poll observer =>
    unfold begin
    dsimp only
    split <;> rfl
  | drain observer =>
    unfold begin
    dsimp only
    split <;> rfl
  | drop observer => rfl
  | close =>
    unfold begin
    dsimp only
    split
    · rfl
    · exact failure_close clients

theorem step_keeps (clients : Clients) (step : Step) : clients.link.Keeps (clients.step step).2.link := by
  have settled : (clients.begin step).2.link.work.Keeps (clients.begin step).2.settle.link :=
    .of_eq (by rw [link_settle])
  exact (begin_keeps clients step).trans ((Link.work_keeps _).trans settled)

end Clients

end Subscriber
