import Subscriber.Proofs.Scripts

/-! No call is left behind by the work of a connection: its request stays with the connection until the call is
answered, also when the connection fails or has failed. Nothing is left to write when the work is done, unless a
write is blocked. -/

namespace Subscriber

namespace Outbound

/-- Bytes that were not accepted are not accepted when they are offered again at once. -/
theorem send_blocked {outbound after : Outbound} {bytes unsent : Bytes}
    (sent : outbound.send bytes = (.blocked unsent, after)) : after.send unsent = (.blocked unsent, after) := by
  fun_induction send outbound bytes with
  | case1 => cases sent
  | case2 => cases sent
  | case3 outbound bytes some waits =>
    cases sent
    rw [send, dif_neg some]
    split
    · rfl
    next fails => cases waits.symm.trans fails
    next takes => cases waits.symm.trans takes
  | case4 => cases sent
  | case5 outbound bytes some count taken ih => exact ih sent

end Outbound

namespace Link

def Holds (link : Link) (call : Nat) : Prop :=
  call ∈ link.pending.map Pending.call ∨ call ∈ link.queue.map Request.call ∨ call ∈ link.waiting.map Request.call

/-- Nothing is kept where nobody would look after it. -/
structure Sound (link : Link) : Prop where
  room : 0 < link.capacity
  full : link.waiting ≠ [] → link.capacity ≤ link.queue.length
  failed : link.failure ≠ none → link.pending = []
  stopped : link.writer = .stopped → link.queue = [] ∧ link.waiting = []

/-- Work that leaves no call behind. When the connection has failed, all answers tell of the failure and no other
write begins. -/
structure Attends (before after : Link) : Prop where
  signals : before.signals <+: after.signals
  held : ∀ call, before.Holds call → after.Holds call ∨ ∃ result, .answer call result ∈ after.signals
  failing : ∀ fault, before.failure = some fault → after.failure = some fault ∧
    ∀ call result, .answer call result ∈ after.signals → .answer call result ∈ before.signals ∨ result = .error fault
  quiet : before.failure ≠ none → ∀ unsent, after.writer = .sending unsent → ∃ earlier, before.writer = .sending earlier
  sound : after.Sound

theorem Attends.refl {link : Link} (sound : link.Sound) : Attends link link :=
  ⟨List.prefix_refl _, fun _ => .inl, fun _ failed => ⟨failed, fun _ _ => .inl⟩, fun _ unsent sending => ⟨unsent, sending⟩,
    sound⟩

theorem Attends.silent {before after : Link} {more : List (Signal Fault)}
    (signals : after.signals = before.signals ++ more) (unheard : ∀ call result, .answer call result ∉ more)
    (pending : after.pending.map Pending.call = before.pending.map Pending.call) (queue : after.queue = before.queue)
    (waiting : after.waiting = before.waiting) (failure : after.failure = before.failure)
    (writer : ∀ unsent, after.writer = .sending unsent → ∃ earlier, before.writer = .sending earlier)
    (sound : after.Sound) : Attends before after where
  signals := by rw [signals]; exact List.prefix_append _ _
  held call holds := .inl (by unfold Holds; rw [pending, queue, waiting]; exact holds)
  failing fault failed := ⟨failure.trans failed, fun call result answered => by
    rw [signals] at answered
    exact (List.mem_append.mp answered).elim .inl fun new => absurd new (unheard call result)⟩
  quiet _ := writer
  sound := sound

theorem Attends.trans {a b c : Link} (first : Attends a b) (second : Attends b c) : Attends a c where
  signals := first.signals.trans second.signals
  held call holds := by
    rcases first.held call holds with still | ⟨result, answered⟩
    · exact second.held call still
    · exact .inr ⟨result, second.signals.subset answered⟩
  failing fault failed := by
    obtain ⟨kept, early⟩ := first.failing fault failed
    obtain ⟨kept', late⟩ := second.failing fault kept
    exact ⟨kept', fun call result answered => (late call result answered).elim (early call result) .inr⟩
  quiet failed unsent sending := by
    obtain ⟨fault, known⟩ := Option.ne_none_iff_exists'.mp failed
    obtain ⟨earlier, still⟩ := second.quiet (by simp [(first.failing fault known).1]) unsent sending
    exact first.quiet failed earlier still
  sound := second.sound

theorem Sound.told {link : Link} (sound : link.Sound) (inbound : Inbound) (reading : Bool) (outbound : Outbound)
    (observers : Observers Fault) (more : List (Signal Fault)) (silent : ∀ call result, .answer call result ∉ more) :
    Attends link { link with inbound, reading, outbound, observers, signals := link.signals ++ more } :=
  .silent rfl silent rfl rfl rfl rfl (fun unsent sending => ⟨unsent, sending⟩) { sound with }

private theorem Sound.answer {link : Link} (sound : link.Sound) {front : Pending} {others : List Pending}
    (pending : link.pending = front :: others) (result : Except Fault Unit) :
    Attends link ({ link with pending := others }.answer front.call result) where
  signals := List.prefix_append _ _
  held call holds := by
    rcases holds with among | elsewhere
    · rw [pending, List.map_cons, List.mem_cons] at among
      rcases among with rfl | behind
      · exact .inr ⟨result, List.mem_append_right _ List.mem_cons_self⟩
      · exact .inl (.inl behind)
    · exact .inl (.inr elsewhere)
  failing _ failed := by
    have nobody := sound.failed (by simp [failed])
    cases pending.symm.trans nobody
  quiet _ unsent sending := ⟨unsent, sending⟩
  sound := { sound with
    failed := fun failed => by cases pending.symm.trans (sound.failed failed) }

private theorem Sound.receive {link : Link} (sound : link.Sound) (push : Push) : Attends link (link.receive push) := by
  have noted (notice : Notice) : Attends link (link.note notice) :=
    sound.told link.inbound link.reading link.outbound link.observers [.notice notice] (by simp)
  cases push with
  | message message =>
    unfold Link.receive
    dsimp only
    split
    · simpa using sound.told link.inbound link.reading link.outbound (link.observers.deliver message) [] (by simp)
    · exact sound.told link.inbound link.reading link.outbound (link.observers.deliver message) [.observed] (by simp)
  | acknowledgement verb =>
    unfold Link.receive acknowledge
    dsimp only
    split
    · exact noted _
    next front others pending =>
      split
      · exact noted _
      · split
        · exact sound.answer pending (.ok ())
        · have unchanged := (List.append_nil link.signals).symm
          refine .silent unchanged (by simp) ?_ rfl rfl rfl (fun unsent sending => ⟨unsent, sending⟩)
            { sound with failed := fun failed => ?_ }
          · simp [pending]
          · cases pending.symm.trans (sound.failed failed)
  | refusal text =>
    unfold Link.receive refuse
    dsimp only
    split
    · exact noted _
    next front others pending => exact sound.answer pending _
  | _ => exact noted _

private theorem Sound.receiveAll {link : Link} (sound : link.Sound) (frames : List Frame) :
    Attends link (link.receiveAll frames) := by
  induction frames generalizing link with
  | nil => exact .refl sound
  | cons frame frames ih =>
    have first := sound.receive (.ofFrame frame)
    exact first.trans (ih first.sound)

theorem Sound.fail {link : Link} (sound : link.Sound) (fault : Fault) : Attends link (link.fail fault) := by
  cases known : link.failure with
  | some first =>
    rw [fail_failed known]
    exact .refl sound
  | none =>
    rw [fail_alive known]
    refine ⟨(List.prefix_append _ _).trans (List.prefix_append _ _), fun call holds => ?_, fun first failed => ?_,
      absurd known, { sound with failed := fun _ => rfl }⟩
    · rcases holds with among | elsewhere
      · obtain ⟨request, member, rfl⟩ := List.mem_map.mp among
        have told : Signal.answer request.call (.error fault) ∈
            link.pending.map fun request => (.answer request.call (.error fault) : Signal Fault) :=
          List.mem_map_of_mem member
        exact .inr ⟨_, List.mem_append_left _ (List.mem_append_right _ (List.mem_cons_of_mem _ told))⟩
      · exact .inl (.inr elsewhere)
    · cases known.symm.trans failed

theorem Sound.read {link : Link} (sound : link.Sound) : Attends link link.read := by
  have taken : Attends link { link with inbound := link.inbound.readAll.rest } := by
    simpa using sound.told link.inbound.readAll.rest link.reading link.outbound link.observers [] (by simp)
  have passed : Attends link link.passed := taken.trans (taken.sound.receiveAll link.inbound.readAll.frames)
  cases reading : link.reading with
  | false =>
    rw [Link.read, if_neg (by simp [reading])]
    exact .refl sound
  | true =>
    cases outcome : link.inbound.readAll.failure with
    | none =>
      rw [read_complete reading outcome]
      exact passed
    | some error =>
      have failed := passed.trans (passed.sound.fail (.ofError error))
      rw [read_broken reading outcome]
      exact ⟨failed.signals, failed.held, failed.failing, failed.quiet, { failed.sound with }⟩

private theorem Sound.stopWriting {link : Link} (sound : link.Sound) (failed : link.failure ≠ none) :
    Attends link link.stopWriting := by
  rw [stopWriting_eq]
  refine ⟨List.prefix_append _ _, fun call holds => ?_, fun fault known => ⟨known, fun call result answered => ?_⟩,
    nofun, ⟨sound.room, absurd rfl, fun _ => sound.failed failed, fun _ => ⟨rfl, rfl⟩⟩⟩
  · have given {request : Request} (member : request ∈ link.waiting ++ link.queue) :
        Signal.answer request.call (.error link.loss) ∈ link.signals ++
          (link.waiting ++ link.queue).map fun request => .answer request.call (.error link.loss) :=
      List.mem_append_right _ (List.mem_map_of_mem member)
    rcases holds with among | among | among
    · exact .inl (.inl among)
    · obtain ⟨request, member, rfl⟩ := List.mem_map.mp among
      exact .inr ⟨_, given (List.mem_append_right _ member)⟩
    · obtain ⟨request, member, rfl⟩ := List.mem_map.mp among
      exact .inr ⟨_, given (List.mem_append_left _ member)⟩
  · rcases List.mem_append.mp answered with before | new
    · exact .inl before
    · obtain ⟨request, -, same⟩ := List.mem_map.mp new
      cases same
      exact .inr (by rw [loss, known]; rfl)

/-- On a connection that has failed only a write that was begun before goes on. -/
theorem Sound.send {link : Link} (sound : link.Sound) (bytes : Bytes)
    (begun : link.failure ≠ none → ∃ earlier, link.writer = .sending earlier) : Attends link (link.send bytes) := by
  have moved (writer : Writer) (outbound : Outbound) (goesOn : writer ≠ .stopped) :
      Attends link { link with outbound, writer } :=
    ⟨List.prefix_refl _, fun _ => .inl, fun _ failed => ⟨failed, fun _ _ => .inl⟩, fun failed _ _ => begun failed,
      { sound with stopped := fun stopped => absurd stopped goesOn }⟩
  unfold Link.send
  split
  · exact moved .idle _ nofun
  · exact moved (.sending _) _ nofun
  next cause outbound _ =>
    have taken := sound.told link.inbound link.reading outbound link.observers [] (by simp)
    rw [List.append_nil] at taken
    have failed := taken.trans (taken.sound.fail (.io cause))
    exact failed.trans (failed.sound.stopWriting (by simp [failure_fail]))

/-- Taking up a request makes it pending, or answers it. -/
theorem Sound.takeUp {link : Link} (sound : link.Sound) {request : Request} {queue : List Request}
    (front : link.queue = request :: queue) (idle : link.writer = .idle) :
    Attends link ((link.dequeue queue).perform request) := by
  obtain ⟨queue', waiting, admitted, dequeued, order, size⟩ := dequeue_eq link queue
  have unheard (call : Nat) (result : Except Fault Unit) :
      .answer call result ∉ List.map Signal.admitted admitted := by simp
  have full (crowded : waiting ≠ []) : link.capacity ≤ queue'.length := by
    have filled := sound.full (size crowded).1
    rw [front, List.length_cons] at filled
    exact (size crowded).2 ▸ filled
  have among {call : Nat} (holds : call ∈ link.queue.map Request.call ∨ call ∈ link.waiting.map Request.call) :
      call = request.call ∨ call ∈ queue'.map Request.call ∨ call ∈ waiting.map Request.call := by
    rw [← List.mem_append, ← List.map_append, front, List.cons_append, ← order, List.map_cons, List.mem_cons,
      List.map_append, List.mem_append] at holds
    exact holds
  rw [dequeued, perform]
  dsimp only
  split
  next fault known =>
    refine ⟨(List.prefix_append _ _).trans (List.prefix_append _ _), fun call holds => ?_, fun first failed => ?_,
      fun _ unsent sending => ⟨unsent, sending⟩, ?_⟩
    · rcases holds with before | later
      · exact .inl (.inl before)
      · rcases among later with rfl | still
        · exact .inr ⟨.error fault, List.mem_append_right _ List.mem_cons_self⟩
        · exact .inl (.inr still)
    · cases known.symm.trans failed
      refine ⟨known, fun call result answered => ?_⟩
      rcases List.mem_append.mp answered with old | new
      · exact .inl ((List.mem_append.mp old).resolve_right (unheard call result))
      · cases List.mem_singleton.mp new
        exact .inr rfl
    · exact ⟨sound.room, full, fun failed => sound.failed failed, fun stopped => by cases idle.symm.trans stopped⟩
  next known =>
    let pending : Pending := { call := request.call, verb := request.verb, remaining := request.targets.length }
    let begun : Link := { link with
      queue := queue', waiting, signals := link.signals ++ List.map Signal.admitted admitted,
      pending := link.pending ++ [pending] }
    have taken : Attends link begun := by
      refine ⟨List.prefix_append _ _, fun call holds => ?_, fun fault failed => ?_, absurd known, ?_⟩
      · rcases holds with before | later
        · exact .inl (.inl (by simp only [begun, List.map_append]; exact List.mem_append_left _ before))
        · rcases among later with rfl | still
          · exact .inl (.inl (by simp [begun, pending]))
          · exact .inl (.inr still)
      · cases known.symm.trans failed
      · exact ⟨sound.room, full, fun failed => absurd known failed, fun stopped => by cases idle.symm.trans stopped⟩
    exact taken.trans (taken.sound.send (request.verb.command request.targets).frame.encode (absurd known))

private theorem Sound.serve {link : Link} (sound : link.Sound) : Attends link link.serve := by
  unfold Link.serve
  split
  · exact .refl sound
  next request queue front =>
    have shorter := Nat.lt_of_le_of_lt (backlog_perform (link.dequeue queue) request) (backlog_dequeue front)
    split
    next idle =>
      have taken := sound.takeUp front idle
      exact taken.trans taken.sound.serve
    · exact .refl sound
termination_by link.backlog

private theorem Sound.write {link : Link} (sound : link.Sound) : Attends link link.write := by
  unfold Link.write
  split
  next unsent sending =>
    have sent := sound.send unsent fun _ => ⟨unsent, sending⟩
    exact sent.trans sent.sound.serve
  · exact sound.serve

/-- How a connection stands when everything is done that needs no waiting. -/
structure Rests (link : Link) : Prop where
  served : link.writer = .idle → link.queue = []
  blocked : ∀ unsent, link.writer = .sending unsent → link.outbound.send unsent = (.blocked unsent, link.outbound)

theorem send_blocked {link : Link} {bytes unsent : Bytes} (sending : (link.send bytes).writer = .sending unsent) :
    (link.send bytes).outbound.send unsent = (.blocked unsent, (link.send bytes).outbound) := by
  unfold send at sending ⊢
  split at sending
  · cases sending
  next left outbound sent =>
    cases sending
    exact Outbound.send_blocked sent
  · rw [stopWriting_eq] at sending
    cases sending

private theorem perform_blocked {link : Link} {request : Request} {unsent : Bytes} (idle : link.writer = .idle)
    (sending : (link.perform request).writer = .sending unsent) :
    (link.perform request).outbound.send unsent = (.blocked unsent, (link.perform request).outbound) := by
  unfold perform at sending ⊢
  split at sending
  · cases idle.symm.trans sending
  · exact send_blocked sending

private theorem rests_serve {link : Link}
    (blocked : ∀ unsent, link.writer = .sending unsent → link.outbound.send unsent = (.blocked unsent, link.outbound)) :
    link.serve.Rests := by
  unfold serve
  split
  next empty => exact ⟨fun _ => empty, blocked⟩
  next request queue front =>
    have shorter := Nat.lt_of_le_of_lt (backlog_perform (link.dequeue queue) request) (backlog_dequeue front)
    split
    next idle =>
      have dequeued : (link.dequeue queue).writer = .idle := by
        obtain ⟨_, _, _, same, -⟩ := dequeue_eq link queue
        rw [same]
        exact idle
      exact rests_serve fun unsent sending => perform_blocked dequeued sending
    next busy => exact ⟨fun idle => absurd idle busy, blocked⟩
termination_by link.backlog

theorem rests_write (link : Link) : link.write.Rests := by
  unfold write
  split
  · exact rests_serve fun unsent sending => send_blocked sending
  next still => exact rests_serve fun unsent sending => absurd sending (still unsent)

private theorem Rests.wind {link : Link} (rests : link.Rests) : link.wind.Rests := by
  unfold Link.wind
  split
  · exact ⟨nofun, nofun⟩
  · exact ⟨nofun, nofun⟩
  · exact rests

private theorem Sound.wind {link : Link} (sound : link.Sound) (rests : link.Rests) : Attends link link.wind := by
  have ends (none : link.queue = [] ∧ link.waiting = []) :
      Attends link { link with writer := .stopped, observers := link.observers.close } :=
    .silent (List.append_nil _).symm (by simp) rfl rfl rfl rfl nofun { sound with stopped := fun _ => none }
  unfold Link.wind
  split
  next idle =>
    have empty := rests.served idle
    refine ends ⟨empty, ?_⟩
    by_contra crowded
    have filled := sound.full crowded
    rw [empty] at filled
    exact absurd sound.room (Nat.not_lt.mpr filled)
  next stopped => exact ends (sound.stopped stopped)
  · exact .refl sound

theorem Sound.work {link : Link} (sound : link.Sound) : Attends link link.work ∧ link.work.Rests := by
  have readAll := sound.read
  have written := readAll.trans readAll.sound.write
  have rests := rests_write link.read
  exact ⟨written.trans (written.sound.wind rests), rests.wind⟩

end Link

end Subscriber
