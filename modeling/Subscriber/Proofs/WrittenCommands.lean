import Subscriber.Proofs.Attending
import Subscriber.Proofs.Framing

/-! What the server gets to see. Requests are written in the order in which they enter the queue, each as a whole before
the next begins, and after a failure nothing is written but the rest of a write that was begun before. -/

namespace Subscriber

namespace Outbound

/-- Whatever a write comes to, the bytes that it hands over are the first of those it was given. -/
theorem send_between (outbound : Outbound) (bytes : Bytes) :
    outbound.accepted <+: (outbound.send bytes).2.accepted ∧
      (outbound.send bytes).2.accepted <+: outbound.accepted ++ bytes := by
  have nothing := And.intro (List.prefix_refl outbound.accepted) (List.prefix_append outbound.accepted bytes)
  fun_induction send outbound bytes with
  | case1 => exact nothing
  | case2 => exact nothing
  | case3 => exact nothing
  | case4 => exact nothing
  | case5 outbound bytes some count taken ih =>
    obtain ⟨base, short⟩ := ih ⟨List.prefix_refl _, List.prefix_append _ _⟩
    refine ⟨(List.prefix_append _ _).trans base, ?_⟩
    simpa only [List.append_assoc, List.take_append_drop] using short

end Outbound

namespace Link

/-- The requests that get room in the queue while others are taken up, in the order in which they do. -/
def admits (link : Link) : List Request :=
  match _front : link.queue with
  | [] => []
  | request :: queue =>
    if link.writer = .idle then link.waiting.head?.toList ++ admits ((link.dequeue queue).perform request) else []
termination_by link.backlog
decreasing_by exact Nat.lt_of_le_of_lt (backlog_perform _ _) (backlog_dequeue _front)

/-- The same for a pass, which first goes on with a write that was begun before. -/
def admitsLater (link : Link) : List Request :=
  match link.writer with
  | .sending unsent => (link.send unsent).admits
  | _ => link.admits

theorem admits_step {link : Link} {request : Request} {queue : List Request} (front : link.queue = request :: queue)
    (idle : link.writer = .idle) :
    link.admits = link.waiting.head?.toList ++ ((link.dequeue queue).perform request).admits := by
  rw [admits]
  split
  next empty => cases front.symm.trans empty
  next first others same =>
    cases front.symm.trans same
    rw [if_pos idle]

theorem serve_step {link : Link} {request : Request} {queue : List Request} (front : link.queue = request :: queue)
    (idle : link.writer = .idle) : link.serve = ((link.dequeue queue).perform request).serve := by
  rw [serve]
  split
  next empty => cases front.symm.trans empty
  next first others same =>
    cases front.symm.trans same
    rw [if_pos idle]

theorem serve_idle {link : Link} (idle : link.queue = [] ∨ link.writer ≠ .idle) :
    link.serve = link ∧ link.admits = [] := by
  rw [serve, admits]
  rcases idle with empty | busy
  · constructor
    · split
      · rfl
      next front => cases empty.symm.trans front
    · split
      · rfl
      next front => cases empty.symm.trans front
  · constructor
    · split
      · rfl
      · rw [if_neg busy]
    · split
      · rfl
      · rw [if_neg busy]

theorem dequeue_parts (link : Link) (queue : List Request) : ∃ signals,
    link.dequeue queue = { link with
      queue := queue ++ link.waiting.head?.toList, waiting := link.waiting.tail, signals } := by
  unfold dequeue
  split
  next empty => exact ⟨link.signals, by simp [empty]⟩
  next first others waiting =>
    dsimp only
    split
    · exact ⟨link.signals, by simp [waiting]⟩
    · exact ⟨_, by rw [signal, waiting]; rfl⟩

/-- How the bytes handed over stand to the requests that have entered the queue. Of these, the first `taken` have been
taken up to be written; `before` was handed over before any of them. -/
structure Tells (before : Bytes) (entered taken : List Request) (link : Link) : Prop where
  first : taken <+: entered
  base : before <+: link.outbound.accepted
  torn : link.outbound.accepted <+: before ++ Frame.encodeItems (taken.map Request.frame)
  whole : link.writer ≠ .stopped ∨ link.failure = none →
    link.outbound.accepted ++ link.writer.unsent = before ++ Frame.encodeItems (taken.map Request.frame)
  level : link.failure = none → entered = taken ++ link.queue
  ends : link.writer = .stopped → link.failure ≠ none ∨ link.closed = true

namespace Tells
variable {before : Bytes} {entered taken : List Request} {link : Link}

private theorem aside {other : Link} (tells : link.Tells before entered taken) (writer : other.writer = link.writer)
    (accepted : other.outbound.accepted = link.outbound.accepted) (queue : other.queue = link.queue)
    (closed : other.closed = link.closed) (kept : link.Keeps other) : other.Tells before entered taken where
  first := tells.first
  base := accepted ▸ tells.base
  torn := accepted ▸ tells.torn
  whole running := by
    rw [accepted, writer]
    exact tells.whole (running.imp (writer ▸ ·) kept.alive)
  level alive := by rw [queue]; exact tells.level (kept.alive alive)
  ends stopped := by
    rw [closed]
    exact (tells.ends (writer.symm.trans stopped)).imp_left fun failed alive => failed (kept.alive alive)

private theorem read (tells : link.Tells before entered taken) : link.read.Tells before entered taken := by
  obtain ⟨inbound, reading, pending, observers, failure, signals, read⟩ := read_eq link
  refine tells.aside ?_ ?_ ?_ ?_ (read_keeps link)
  all_goals rw [read]

/-- A write hands over what is missing of the commands taken up, or stops inside them for good. -/
theorem send {bytes : Bytes} (first : taken <+: entered) (base : before <+: link.outbound.accepted)
    (parts : link.outbound.accepted ++ bytes = before ++ Frame.encodeItems (taken.map Request.frame))
    (level : link.failure = none → entered = taken ++ link.queue) :
    (link.send bytes).Tells before entered taken := by
  obtain ⟨grown, short⟩ := Outbound.send_between link.outbound bytes
  have base' := base.trans grown
  rw [parts] at short
  unfold Link.send
  split
  next outbound sent =>
    have all := (Outbound.send_accepted sent).1 rfl
    rw [sent] at short base'
    exact ⟨first, base', short, fun _ => by rw [Writer.unsent, List.append_nil, all, parts], level,
      fun stopped => by cases stopped⟩
  next unsent outbound sent =>
    have all := (Outbound.send_accepted sent).2 unsent rfl
    rw [sent] at short base'
    exact ⟨first, base', short, fun _ => by rw [Writer.unsent, all, parts], level, fun stopped => by cases stopped⟩
  next cause outbound sent =>
    rw [sent] at short base'
    have broken := failure_fail { link with outbound } (.io cause)
    obtain ⟨pending, observers, failure, signals, failed⟩ := fail_eq { link with outbound } (.io cause)
    rw [failed] at broken
    have dead : failure ≠ none := fun alive => by cases broken.symm.trans alive
    rw [failed, stopWriting_eq]
    exact ⟨first, base', short, fun running => absurd rfl (running.resolve_right dead), fun alive => absurd alive dead,
      fun _ => .inl dead⟩

private theorem takeUp {request : Request} {queue : List Request} (tells : link.Tells before entered taken)
    (front : link.queue = request :: queue) (idle : link.writer = .idle) :
    ∃ taken', ((link.dequeue queue).perform request).Tells before (entered ++ link.waiting.head?.toList) taken' := by
  obtain ⟨signals, dequeued⟩ := dequeue_parts link queue
  have grown := tells.first.trans (List.prefix_append entered link.waiting.head?.toList)
  have written := tells.whole (.inl (by simp [idle]))
  rw [idle, Writer.unsent, List.append_nil] at written
  rw [dequeued, perform]
  dsimp only
  split
  next fault broken =>
    refine ⟨taken, grown, tells.base, tells.torn, fun _ => ?_, fun alive => ?_, fun stopped => ?_⟩
    rotate_left
    · cases broken.symm.trans alive
    · cases idle.symm.trans stopped
    change link.outbound.accepted ++ link.writer.unsent = _
    rw [idle, Writer.unsent, List.append_nil, written]
  next alive =>
    have entered' : entered = taken ++ [request] ++ queue := by
      rw [tells.level alive, front]
      simp
    refine ⟨taken ++ [request], .send ?_ tells.base ?_ fun _ => ?_⟩
    · rw [entered', List.append_assoc]
      exact List.prefix_append _ _
    · change link.outbound.accepted ++ request.frame.encode = _
      rw [written, List.map_append, Frame.encodeItems_append, List.append_assoc]
      simp [Frame.encodeItems]
    · rw [entered', List.append_assoc]

private theorem serve {entered taken : List Request} {link : Link} (tells : link.Tells before entered taken) :
    ∃ taken', link.serve.Tells before (entered ++ link.admits) taken' := by
  by_cases ready : link.queue = [] ∨ link.writer ≠ .idle
  · obtain ⟨served, none⟩ := serve_idle ready
    rw [served, none, List.append_nil]
    exact ⟨taken, tells⟩
  · obtain ⟨some, idle⟩ := not_or.mp ready
    obtain ⟨request, queue, front⟩ := List.exists_cons_of_ne_nil some
    have idle := not_not.mp idle
    have shorter := Nat.lt_of_le_of_lt (backlog_perform (link.dequeue queue) request) (backlog_dequeue front)
    obtain ⟨taken', next⟩ := tells.takeUp front idle
    rw [serve_step front idle, admits_step front idle, ← List.append_assoc]
    exact next.serve
termination_by link.backlog

private theorem write (tells : link.Tells before entered taken) :
    ∃ taken', link.write.Tells before (entered ++ link.admitsLater) taken' := by
  cases writer : link.writer with
  | sending unsent =>
    have parts := tells.whole (.inl (by simp [writer]))
    rw [writer] at parts
    simp only [Link.write, admitsLater, writer]
    exact (send tells.first tells.base parts tells.level).serve
  | idle =>
    simp only [Link.write, admitsLater, writer]
    exact tells.serve
  | stopped =>
    simp only [Link.write, admitsLater, writer]
    exact tells.serve

private theorem wind (tells : link.Tells before entered taken) : link.wind.Tells before entered taken := by
  unfold Link.wind
  split
  next closed idle =>
    refine { tells with whole := fun _ => ?_, ends := fun _ => .inr closed }
    have written := tells.whole (.inl (by simp [idle]))
    rw [idle] at written
    exact written
  next closed stopped =>
    refine { tells with whole := fun running => ?_, ends := fun _ => .inr closed }
    have written := tells.whole (.inr (running.resolve_left (absurd rfl)))
    rw [stopped] at written
    exact written
  · exact tells

private theorem work (tells : link.Tells before entered taken) :
    ∃ taken', link.work.Tells before (entered ++ link.read.admitsLater) taken' := by
  obtain ⟨taken', written⟩ := tells.read.write
  exact ⟨taken', written.wind⟩

end Tells

theorem send_waiting (link : Link) (bytes : Bytes) :
    (link.send bytes).waiting = link.waiting ∨ (link.send bytes).waiting = [] ∧ (link.send bytes).failure ≠ none := by
  unfold send
  split
  · exact .inl rfl
  · exact .inl rfl
  next cause outbound _ =>
    rw [stopWriting_eq]
    exact .inr ⟨rfl, by simp [failure_fail]⟩

private theorem perform_waiting (link : Link) (request : Request) :
    (link.perform request).waiting = link.waiting ∨
      (link.perform request).waiting = [] ∧ (link.perform request).failure ≠ none := by
  unfold perform
  split
  · exact .inl rfl
  · exact send_waiting _ _

/-- Whoever waits for room gets into the queue, goes on waiting or is given up because nothing is written any more. -/
theorem admits_waiting (link : Link) : (link.admits ++ link.serve.waiting).Sublist link.waiting ∧
    (link.serve.failure = none → link.admits ++ link.serve.waiting = link.waiting) := by
  by_cases ready : link.queue = [] ∨ link.writer ≠ .idle
  · obtain ⟨served, none⟩ := serve_idle ready
    rw [served, none]
    exact ⟨List.Sublist.refl _, fun _ => rfl⟩
  · obtain ⟨some, idle⟩ := not_or.mp ready
    obtain ⟨request, queue, front⟩ := List.exists_cons_of_ne_nil some
    have idle := not_not.mp idle
    have shorter := Nat.lt_of_le_of_lt (backlog_perform (link.dequeue queue) request) (backlog_dequeue front)
    obtain ⟨signals, dequeued⟩ := dequeue_parts link queue
    obtain ⟨fewer, same⟩ := admits_waiting ((link.dequeue queue).perform request)
    have parts : link.waiting.head?.toList ++ link.waiting.tail = link.waiting := by cases link.waiting <;> rfl
    have behind : (link.dequeue queue).waiting = link.waiting.tail := by rw [dequeued]
    rw [serve_step front idle, admits_step front idle, List.append_assoc]
    rcases perform_waiting (link.dequeue queue) request with kept | ⟨gone, failed⟩
    · rw [kept, behind] at fewer same
      refine ⟨?_, fun alive => by rw [same alive, parts]⟩
      have all := fewer.append_left link.waiting.head?.toList
      rw [parts] at all
      exact all
    · rw [gone, List.sublist_nil] at fewer
      rw [fewer, List.append_nil]
      refine ⟨?_, fun alive => absurd ((serve_writes _).keeps.alive alive) failed⟩
      cases link.waiting <;> simp
termination_by link.backlog

private theorem admitsLater_waiting (link : Link) : (link.admitsLater ++ link.write.waiting).Sublist link.waiting ∧
    (link.write.failure = none → link.admitsLater ++ link.write.waiting = link.waiting) := by
  cases writer : link.writer with
  | sending unsent =>
    simp only [write, admitsLater, writer]
    obtain ⟨fewer, same⟩ := admits_waiting (link.send unsent)
    rcases send_waiting link unsent with kept | ⟨gone, failed⟩
    · exact kept ▸ ⟨fewer, same⟩
    · rw [gone, List.sublist_nil] at fewer
      exact ⟨fewer ▸ List.nil_sublist _, fun alive => absurd ((serve_writes _).keeps.alive alive) failed⟩
  | idle =>
    simp only [write, admitsLater, writer]
    exact admits_waiting link
  | stopped =>
    simp only [write, admitsLater, writer]
    exact admits_waiting link

private theorem work_waiting (link : Link) : (link.read.admitsLater ++ link.work.waiting).Sublist link.waiting ∧
    (link.work.failure = none → link.read.admitsLater ++ link.work.waiting = link.waiting) := by
  obtain ⟨inbound, reading, pending, observers, failure, signals, read⟩ := read_eq link
  have before : link.read.waiting = link.waiting := by rw [read]
  have after : link.work.waiting = link.read.write.waiting := by
    unfold work wind
    split <;> rfl
  obtain ⟨fewer, same⟩ := admitsLater_waiting link.read
  rw [after, ← before]
  exact ⟨fewer, fun alive => same ((wind_writes _).keeps.alive alive)⟩

end Link

namespace Clients

def admits (clients : Clients) (step : Step) : List Request :=
  let begun := (clients.begin step).2
  begun.link.queue.drop clients.link.queue.length ++ begun.link.read.admitsLater

/-- The requests that enter the queue in a script, in the order in which they do. -/
def entered (clients : Clients) : List Step → List Request
  | [] => []
  | step :: later => clients.admits step ++ (clients.step step).2.entered later

private theorem entered_concat (clients : Clients) (steps : List Step) (step : Step) :
    clients.entered (steps ++ [step]) = clients.entered steps ++ (clients.after steps).admits step := by
  induction steps generalizing clients with
  | nil => exact List.append_nil _
  | cons first steps ih =>
    rw [List.cons_append, entered, entered, ih, List.append_assoc]
    rfl

/-- How a connection stands to the requests that were made in a script and to those that have entered the queue. -/
structure Wrote (before : Bytes) (steps : List Step) (entered : List Request) (link : Link) : Prop where
  sound : link.Sound
  tells : ∃ taken, link.Tells before entered taken
  line : (entered ++ link.waiting).Sublist (requests steps)
  present : link.failure = none → link.closed = false → ∀ request ∈ requests steps, request.targets ≠ [] →
    .abandon request.call ∉ steps → request ∈ entered ++ link.waiting

namespace Wrote
variable {before : Bytes} {steps : List Step} {entered : List Request} {link : Link}

private theorem work (wrote : Wrote before steps entered link) :
    Wrote before steps (entered ++ link.read.admitsLater) { link.work with signals := [] } := by
  obtain ⟨taken, tells⟩ := wrote.tells
  obtain ⟨taken', done⟩ := tells.work
  obtain ⟨fewer, same⟩ := link.work_waiting
  have sound := wrote.sound.work.1.sound
  refine ⟨{ sound with }, ⟨taken', { done with }⟩, ?_, ?_⟩
  · rw [List.append_assoc]
    exact (fewer.append_left entered).trans wrote.line
  · intro alive unclosed request made aimed kept
    rw [List.append_assoc, same alive]
    exact wrote.present ((Link.work_keeps _).alive alive) ((Link.closed_work _).symm.trans unclosed) request made aimed kept

theorem early (wrote : Wrote before steps entered link) {step : Step} (alive : link.failure = none)
    (unclosed : link.closed = false) {request : Request} (made : request ∈ requests steps) (aimed : request.targets ≠ [])
    (kept : .abandon request.call ∉ steps ++ [step]) : request ∈ entered ++ link.waiting :=
  wrote.present alive unclosed request made aimed fun member => kept (List.mem_append_left _ member)

theorem grows (wrote : Wrote before steps entered link) (step : Step) :
    (entered ++ link.waiting).Sublist (requests (steps ++ [step])) := by
  rw [requests_concat]
  exact wrote.line.trans (List.sublist_append_left _ _)

private theorem aside (wrote : Wrote before steps entered link) {step : Step} (inbound : Inbound) (acceptance : Acceptance)
    (observers : Observers Fault)
    (excused : ∀ request ∈ step.request?, request.targets = [] ∨ link.failure ≠ none ∨ link.closed = true) :
    Wrote before (steps ++ [step]) entered
      { link with inbound, outbound := { link.outbound with acceptance }, observers } := by
  obtain ⟨taken, tells⟩ := wrote.tells
  have sound := wrote.sound
  refine ⟨{ sound with }, ⟨taken, { tells with }⟩, wrote.grows step, fun alive unclosed request made aimed kept => ?_⟩
  rw [requests_concat] at made
  rcases List.mem_append.mp made with earlier | new
  · exact wrote.early alive unclosed earlier aimed kept
  · rcases excused request (by simpa using new) with none | failed | closed
    · exact absurd none aimed
    · exact absurd alive failed
    · cases unclosed.symm.trans closed

private theorem enters (wrote : Wrote before steps entered link) (request : Request) (running : link.writer ≠ .stopped)
    (room : link.queue.length < link.capacity) :
    Wrote before (steps ++ [.request request.call request.verb request.targets]) (entered ++ [request])
      { link with queue := link.queue ++ [request] } := by
  obtain ⟨taken, tells⟩ := wrote.tells
  have sound := wrote.sound
  have nobody : link.waiting = [] := by
    by_contra crowded
    exact absurd (sound.full crowded) (Nat.not_le.mpr room)
  have made : requests (steps ++ [.request request.call request.verb request.targets]) = requests steps ++ [request] :=
    requests_concat _ _
  refine ⟨{ sound with full := fun crowded => absurd nobody crowded, stopped := fun stopped => absurd stopped running },
    ⟨taken, { tells with first := ?_, level := fun alive => ?_ }⟩, ?_, fun alive unclosed other among aimed kept => ?_⟩
  · exact tells.first.trans (List.prefix_append _ _)
  · rw [tells.level alive, List.append_assoc]
  · have line := wrote.line
    rw [nobody, List.append_nil] at line
    rw [nobody, List.append_nil, made]
    exact line.append (List.Sublist.refl _)
  · rw [nobody, List.append_nil]
    rcases List.mem_append.mp (made ▸ among) with earlier | this
    · have there := wrote.early alive unclosed earlier aimed kept
      rw [nobody, List.append_nil] at there
      exact List.mem_append_left _ there
    · exact List.mem_append_right _ this

private theorem waits (wrote : Wrote before steps entered link) (request : Request) (running : link.writer ≠ .stopped)
    (crowded : link.capacity ≤ link.queue.length) :
    Wrote before (steps ++ [.request request.call request.verb request.targets]) entered
      { link with waiting := link.waiting ++ [request] } := by
  obtain ⟨taken, tells⟩ := wrote.tells
  have sound := wrote.sound
  have made : requests (steps ++ [.request request.call request.verb request.targets]) = requests steps ++ [request] :=
    requests_concat _ _
  refine ⟨{ sound with full := fun _ => crowded, stopped := fun stopped => absurd stopped running },
    ⟨taken, { tells with }⟩, ?_, fun alive unclosed other among aimed kept => ?_⟩
  · rw [made, ← List.append_assoc]
    exact wrote.line.append (List.Sublist.refl _)
  · rw [← List.append_assoc]
    rcases List.mem_append.mp (made ▸ among) with earlier | this
    · exact List.mem_append_left _ (wrote.early alive unclosed earlier aimed kept)
    · exact List.mem_append_right _ this

private theorem thins (wrote : Wrote before steps entered link) (step : Step) (unasked : step.request? = none)
    (stays : Request → Bool) (closed reading : Bool) (kept : link.closed = true → closed = true)
    (known : closed = false → ∀ request, stays request = false → step = .abandon request.call) :
    Wrote before (steps ++ [step]) entered { link with waiting := link.waiting.filter stays, closed, reading } := by
  obtain ⟨taken, tells⟩ := wrote.tells
  have sound := wrote.sound
  refine ⟨{ sound with full := fun crowded => ?_, stopped := fun stopped => ?_ }, ⟨taken, { tells with ends := ?_ }⟩, ?_,
    fun alive unclosed request made aimed among => ?_⟩
  · exact sound.full fun empty => crowded (by rw [empty]; rfl)
  · obtain ⟨queue, waiting⟩ := sound.stopped stopped
    exact ⟨queue, by rw [waiting]; rfl⟩
  · exact fun stopped => (tells.ends stopped).imp_right kept
  · exact (List.filter_sublist.append_left entered).trans (wrote.grows step)
  · have before : link.closed = false := by
      cases was : link.closed with
      | false => rfl
      | true => cases unclosed.symm.trans (kept was)
    rw [requests_concat, unasked] at made
    rcases List.mem_append.mp (wrote.early alive before (by simpa using made) aimed among) with there | waiting
    · exact List.mem_append_left _ there
    · refine List.mem_append_right _ (List.mem_filter.mpr ⟨waiting, ?_⟩)
      by_contra leaves
      have given := known unclosed request (by simpa using leaves)
      exact among (List.mem_append_right _ (given ▸ List.mem_singleton_self _))

private theorem begin {clients : Clients} (wrote : Wrote before steps entered clients.link) {step : Step} {begun : Clients}
    (begins : clients.Begins step begun) :
    Wrote before (steps ++ [step]) (entered ++ begun.link.queue.drop clients.link.queue.length) begun.link := by
  have nothing : clients.link.queue.drop clients.link.queue.length = [] := List.drop_length
  cases begins with
  | aside step unasked inbound acceptance observers =>
    rw [nothing, List.append_nil]
    refine wrote.aside inbound acceptance observers fun request made => ?_
    exact .inr (.inr (unasked.resolve_left fun none => by cases none.symm.trans made))
  | enters request aimed unclosed running room =>
    have new : (clients.link.queue ++ [request]).drop clients.link.queue.length = [request] := List.drop_left
    rw [new]
    exact wrote.enters request running room
  | waits request aimed unclosed running crowded =>
    rw [nothing, List.append_nil]
    exact wrote.waits request running crowded
  | answered request result why =>
    rw [link_answer, nothing, List.append_nil]
    refine wrote.aside clients.link.inbound clients.link.outbound.acceptance clients.link.observers fun made same => ?_
    cases same
    obtain ⟨taken, tells⟩ := wrote.tells
    exact why.imp_right fun ⟨stopped, _⟩ => tells.ends stopped
  | leaves call =>
    rw [show (clients.link.abandon call).queue = clients.link.queue from rfl, nothing, List.append_nil]
    refine wrote.thins (.abandon call) rfl (·.call != call) clients.link.closed clients.link.reading id
      fun _ request leaves => ?_
    rw [show request.call = call by simpa using leaves]
  | closes =>
    rw [link_close, nothing, List.append_nil]
    exact wrote.thins .close rfl _ true false (fun _ => rfl) nofun

end Wrote

private theorem wrote (connection : Connection) (queueSize : Nat) (steps : List Step) :
    Wrote connection.outbound.accepted steps ((start connection queueSize).entered steps)
      ((start connection queueSize).after steps).link ∧
    ((start connection queueSize).after steps).link.Rests := by
  induction steps using List.reverseRecOn with
  | nil =>
    have room : 0 < max queueSize 1 := Nat.lt_of_lt_of_le Nat.one_pos (Nat.le_max_right queueSize 1)
    refine ⟨⟨⟨room, absurd rfl, absurd rfl, nofun⟩, ⟨[], ?_⟩, List.Sublist.refl _, nofun⟩, fun _ => rfl, nofun⟩
    refine ⟨List.prefix_refl _, List.prefix_refl _, List.prefix_append _ _, fun _ => rfl, fun _ => rfl, nofun⟩
  | append_singleton steps step ih =>
    have begun := ih.1.begin (begins _ step)
    rw [after_concat, entered_concat, admits, ← List.append_assoc]
    refine ⟨?_, ?_⟩
    · change Wrote _ _ _ (begin _ step).2.settle.link
      rw [link_settle]
      exact begun.work
    · change (begin _ step).2.settle.link.Rests
      obtain ⟨-, rests⟩ := begun.sound.work
      rw [link_settle]
      exact ⟨rests.served, rests.blocked⟩

/-- The commands of the requests, written out: a word and behind it the targets, in their order and as they are. -/
theorem frame_request (call : Nat) (targets : List Bytes) :
    let command (word : String) : Frame :=
      .array (.bulk (some (Bytes.ofText word)) :: targets.map fun target => .bulk (some target))
    Request.frame ⟨call, .subscribe, targets⟩ = command "SUBSCRIBE" ∧
    Request.frame ⟨call, .unsubscribe, targets⟩ = command "UNSUBSCRIBE" ∧
    Request.frame ⟨call, .psubscribe, targets⟩ = command "PSUBSCRIBE" ∧
    Request.frame ⟨call, .punsubscribe, targets⟩ = command "PUNSUBSCRIBE" := by
  refine ⟨?_, ?_, ?_, ?_⟩
  all_goals simp only [Request.frame, Verb.command, Verb.name, Command.ofName, Command.frame, Command.words, List.map_cons]

/-- The bytes that a connection hands over are the first of the commands of the requests that have entered its queue, one
behind the other, and all of them as long as it has not failed and no write is blocked. The requests enter the queue in
the order in which they are made; until a failure or the end those that have not wait for room, unless they were given
up. A reader whose limit they keep to finds these very commands, and at the end perhaps the beginning of one. -/
theorem whole_commands_written (connection : Connection) (queueSize : Nat) (steps : List Step) :
    let link := ((start connection queueSize).after steps).link
    let entered := (start connection queueSize).entered steps
    ∃ sent, link.outbound.accepted = connection.outbound.accepted ++ sent ∧
      sent <+: Frame.encodeItems (entered.map Request.frame) ∧
      (link.failure = none → (∀ unsent, link.writer ≠ .sending unsent) →
        sent = Frame.encodeItems (entered.map Request.frame)) ∧
      (entered ++ link.waiting).Sublist (requests steps) ∧
      (link.failure = none → link.closed = false → ∀ request ∈ requests steps, request.targets ≠ [] →
        .abandon request.call ∉ steps → request ∈ entered ++ link.waiting) ∧
      ∀ limit, Frame.Within limit (entered.map Request.frame) → ∃ whole later rest, entered = whole ++ later ∧
        Decoder.drain { limit, buffer := sent } =
          { frames := whole.map Request.frame, stop := none, rest := { limit, buffer := rest } } ∧
        (later = [] → rest = []) ∧
        ∀ request ∈ later.head?, rest <+: request.frame.encode ∧ rest ≠ request.frame.encode := by
  intro link entered
  obtain ⟨⟨sound, ⟨taken, tells⟩, line, present⟩, rests⟩ := wrote connection queueSize steps
  obtain ⟨sent, parts⟩ := tells.base
  have torn := tells.torn
  rw [← parts, List.prefix_append_right_inj] at torn
  have first : sent <+: Frame.encodeItems (entered.map Request.frame) := by
    obtain ⟨later, whole⟩ := tells.first
    refine torn.trans ?_
    rw [show entered = taken ++ later from whole.symm, List.map_append, Frame.encodeItems_append]
    exact List.prefix_append _ _
  refine ⟨sent, parts.symm, first, fun alive goesOn => ?_, line, present, fun limit within => ?_⟩
  · have all := tells.whole (.inr alive)
    have level := tells.level alive
    have done : link.writer.unsent = [] ∧ link.queue = [] := by
      cases writer : link.writer with
      | idle => exact ⟨rfl, rests.served writer⟩
      | sending unsent => exact absurd writer (goesOn unsent)
      | stopped => exact ⟨rfl, (sound.stopped writer).1⟩
    rw [show link.writer.unsent = [] from done.1, List.append_nil, ← parts, List.append_cancel_left_eq] at all
    rw [show link.queue = [] from done.2, List.append_nil] at level
    rw [all, show entered = taken from level]
  · obtain ⟨whole, later, rest, same, -, drained, nothing, proper⟩ :=
      Decoder.drain_of_prefix (Request.lined_frames entered) within first
    obtain ⟨whole, later, split, rfl, rfl⟩ := List.map_eq_append_iff.mp same
    refine ⟨whole, later, rest, split, ?_, fun none => nothing (by rw [none]; rfl), fun request member => ?_⟩
    · rw [drained, Request.asRead_frames]
    · exact proper request.frame (by simp [Option.mem_def.mp member])

/-- The stream breaks inside the second command, and a third request never enters the queue: a reader finds the first
command, whose target is a line end, and a beginning of the second. -/
theorem whole_commands_written_torn :
    let steps : List Step := [.network (.accept (.upTo 32 (.refusing .writeZero))), .request 1 .subscribe [[13, 10]],
      .request 2 .psubscribe [[97]], .request 3 .subscribe [[98]]]
    let link := ((start {} 16).after steps).link
    let commands : List Request := [⟨1, .subscribe, [[13, 10]]⟩, ⟨2, .psubscribe, [[97]]⟩]
    link.failure ≠ none ∧ ∃ whole later rest, commands = whole ++ later ∧ whole.length = 1 ∧
      Decoder.drain { limit := 48, buffer := link.outbound.accepted } =
        { frames := whole.map Request.frame, stop := none, rest := { limit := 48, buffer := rest } } ∧
      ∀ request ∈ later.head?, rest <+: request.frame.encode ∧ rest ≠ request.frame.encode := by
  intro steps link commands
  have entered : (start {} 16).entered steps = commands := by decide +kernel
  have single : (Decoder.drain { limit := 48, buffer := link.outbound.accepted }).frames.length = 1 := by decide +kernel
  have within : Frame.Within 48 (commands.map Request.frame) := by
    intro frame member
    simp only [commands, List.map_cons, List.map_nil, List.mem_cons, List.not_mem_nil, or_false] at member
    rcases member with rfl | rfl
    all_goals
      refine ⟨?_, by decide +kernel⟩
      simp only [Request.frame, Verb.command, Command.ofName, Command.frame, Command.words, List.map_cons, List.map_nil,
        Frame.Fits, Frame.FitsItems]
      decide +kernel
  obtain ⟨sent, parts, -, -, -, -, decoded⟩ := whole_commands_written {} 16 steps
  rw [entered] at decoded
  obtain ⟨whole, later, rest, split, drained, -, proper⟩ := decoded 48 within
  rw [← show link.outbound.accepted = sent from parts] at drained
  refine ⟨by decide +kernel, whole, later, rest, split, ?_, drained, proper⟩
  rw [drained] at single
  simpa using single

end Clients

end Subscriber
