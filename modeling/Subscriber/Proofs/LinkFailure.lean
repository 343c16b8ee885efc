import Subscriber.Link

/-! The failure of a connection. It is recorded once, answers everything that is pending, and nothing that
a connection does afterwards takes it back. -/

namespace Subscriber.Link

private theorem foldl_answer {α : Type} (call : α → Nat) (result : Except Fault Unit) (items : List α) (link : Link) :
    items.foldl (fun current item => current.answer (call item) result) link =
      { link with signals := link.signals ++ items.map fun item => .answer (call item) result } := by
  induction items generalizing link with
  | nil => simp
  | cons item items ih =>
    rw [List.foldl_cons, ih]
    simp [answer, signal]

theorem fail_alive {link : Link} (alive : link.failure = none) (fault : Fault) :
    link.fail fault = { link with
      failure := some fault, pending := [],
      observers := (link.observers.fail .channel fault).fail .pattern fault,
      signals := link.signals ++ .notice (.connectionFailed fault) ::
        link.pending.map (fun request => .answer request.call (.error fault)) ++
        if link.observers.live = 0 then [] else [.observed] } := by
  unfold fail
  rw [alive]
  dsimp only
  rw [foldl_answer]
  split
  all_goals simp [note, signal]

theorem fail_failed {link : Link} {first : Fault} (failed : link.failure = some first) (fault : Fault) :
    link.fail fault = link := by
  unfold fail
  rw [failed]

theorem failure_fail (link : Link) (fault : Fault) : (link.fail fault).failure = some (link.failure.getD fault) := by
  cases known : link.failure with
  | none => rw [fail_alive known]; rfl
  | some first => rw [fail_failed known, known]; rfl

theorem stopWriting_eq (link : Link) :
    link.stopWriting = { link with
      writer := .stopped, queue := [], waiting := [],
      signals := link.signals ++
        (link.waiting ++ link.queue).map fun request => .answer request.call (.error link.loss) } := by
  have answers (requests : List Request) (start : Link) :
      requests.foldl (fun current request => current.answer request.call (.error current.loss)) start =
        { start with
          signals := start.signals ++ requests.map fun request => .answer request.call (.error start.loss) } := by
    induction requests generalizing start with
    | nil => simp
    | cons request requests ih =>
      rw [List.foldl_cons, ih]
      simp [answer, signal, loss]
  unfold stopWriting
  rw [answers]
  rfl

/-- What has failed stays failed, and for the same reason. -/
def Keeps (before after : Link) : Prop := ∀ fault, before.failure = some fault → after.failure = some fault

theorem Keeps.alive {before after : Link} (kept : Keeps before after) (alive : after.failure = none) :
    before.failure = none := by
  cases known : before.failure with
  | none => rfl
  | some fault => rw [kept fault known] at alive; cases alive

theorem Keeps.trans {a b c : Link} (first : Keeps a b) (second : Keeps b c) : Keeps a c :=
  fun fault failed => second fault (first fault failed)

theorem Keeps.of_eq {before after : Link} (same : after.failure = before.failure) : Keeps before after :=
  fun _ failed => same.trans failed

theorem fail_keeps (link : Link) (fault : Fault) : Keeps link (link.fail fault) :=
  fun _ failed => by rw [fail_failed failed, failed]

/-- A push is a message for the observers, or has to do with what is pending. -/
theorem receive_eq (link : Link) (push : Push) :
    ∃ pending signals, link.receive push = { link with
      pending,
      observers := match push with
        | .message message => link.observers.deliver message
        | _ => link.observers,
      signals := link.signals ++ signals } := by
  cases push with
  | message message =>
    unfold receive
    dsimp only
    split
    · exact ⟨link.pending, [], by rw [List.append_nil]⟩
    · exact ⟨link.pending, [.observed], rfl⟩
  | acknowledgement verb =>
    unfold receive acknowledge
    dsimp only
    split
    · exact ⟨link.pending, _, rfl⟩
    next front others _ =>
      split
      · exact ⟨link.pending, _, rfl⟩
      · split
        · exact ⟨others, _, rfl⟩
        · exact ⟨_, [], by rw [List.append_nil]⟩
  | refusal text =>
    unfold receive refuse
    dsimp only
    split
    · exact ⟨link.pending, _, rfl⟩
    next front others _ => exact ⟨others, _, rfl⟩
  | _ => exact ⟨link.pending, _, rfl⟩

theorem failure_receive (link : Link) (push : Push) : (link.receive push).failure = link.failure := by
  obtain ⟨pending, signals, received⟩ := receive_eq link push
  rw [received]

private theorem receive_keeps (link : Link) (push : Push) : Keeps link (link.receive push) := .of_eq (failure_receive link push)

def receiveAll (link : Link) (frames : List Frame) : Link :=
  frames.foldl (fun current frame => current.receive (.ofFrame frame)) link

private theorem receiveAll_keeps (frames : List Frame) (link : Link) : Keeps link (link.receiveAll frames) := by
  induction frames generalizing link with
  | nil => exact .of_eq rfl
  | cons frame frames ih => exact (receive_keeps link _).trans (ih _)

/-- The connection behind the frames of a pass, before the failure of the pass counts. -/
def passed (link : Link) : Link :=
  receiveAll { link with inbound := link.inbound.readAll.rest } link.inbound.readAll.frames

theorem read_complete {link : Link} (reading : link.reading = true) (unfailed : link.inbound.readAll.failure = none) :
    link.read = link.passed := by
  unfold read
  rw [if_pos reading]
  dsimp only
  rw [unfailed]
  rfl

theorem read_broken {link : Link} {error : Error} (reading : link.reading = true)
    (failed : link.inbound.readAll.failure = some error) :
    link.read = { link.passed.fail (.ofError error) with reading := false } := by
  unfold read
  rw [if_pos reading]
  dsimp only
  rw [failed]
  rfl

theorem passed_keeps (link : Link) : Keeps link link.passed :=
  receiveAll_keeps link.inbound.readAll.frames { link with inbound := link.inbound.readAll.rest }

theorem readAll_unfailed {link : Link} (reading : link.reading = true) (alive : link.read.failure = none) :
    link.inbound.readAll.failure = none := by
  cases failed : link.inbound.readAll.failure with
  | none => rfl
  | some error =>
    rw [read_broken reading failed] at alive
    cases (failure_fail link.passed (.ofError error)).symm.trans alive

theorem read_keeps (link : Link) : Keeps link link.read := by
  cases reading : link.reading with
  | false => exact .of_eq (by rw [read, if_neg (by simp [reading])])
  | true =>
    cases failed : link.inbound.readAll.failure with
    | none =>
      rw [read_complete reading failed]
      exact passed_keeps link
    | some error =>
      rw [read_broken reading failed]
      exact (passed_keeps link).trans (fail_keeps _ (.ofError error))

/-- What writing may change: it never touches what has arrived, and never takes a failure back. -/
structure Writes (before after : Link) : Prop where
  keeps : Keeps before after
  inbound : after.inbound = before.inbound
  reading : after.reading = before.reading
  closed : after.closed = before.closed

private theorem Writes.refl (link : Link) : Writes link link := ⟨.of_eq rfl, rfl, rfl, rfl⟩

theorem Writes.trans {a b c : Link} (first : Writes a b) (second : Writes b c) : Writes a c :=
  ⟨first.keeps.trans second.keeps, second.inbound.trans first.inbound, second.reading.trans first.reading,
    second.closed.trans first.closed⟩

theorem fail_writes (link : Link) (fault : Fault) : Writes link (link.fail fault) := by
  refine ⟨fail_keeps link fault, ?_, ?_, ?_⟩
  all_goals
    cases known : link.failure with
    | none => rw [fail_alive known]
    | some first => rw [fail_failed known]

theorem stopWriting_writes (link : Link) : Writes link link.stopWriting := by
  rw [stopWriting_eq]
  exact ⟨.of_eq rfl, rfl, rfl, rfl⟩

theorem send_writes (link : Link) (bytes : Bytes) : Writes link (link.send bytes) := by
  unfold send
  split
  · exact ⟨.of_eq rfl, rfl, rfl, rfl⟩
  · exact ⟨.of_eq rfl, rfl, rfl, rfl⟩
  next cause outbound _ =>
    have sent : Writes link { link with outbound } := ⟨.of_eq rfl, rfl, rfl, rfl⟩
    exact sent.trans ((fail_writes _ (.io cause)).trans (stopWriting_writes _))

private theorem dequeue_writes (link : Link) (queue : List Request) : Writes link (link.dequeue queue) := by
  unfold dequeue
  split
  · exact ⟨.of_eq rfl, rfl, rfl, rfl⟩
  · dsimp only
    split <;> exact ⟨.of_eq rfl, rfl, rfl, rfl⟩

private theorem perform_writes (link : Link) (request : Request) : Writes link (link.perform request) := by
  unfold perform
  split
  · exact ⟨.of_eq rfl, rfl, rfl, rfl⟩
  next alive =>
    let pending : Pending := { call := request.call, verb := request.verb, remaining := request.targets.length }
    have sent := send_writes { link with pending := link.pending ++ [pending] }
      (request.verb.command request.targets).frame.encode
    exact ⟨fun fault failed => (nomatch alive.symm.trans failed), sent.inbound, sent.reading, sent.closed⟩

theorem serve_writes (link : Link) : Writes link link.serve := by
  unfold serve
  split
  · exact .refl link
  next request queue front =>
    have shorter := Nat.lt_of_le_of_lt (backlog_perform (link.dequeue queue) request) (backlog_dequeue front)
    split
    · exact ((dequeue_writes link queue).trans (perform_writes _ request)).trans (serve_writes _)
    · exact .refl link
termination_by link.backlog

theorem write_writes (link : Link) : Writes link link.write := by
  unfold write
  split
  · exact (send_writes link _).trans (serve_writes _)
  · exact serve_writes link

theorem wind_writes (link : Link) : Writes link link.wind := by
  unfold wind
  split <;> exact ⟨.of_eq rfl, rfl, rfl, rfl⟩

theorem work_keeps (link : Link) : Keeps link link.work :=
  (read_keeps link).trans ((write_writes _).trans (wind_writes _)).keeps

theorem observe_eq (link : Link) (kind : Message.Kind) :
    ∃ observers, (link.observe kind).2 = { link with observers } := by
  unfold observe
  split
  all_goals exact ⟨_, rfl⟩

theorem request_eq (link : Link) (call : Nat) (verb : Verb) (targets : List Bytes) :
    ∃ queue waiting, (link.request call verb targets).2 = { link with queue, waiting } := by
  unfold request
  split
  · exact ⟨_, _, rfl⟩
  · split
    · exact ⟨_, _, rfl⟩
    · split <;> exact ⟨_, _, rfl⟩

end Subscriber.Link
