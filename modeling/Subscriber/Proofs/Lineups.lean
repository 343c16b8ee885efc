import Subscriber.Proofs.OneFailure
import Subscriber.Proofs.OwnMessages

/-! What a single turn does to the requests of a shared connection: which calls it answers, of which it takes an
acknowledgement, and what it lets into the queue. A frame that is no refusal, no message and no acknowledgement of the
oldest request does nothing to them. -/

namespace Subscriber

namespace Frame

def word? : Frame → Option Bytes
  | .array (first :: _) => first.content?.map Bytes.lower
  | _ => none

end Frame

namespace Push

private theorem word?_of_plain {word : Bytes} {verb : Verb} (found : ofWord.plain word = .acknowledgement verb) :
    word.lower = verb.acknowledgement := by
  unfold ofWord.plain at found
  split at found
  · cases found
  · split at found
    next known =>
      cases found
      rw [Verb.ofAcknowledgement?] at known
      have same := List.find?_some known
      exact (beq_iff_eq.mp same).symm
    · cases found

private theorem plain_ne_refusal (word : Bytes) (text : String) : ofWord.plain word ≠ .refusal text := by
  unfold ofWord.plain
  split
  · nofun
  · split <;> nofun

private theorem ofWord_cases (word : Bytes) (parts : List Frame) : ofWord word parts = ofWord.plain word ∨
    (∃ message, ofWord word parts = .message message) ∨ ∃ kind, ofWord word parts = .malformed kind := by
  unfold ofWord
  split
  · split
    · split
      · exact .inr (.inl ⟨_, rfl⟩)
      · exact .inr (.inr ⟨_, rfl⟩)
    · exact .inl rfl
  · split
    · split
      · exact .inr (.inl ⟨_, rfl⟩)
      · exact .inr (.inr ⟨_, rfl⟩)
    · exact .inl rfl
  · exact .inl rfl

private theorem ofFrame_cases (frame : Frame) : (∃ reply, frame = .error reply) ∨
    (∃ word, frame.word? = some word.lower ∧ ofFrame frame = ofWord.plain word) ∨
    (∀ verb, ofFrame frame ≠ .acknowledgement verb) ∧ ∀ text, ofFrame frame ≠ .refusal text := by
  cases frame with
  | error reply => exact .inl ⟨reply, rfl⟩
  | array items =>
    cases items with
    | nil => exact .inr (.inr ⟨fun _ => Push.noConfusion, fun _ => Push.noConfusion⟩)
    | cons first parts =>
      rw [ofFrame, Frame.word?]
      cases first.content? with
      | none => exact .inr (.inr ⟨fun _ => Push.noConfusion, fun _ => Push.noConfusion⟩)
      | some word =>
        dsimp only
        rcases ofWord_cases word parts with plain | ⟨message, other⟩ | ⟨kind, other⟩
        · exact .inr (.inl ⟨word, rfl, plain⟩)
        · rw [other]
          exact .inr (.inr ⟨fun _ => Push.noConfusion, fun _ => Push.noConfusion⟩)
        · rw [other]
          exact .inr (.inr ⟨fun _ => Push.noConfusion, fun _ => Push.noConfusion⟩)
  | _ => exact .inr (.inr ⟨fun _ => Push.noConfusion, fun _ => Push.noConfusion⟩)

end Push

namespace Link

/-- Whatever else the server sends, requests and observers are as before. -/
theorem receive_foreign {link : Link} {frame : Frame} (accepted : ∀ text, frame ≠ .error text)
    (silent : frame.message? = none) (foreign : ∀ front ∈ link.pending.head?, frame.word? ≠ some front.verb.acknowledgement) :
    (link.receive (.ofFrame frame)).pending = link.pending ∧
      (link.receive (.ofFrame frame)).observers = link.observers := by
  cases meaning : Push.ofFrame frame with
  | message message =>
    have told := Push.message?_ofFrame frame
    rw [meaning, silent] at told
    cases told
  | refusal text =>
    rcases Push.ofFrame_cases frame with ⟨reply, rfl⟩ | ⟨word, -, plain⟩ | ⟨-, never⟩
    · exact absurd rfl (accepted reply)
    · exact absurd (plain.symm.trans meaning) (Push.plain_ne_refusal word text)
    · exact absurd meaning (never text)
  | acknowledgement verb =>
    have word : frame.word? = some verb.acknowledgement := by
      rcases Push.ofFrame_cases frame with ⟨reply, rfl⟩ | ⟨word, named, plain⟩ | ⟨never, -⟩
      · exact absurd rfl (accepted reply)
      · rw [named, Push.word?_of_plain (plain.symm.trans meaning)]
      · exact absurd meaning (never verb)
    unfold receive acknowledge
    dsimp only
    split
    · exact ⟨rfl, rfl⟩
    next front others pending =>
      have other : front.verb ≠ verb := by
        rintro rfl
        exact foreign front (by rw [pending]; rfl) word
      rw [if_pos other]
      exact ⟨rfl, rfl⟩
  | _ => exact ⟨rfl, rfl⟩

def Reports (before after : Link) (calls : List Nat) : Prop :=
  ∃ more, after.signals = before.signals ++ more ∧ (more.filterMap Signal.answer?).map Prod.fst = calls

def acknowledged (link : Link) : Push → List Nat
  | .acknowledgement verb =>
    match link.pending with
    | [] => []
    | front :: _ => if front.verb = verb then [front.call] else []
  | _ => []

def push? (link : Link) : Option Push :=
  if link.reading then
    match link.inbound.readFrame with
    | (.frame frame, _) => some (.ofFrame frame)
    | _ => none
  else none

/-- What a turn does to the requests, with the calls that it answers and the call of which it takes an acknowledgement. -/
inductive Shifts (before : Link) : List Nat → List Nat → Link → Prop where
  | rests {after : Link} (pending : after.pending = before.pending) (queue : after.queue = before.queue)
      (waiting : after.waiting = before.waiting) : Shifts before [] [] after
  | counts {after : Link} {front : Pending} {others : List Pending} (due : before.pending = front :: others)
      (more : 1 < front.remaining) (pending : after.pending = { front with remaining := front.remaining - 1 } :: others)
      (queue : after.queue = before.queue) (waiting : after.waiting = before.waiting) :
    Shifts before [] [front.call] after
  | settles {after : Link} {front : Pending} {others : List Pending} {acknowledged : List Nat}
      (due : before.pending = front :: others) (own : ∀ call ∈ acknowledged, call = front.call)
      (pending : after.pending = others) (queue : after.queue = before.queue) (waiting : after.waiting = before.waiting) :
    Shifts before [front.call] acknowledged after
  | fails {after : Link} (pending : after.pending = []) (queue : after.queue = before.queue)
      (waiting : after.waiting = before.waiting) : Shifts before (before.pending.map Pending.call) [] after
  | stops {after : Link} (idle : before.pending = []) (pending : after.pending = []) (queue : after.queue = [])
      (waiting : after.waiting = []) : Shifts before ((before.waiting ++ before.queue).map Request.call) [] after
  | takes {after : Link} {request : Request} {queue admitted : List Request} (front : before.queue = request :: queue)
      (line : before.waiting = admitted ++ after.waiting) (pending : after.pending = before.pending ++ [request.pending])
      (more : after.queue = queue ++ admitted) : Shifts before [] [] after
  | returns {after : Link} {request : Request} {queue admitted : List Request} (idle : before.pending = [])
      (front : before.queue = request :: queue) (line : before.waiting = admitted ++ after.waiting)
      (pending : after.pending = []) (more : after.queue = queue ++ admitted) : Shifts before [request.call] [] after

section

variable {link after : Link}

theorem reports_nothing (same : after.signals = link.signals) : Reports link after [] :=
  ⟨[], by rw [same, List.append_nil], rfl⟩

private theorem reports_notice {notice : Notice} (noted : after.signals = link.signals ++ [.notice notice]) : Reports link after [] :=
  ⟨_, noted, rfl⟩

private theorem note_shifts (link : Link) (notice : Notice) :
    ∃ calls, Reports link (link.note notice) calls ∧ Shifts link calls [] (link.note notice) :=
  ⟨[], reports_notice rfl, .rests rfl rfl rfl⟩

private theorem receive_shifts (link : Link) (push : Push) :
    ∃ calls, Reports link (link.receive push) calls ∧ Shifts link calls (link.acknowledged push) (link.receive push) := by
  cases push with
  | message message =>
    unfold receive
    dsimp only
    split
    · exact ⟨[], reports_nothing rfl, .rests rfl rfl rfl⟩
    · exact ⟨[], ⟨[.observed], rfl, rfl⟩, .rests rfl rfl rfl⟩
  | acknowledgement verb =>
    cases due : link.pending with
    | nil =>
      simp only [receive, acknowledge, acknowledged, due]
      exact note_shifts link _
    | cons front others =>
      by_cases own : front.verb = verb
      · by_cases last : front.remaining ≤ 1
        · simp only [receive, acknowledge, acknowledged, due, own, ne_eq, not_true_eq_false, if_false, if_true, last]
          exact ⟨[front.call], ⟨_, rfl, rfl⟩, .settles due (fun _ => List.mem_singleton.mp) rfl rfl rfl⟩
        · simp only [receive, acknowledge, acknowledged, due, own, ne_eq, not_true_eq_false, if_false, if_true, last]
          exact ⟨[], reports_nothing rfl, .counts due (Nat.not_le.mp last) (by rw [own]) rfl rfl⟩
      · simp only [receive, acknowledge, acknowledged, due, own, ne_eq, not_false_eq_true, if_true, if_false]
        exact note_shifts link _
  | refusal text =>
    cases due : link.pending with
    | nil =>
      simp only [receive, refuse, acknowledged, due]
      exact note_shifts link _
    | cons front others =>
      simp only [receive, refuse, acknowledged, due]
      exact ⟨[front.call], ⟨_, rfl, rfl⟩, .settles due (List.forall_mem_nil _) rfl rfl rfl⟩
  | _ => exact note_shifts link _

theorem fail_shifts (link : Link) (fault : Fault) :
    ∃ calls, Reports link (link.fail fault) calls ∧ Shifts link calls [] (link.fail fault) := by
  rcases Option.eq_none_or_eq_some link.failure with alive | ⟨first, failed⟩
  · rw [fail_alive alive]
    refine ⟨link.pending.map Pending.call, ⟨_, List.append_assoc _ _ _, ?_⟩, .fails rfl rfl rfl⟩
    have nobody : (if link.observers.live = 0 then [] else [Signal.observed] : List (Signal Fault)).filterMap
        Signal.answer? = [] := by split <;> rfl
    rw [List.filterMap_append, nobody, List.append_nil, List.filterMap_cons, answers_given Pending.call]
    exact map_given Pending.call (.error fault) link.pending
  · rw [fail_failed failed]
    exact ⟨[], reports_nothing rfl, .rests rfl rfl rfl⟩

/-- The requests and the signals of a connection decide what becomes of them. -/
theorem Shifts.congr {before start final : Link} {calls acknowledged : List Nat} (shifts : Shifts start calls acknowledged after)
    (pending : before.pending = start.pending) (queue : before.queue = start.queue) (waiting : before.waiting = start.waiting)
    (pending' : final.pending = after.pending) (queue' : final.queue = after.queue)
    (waiting' : final.waiting = after.waiting) : Shifts before calls acknowledged final := by
  have kept (same : after.queue = start.queue) : final.queue = before.queue := queue'.trans (same.trans queue.symm)
  have lined (same : after.waiting = start.waiting) : final.waiting = before.waiting :=
    waiting'.trans (same.trans waiting.symm)
  cases shifts with
  | rests p q w => exact .rests (pending'.trans (p.trans pending.symm)) (kept q) (lined w)
  | counts due more p q w => exact .counts (pending.trans due) more (pending'.trans p) (kept q) (lined w)
  | settles due own p q w => exact .settles (pending.trans due) own (pending'.trans p) (kept q) (lined w)
  | fails p q w =>
    rw [← pending]
    exact .fails (pending'.trans p) (kept q) (lined w)
  | stops idle p q w =>
    rw [← queue, ← waiting]
    exact .stops (pending.trans idle) (pending'.trans p) (queue'.trans q) (waiting'.trans w)
  | takes front line p q =>
    exact .takes (queue.trans front) (waiting' ▸ waiting.trans line) (pending'.trans (pending ▸ p)) (queue'.trans q)
  | returns idle front line p q =>
    exact .returns (pending.trans idle) (queue.trans front) (waiting' ▸ waiting.trans line) (pending'.trans p)
      (queue'.trans q)

theorem readOne_shifts (link : Link) : ∃ calls, Reports link link.readOne calls ∧
    Shifts link calls (link.push?.elim [] link.acknowledged) link.readOne := by
  unfold readOne push?
  split
  · cases link.inbound.readFrame with
    | mk incoming inbound =>
      cases incoming with
      | frame frame =>
        obtain ⟨calls, reports, shifts⟩ := receive_shifts { link with inbound } (.ofFrame frame)
        exact ⟨calls, reports, shifts.congr rfl rfl rfl rfl rfl rfl⟩
      | failed error =>
        obtain ⟨calls, reports, shifts⟩ := fail_shifts { link with inbound } (.ofError error)
        exact ⟨calls, reports, shifts.congr rfl rfl rfl rfl rfl rfl⟩
      | pending => exact ⟨[], reports_nothing rfl, .rests rfl rfl rfl⟩
  · exact ⟨[], reports_nothing rfl, .rests rfl rfl rfl⟩

private theorem dequeue_cases (link : Link) (queue : List Request) : ∃ admitted waiting signals,
    link.dequeue queue = { link with queue := queue ++ admitted, waiting, signals := link.signals ++ signals } ∧
    link.waiting = admitted ++ waiting ∧ signals.filterMap Signal.answer? = [] := by
  unfold dequeue
  split
  next nobody => exact ⟨[], [], [], by simp [nobody], nobody, rfl⟩
  next first others line =>
    dsimp only
    split
    · exact ⟨[first], others, [], by simp, line, rfl⟩
    · exact ⟨[first], others, [.admitted first.call], rfl, line, rfl⟩

private theorem takeUp_shifts (upright : link.Upright) {request : Request} {queue : List Request}
    (front : link.queue = request :: queue) : ∃ calls, Reports link ((link.dequeue queue).takeUp request) calls ∧
      Shifts link calls [] ((link.dequeue queue).takeUp request) := by
  obtain ⟨admitted, waiting, signals, dequeued, line, silent⟩ := dequeue_cases link queue
  generalize link.dequeue queue = moved at dequeued
  have failure : moved.failure = link.failure := by rw [dequeued]
  have told : moved.signals = link.signals ++ signals := by rw [dequeued]
  rcases Option.eq_none_or_eq_some link.failure with alive | ⟨fault, failed⟩
  · rw [takeUp_alive (failure.trans alive)]
    refine ⟨[], ⟨signals, told, by rw [silent]; rfl⟩, ?_⟩
    rw [dequeued]
    exact .takes front line rfl rfl
  · rw [takeUp_failed (failure.trans failed)]
    have idle := (upright.failed (by simp [failed])).1
    refine ⟨[request.call], ⟨signals ++ [.answer request.call (.error fault)], ?_, ?_⟩, ?_⟩
    · rw [answer, signal, told, List.append_assoc]
    · rw [List.filterMap_append, silent]
      rfl
    · rw [dequeued]
      exact .returns idle front line idle rfl

private theorem stopWriting_shifts (idle : link.pending = []) :
    ∃ calls, Reports link link.stopWriting calls ∧ Shifts link calls [] link.stopWriting := by
  rw [stopWriting_eq]
  refine ⟨(link.waiting ++ link.queue).map Request.call, ⟨_, rfl, ?_⟩, .stops idle idle rfl rfl⟩
  rw [answers_given Request.call]
  exact map_given Request.call (.error link.loss) (link.waiting ++ link.queue)

theorem writeOne_shifts (upright : link.Upright) {broken : Bool} (known : broken = true → link.failure ≠ none) :
    ∃ calls, Reports link (link.writeOne broken).1 calls ∧ Shifts link calls [] (link.writeOne broken).1 := by
  unfold writeOne
  split
  next stops => exact stopWriting_shifts (upright.failed (known stops)).1
  · split
    · split
      · exact ⟨[], reports_nothing rfl, .rests rfl rfl rfl⟩
      · exact ⟨[], reports_nothing rfl, .rests rfl rfl rfl⟩
      next cause outbound _ =>
        obtain ⟨calls, reports, shifts⟩ := fail_shifts { link with outbound } (.io cause)
        exact ⟨calls, reports, shifts.congr rfl rfl rfl rfl rfl rfl⟩
    next request queue _ front => exact takeUp_shifts upright front
    · dsimp only
      unfold wind
      split <;> exact ⟨[], reports_nothing rfl, .rests rfl rfl rfl⟩

end

end Link

end Subscriber
