import Mathlib.Data.List.Nodup
import Subscriber.Proofs.Heeding
import Subscriber.Proofs.Interleavings

/-! The failure of a shared connection, whatever takes turns with whatever. Every answer behind it tells of it, and before
it nobody is told of a failure of the connection. -/

namespace Subscriber

namespace Observers

section
variable {ε : Type} {observers : Observers ε}

def Dark (observers : Observers ε) : Prop := ∀ observer ∈ observers.members, observer.live = false

theorem Dark.map (dark : observers.Dark) {change : Observer ε → Observer ε}
    (same : ∀ observer, observer.live = false → (change observer).live = false) :
    ({ observers with members := observers.members.map change } : Observers ε).Dark := by
  intro changed member
  obtain ⟨observer, inside, rfl⟩ := List.mem_map.mp member
  exact same observer (dark observer inside)

private theorem Dark.deliver (dark : observers.Dark) (message : Message) : (observers.deliver message).Dark :=
  dark.map fun observer _ => by split <;> assumption

private theorem dark_failAll (observers : Observers ε) (fault : ε) : (observers.failAll fault).Dark := by
  intro changed member
  simp only [failAll, fail, List.mem_map] at member
  obtain ⟨_, ⟨observer, -, rfl⟩, rfl⟩ := member
  cases lives : observer.live with
  | false => simp [feeds, lives]
  | true => cases own : observer.kind <;> simp [feeds, lives, own]

private theorem dark_close (observers : Observers ε) : observers.close.Dark := by
  intro changed member
  obtain ⟨observer, -, rfl⟩ := List.mem_map.mp member
  rfl

private theorem Dark.touched {fault : ε} {after : Observers ε} (dark : observers.Dark)
    (touched : observers.Touched (some fault) after) : after.Dark := by
  cases touched with
  | same => exact dark
  | opened kind =>
    intro observer member
    rcases List.mem_append.mp member with old | last
    · exact dark observer old
    · rw [List.mem_singleton.mp last]
      rfl
  | taken id queued => exact dark.map fun observer _ => by split <;> assumption
  | dropped id => exact fun observer member => dark observer (List.mem_filter.mp member).1

private theorem Dark.liveOf (dark : observers.Dark) (kind : Message.Kind) : observers.liveOf kind = 0 := by
  rw [Observers.liveOf, List.length_eq_zero_iff, List.filter_eq_nil_iff]
  intro observer member
  simp [feeds, dark observer member]

end

end Observers

namespace Link

def answers (link : Link) : List (Nat × Except Fault Unit) := link.signals.filterMap Signal.answer?

def held (link : Link) : List Nat := link.pending.map Pending.call ++ (link.queue ++ link.waiting).map Request.call

theorem mem_held {link : Link} {call : Nat} : call ∈ link.held ↔ link.Holds call := by
  simp only [held, Holds, List.map_append, List.mem_append]

/-- What a call may be told: the failure, or, before there is one, what the server says. -/
def Tellable (link : Link) (result : Except Fault Unit) : Prop :=
  match link.failure with
  | none => result = .ok () ∨ ∃ text, result = .error (.server text)
  | some fault => result = .error fault

/-- A connection that has failed owes nothing to anybody, and one that has not failed stops writing only in the end. -/
structure Upright (link : Link) : Prop where
  failed : link.failure ≠ none → link.pending = [] ∧ link.observers.Dark
  stopped : link.failure = none → link.writer = .stopped → link.closed = true

private theorem Keeps.failed {before after : Link} (kept : Keeps before after) (failed : before.failure ≠ none) :
    after.failure ≠ none := by
  obtain ⟨fault, known⟩ := Option.ne_none_iff_exists'.mp failed
  simp [kept fault known]

structure Turns (before after : Link) : Prop where
  keeps : Keeps before after
  answers : ∀ entry ∈ after.answers, entry ∈ before.answers ∨ after.Tellable entry.2
  /-- A call is answered or held, and that once. -/
  calls : ∀ call, (after.held ++ after.answers.map Prod.fst).count call ≤
    (before.held ++ before.answers.map Prod.fst).count call
  upright : after.Upright

section
variable {link after : Link}

theorem Turns.silent (failure : after.failure = link.failure) (answers : after.answers = link.answers)
    (held : after.held = link.held) (upright : after.Upright) : Turns link after where
  keeps := .of_eq failure
  answers _ member := .inl (answers ▸ member)
  calls _ := by rw [answers, held]
  upright := upright

theorem answers_given {α : Type} (call : α → Nat) (result : Except Fault Unit) (items : List α) :
    (items.map fun item => (.answer (call item) result : Signal Fault)).filterMap Signal.answer? =
      items.map fun item => (call item, result) := by
  simp [List.filterMap_map, Function.comp_def, Signal.answer?]

theorem map_given {α : Type} (call : α → Nat) (result : Except Fault Unit) (items : List α) :
    (items.map fun item => (call item, result)).map Prod.fst = items.map call := by
  rw [List.map_map]
  rfl

theorem answers_answer (link : Link) (call : Nat) (result : Except Fault Unit) :
    (link.answer call result).answers = link.answers ++ [(call, result)] := by
  rw [answers, answer, signal, List.filterMap_append]
  rfl

private theorem Upright.answer (upright : link.Upright) {front : Pending} {others : List Pending}
    (pending : link.pending = front :: others) {result : Except Fault Unit}
    (said : result = .ok () ∨ ∃ text, result = .error (.server text)) :
    Turns link ({ link with pending := others }.answer front.call result) := by
  have alive : link.failure = none := by
    by_contra failed
    cases pending.symm.trans (upright.failed failed).1
  have told : ({ link with pending := others }.answer front.call result).answers = link.answers ++ [(front.call, result)] :=
    answers_answer _ _ _
  refine ⟨.of_eq rfl, fun entry member => ?_, fun call => ?_, ⟨absurd alive, upright.stopped⟩⟩
  · rw [told] at member
    rcases List.mem_append.mp member with before | new
    · exact .inl before
    · cases List.mem_singleton.mp new
      right
      change Tellable { link with pending := others } result
      rw [Tellable, show Link.failure { link with pending := others } = none from alive]
      exact said
  · rw [told]
    have now : ({ link with pending := others }.answer front.call result).held =
        others.map Pending.call ++ (link.queue ++ link.waiting).map Request.call := rfl
    rw [now, held, pending]
    simp only [List.map_cons, List.cons_append, List.count_append, List.count_cons, List.map_append, List.count_nil,
      List.map_nil]
    omega

private theorem Upright.receive (upright : link.Upright) (push : Push) : Turns link (link.receive push) := by
  have noted (notice : Notice) : Turns link (link.note notice) := by
    refine .silent rfl ?_ rfl ⟨upright.failed, upright.stopped⟩
    rw [answers, note, signal, List.filterMap_append]
    exact List.append_nil _
  cases push with
  | message message =>
    have fed : Turns link { link with observers := link.observers.deliver message } :=
      .silent rfl rfl rfl ⟨fun failed => (upright.failed failed).imp_right fun dark => dark.deliver message, upright.stopped⟩
    unfold Link.receive
    dsimp only
    split
    · exact fed
    · refine .silent rfl ?_ rfl ⟨fed.upright.failed, fed.upright.stopped⟩
      rw [answers, signal, List.filterMap_append]
      exact List.append_nil _
  | acknowledgement verb =>
    unfold Link.receive acknowledge
    dsimp only
    split
    · exact noted _
    next front others pending =>
      split
      · exact noted _
      · split
        · exact upright.answer pending (.inl rfl)
        · have fewer : held { link with pending := { front with remaining := front.remaining - 1 } :: others } = link.held := by
            rw [held, held, pending]
            rfl
          refine .silent rfl rfl fewer ⟨fun failed => ?_, upright.stopped⟩
          cases pending.symm.trans (upright.failed failed).1
  | refusal text =>
    unfold Link.receive refuse
    dsimp only
    split
    · exact noted _
    next front others pending => exact upright.answer pending (.inr ⟨text, rfl⟩)
  | _ => exact noted _

theorem Upright.fail (upright : link.Upright) (fault : Fault) : Turns link (link.fail fault) := by
  rcases Option.eq_none_or_eq_some link.failure with alive | ⟨first, failed⟩
  · have told : (link.fail fault).answers = link.answers ++ link.pending.map fun request => (request.call, .error fault) := by
      have nobody : (if link.observers.live = 0 then [] else [Signal.observed] : List (Signal Fault)).filterMap
          Signal.answer? = [] := by split <;> rfl
      rw [fail_alive alive, answers]
      dsimp only
      rw [List.filterMap_append, List.filterMap_append, List.filterMap_cons, answers_given Pending.call, nobody,
        List.append_nil]
      rfl
    refine ⟨fail_keeps link fault, fun entry member => ?_, fun call => ?_, ?_⟩
    · rw [told] at member
      refine (List.mem_append.mp member).imp_right fun new => ?_
      obtain ⟨request, -, rfl⟩ := List.mem_map.mp new
      rw [Tellable, failure_fail, alive]
      rfl
    · have now : (link.fail fault).held = (link.queue ++ link.waiting).map Request.call := by
        rw [fail_alive alive]
        rfl
      have calls := map_given Pending.call (.error fault) link.pending
      rw [told, now, held]
      simp only [List.map_append, calls, List.count_append]
      omega
    · rw [fail_alive alive]
      exact ⟨fun _ => ⟨rfl, Observers.dark_failAll _ _⟩, nofun⟩
  · rw [fail_failed failed]
    exact .silent rfl rfl rfl upright

private theorem Upright.readOne (upright : link.Upright) : Turns link link.readOne := by
  unfold Link.readOne
  split
  · split
    next frame inbound _ =>
      have moved : Upright { link with inbound } := ⟨upright.failed, upright.stopped⟩
      have turned := moved.receive (.ofFrame frame)
      exact ⟨turned.keeps, turned.answers, turned.calls, turned.upright⟩
    next error inbound _ =>
      have moved : Upright { link with inbound } := ⟨upright.failed, upright.stopped⟩
      have turned := moved.fail (.ofError error)
      exact ⟨turned.keeps, turned.answers, turned.calls, ⟨turned.upright.failed, turned.upright.stopped⟩⟩
    · exact .silent rfl rfl rfl ⟨upright.failed, upright.stopped⟩
  · exact .silent rfl rfl rfl upright

private theorem Upright.stopWriting (upright : link.Upright) {fault : Fault} (failed : link.failure = some fault) :
    Turns link link.stopWriting := by
  have told : link.stopWriting.answers =
      link.answers ++ (link.waiting ++ link.queue).map fun request => (request.call, .error fault) := by
    rw [stopWriting_eq, answers]
    dsimp only
    rw [List.filterMap_append, answers_given Request.call, loss, failed]
    rfl
  have still : link.stopWriting.failure = some fault := by rw [stopWriting_eq]; exact failed
  refine ⟨.of_eq (still.trans failed.symm), fun entry member => ?_, fun call => ?_, ?_⟩
  · rw [told] at member
    refine (List.mem_append.mp member).imp_right fun new => ?_
    obtain ⟨request, -, rfl⟩ := List.mem_map.mp new
    rw [Tellable, still]
  · have now : link.stopWriting.held = link.pending.map Pending.call := by
      rw [stopWriting_eq, held]
      exact List.append_nil _
    have calls := map_given Request.call (.error fault) (link.waiting ++ link.queue)
    rw [told, now, held, List.map_append, calls]
    simp only [List.map_append, List.count_append]
    omega
  · refine ⟨fun _ => ?_, fun alive => by cases still.symm.trans alive⟩
    rw [stopWriting_eq]
    exact upright.failed (by simp [failed])

private theorem Upright.takeUp (upright : link.Upright) {request : Request} {queue : List Request}
    (front : link.queue = request :: queue) : Turns link ((link.dequeue queue).takeUp request) := by
  obtain ⟨queue', waiting, admitted, dequeued, order, -⟩ := dequeue_eq link queue
  have unheard : (link.signals ++ List.map Signal.admitted admitted).filterMap Signal.answer? = link.answers := by
    rw [List.filterMap_append, answers_admitted, List.append_nil]
    rfl
  have was : link.held = link.pending.map Pending.call ++ request.call :: (queue' ++ waiting).map Request.call := by
    rw [held, front, List.cons_append, ← order]
    rfl
  generalize link.dequeue queue = moved at dequeued
  have failure : moved.failure = link.failure := by rw [dequeued]
  have answers : moved.answers = link.answers := by rw [dequeued]; exact unheard
  rcases Option.eq_none_or_eq_some link.failure with alive | ⟨fault, failed⟩
  · have now : (moved.takeUp request).held =
        (link.pending.map Pending.call ++ [request.call]) ++ (queue' ++ waiting).map Request.call := by
      rw [takeUp_alive (failure.trans alive), dequeued]
      simp [held, Request.pending]
    have same : (moved.takeUp request).held = link.held := by rw [now, was, List.append_assoc]; rfl
    rw [takeUp_alive (failure.trans alive)] at same ⊢
    exact .silent failure answers same ⟨absurd (failure.trans alive), fun _ stopped => by cases stopped⟩
  · have now : (moved.takeUp request).held = link.pending.map Pending.call ++ (queue' ++ waiting).map Request.call := by
      rw [takeUp_failed (failure.trans failed), dequeued]
      rfl
    have told : (moved.takeUp request).answers = link.answers ++ [(request.call, .error fault)] := by
      rw [takeUp_failed (failure.trans failed), answers_answer, answers]
    have still : (moved.takeUp request).failure = some fault := by
      rw [takeUp_failed (failure.trans failed)]
      exact failure.trans failed
    refine ⟨.of_eq (still.trans failed.symm), fun entry member => ?_, fun call => ?_, fun _ => ?_, fun alive => ?_⟩
    · rw [told] at member
      refine (List.mem_append.mp member).imp_right fun new => ?_
      rw [List.mem_singleton.mp new, Tellable, still]
    · rw [now, told, was]
      simp only [List.map_append, List.map_cons, List.map_nil, List.count_append, List.count_cons, List.count_nil]
      omega
    · rw [takeUp_failed (failure.trans failed), dequeued]
      exact upright.failed (by simp [failed])
    · cases still.symm.trans alive

private theorem Upright.wind (upright : link.Upright) : Turns link link.wind := by
  have ends (closed : link.closed = true) :
      Turns link { link with writer := .stopped, observers := link.observers.close } :=
    .silent rfl rfl rfl ⟨fun failed => ⟨(upright.failed failed).1, Observers.dark_close _⟩, fun _ _ => closed⟩
  unfold Link.wind
  split
  next closed _ => exact ends closed
  next closed _ => exact ends closed
  · exact .silent rfl rfl rfl upright

private theorem Upright.writeOne (upright : link.Upright) {broken : Bool} (known : broken = true → link.failure ≠ none) :
    Turns link (link.writeOne broken).1 ∧ ((link.writeOne broken).2 = true → (link.writeOne broken).1.failure ≠ none) := by
  unfold Link.writeOne
  split
  next stops =>
    obtain ⟨fault, failed⟩ := Option.ne_none_iff_exists'.mp (known stops)
    exact ⟨upright.stopWriting failed, nofun⟩
  · split
    next unsent _ sending _ =>
      split
      · exact ⟨.silent rfl rfl rfl ⟨upright.failed, nofun⟩, nofun⟩
      · exact ⟨.silent rfl rfl rfl ⟨upright.failed, nofun⟩, nofun⟩
      next cause outbound _ =>
        have moved : Upright { link with outbound } := ⟨upright.failed, upright.stopped⟩
        have turned := moved.fail (.io cause)
        exact ⟨⟨turned.keeps, turned.answers, turned.calls, turned.upright⟩, fun _ => by simp [failure_fail]⟩
    next request queue _ front => exact ⟨upright.takeUp front, nofun⟩
    · exact ⟨upright.wind, nofun⟩

end

end Link

namespace Clients

def Move.request? (move : Move) : Option Request := move.step?.bind Step.request?

namespace Moment

/-- The results that calls have been given, whether they have heard of them or not. -/
def results (moment : Moment) : List (Nat × Except Fault Unit) := moment.clients.finished ++ moment.link.answers

def known (moment : Moment) : List Nat := moment.link.held ++ moment.results.map Prod.fst

structure Sound (moment : Moment) : Prop where
  upright : moment.link.Upright
  broken : moment.broken = true → moment.link.failure ≠ none

/-- What a move may do. -/
structure Goes (request : Option Request) (before after : Moment) : Prop where
  keeps : before.link.Keeps after.link
  results : ∀ entry ∈ after.results, entry ∈ before.results ∨ after.link.Tellable entry.2 ∨
    entry.2 = .ok () ∧ ∃ verb, request = some { call := entry.1, verb, targets := [] }
  known : ∀ call, after.known.count call ≤ before.known.count call + (request.toList.map Request.call).count call
  sound : after.Sound

section
variable {moment : Moment}

private theorem Goes.turn {link : Link} {broken : Bool} (turns : moment.link.Turns link)
    (failed : broken = true → link.failure ≠ none) :
    Goes none moment { clients := { moment.clients with link }, broken } where
  keeps := turns.keeps
  results entry member := by
    rcases List.mem_append.mp member with heard | given
    · exact .inl (List.mem_append_left _ heard)
    · exact (turns.answers entry given).imp (List.mem_append_right _) .inl
  known call := by
    have count := turns.calls call
    change (link.held ++ (moment.clients.finished ++ link.answers).map Prod.fst).count call ≤
      (moment.link.held ++ (moment.clients.finished ++ moment.link.answers).map Prod.fst).count call + 0
    simp only [List.map_append, List.count_append] at count ⊢
    omega
  sound := ⟨turns.upright, failed⟩

/-- Where nobody is given a result that was not given before, no failure matters. -/
theorem Goes.aside (sound : moment.Sound) {clients : Clients} (failure : clients.link.failure = moment.link.failure)
    (results : (clients.finished ++ clients.link.answers).Sublist moment.results)
    (held : clients.link.held.Sublist moment.link.held) (upright : clients.link.Upright) :
    Goes none moment { moment with clients } where
  keeps := .of_eq failure
  results _ member := .inl (results.subset member)
  known call := (held.append (results.map Prod.fst)).count_le call
  sound := ⟨upright, fun broken => failure ▸ sound.broken broken⟩

private theorem goes_hear (sound : moment.Sound) : Goes none moment (moment.move .hear) := by
  cases told : moment.clients.link.signals with
  | nil =>
    have same : moment.move .hear = moment := by rw [move, Moment.hear, told]
    rw [same]
    exact .aside sound rfl (.refl _) (.refl _) sound.upright
  | cons signal signals =>
    let popped : Clients := { moment.clients with link := { moment.clients.link with signals } }
    have heard : moment.move .hear = { moment with clients := popped.hear signal } := by
      rw [move, Moment.hear, told]
    have link : (popped.hear signal).link = { moment.clients.link with signals } := link_foldl_hear [signal] popped
    have given : moment.results = moment.clients.finished ++ (signal :: signals).filterMap Signal.answer? := by
      rw [results, Moment.link, Link.answers, told]
    have upright : Link.Upright { moment.clients.link with signals } := ⟨sound.upright.failed, sound.upright.stopped⟩
    rw [heard]
    refine .aside sound (by rw [link]; rfl) ?_ (by rw [link]; exact .refl _) (link ▸ upright)
    rw [link, given]
    cases signal with
    | answer call result =>
      change List.Sublist ((popped.answer call result).finished ++ signals.filterMap Signal.answer?)
        (moment.clients.finished ++ (call, result) :: signals.filterMap Signal.answer?)
      unfold Clients.answer
      split
      · simp [popped]
      · exact (List.sublist_cons_self _ _).append_left _
    | _ => exact .refl _

private theorem begin_unasked (clients : Clients) {step : Step} (unasked : step.request? = none) :
    (clients.begin step).2.finished = clients.finished ∧
    (clients.begin step).2.link.answers = clients.link.answers ∧
    (clients.begin step).2.link.failure = clients.link.failure ∧
    (clients.begin step).2.link.pending = clients.link.pending ∧
    (clients.begin step).2.link.held.Sublist clients.link.held ∧
    (clients.begin step).2.link.writer = clients.link.writer ∧
    (clients.link.closed = true → (clients.begin step).2.link.closed = true) := by
  have begins := clients.begins step
  generalize (clients.begin step).2 = begun at begins ⊢
  cases begins with
  | aside => exact ⟨rfl, rfl, rfl, rfl, .refl _, rfl, id⟩
  | enters | waits | answered => cases unasked
  | leaves call =>
    refine ⟨rfl, rfl, rfl, rfl, ?_, rfl, id⟩
    exact ((List.filter_sublist.append_left _).map _).append_left _
  | closes =>
    rw [link_close]
    refine ⟨rfl, rfl, rfl, rfl, ?_, rfl, fun _ => rfl⟩
    exact ((List.filter_sublist.append_left _).map _).append_left _

private theorem goes_unasked (sound : moment.Sound) {step : Step} (unasked : step.request? = none) :
    Goes none moment (moment.move (.begin step)) := by
  obtain ⟨finished, answers, failure, pending, held, writer, closed⟩ := begin_unasked moment.clients unasked
  have touched := begin_observers moment.clients step
  refine .aside sound failure (by rw [finished, answers]; exact .refl _) held ⟨fun failed => ?_, fun alive stopped => ?_⟩
  · rw [failure] at failed
    obtain ⟨nobody, dark⟩ := sound.upright.failed failed
    obtain ⟨fault, known⟩ := Option.ne_none_iff_exists'.mp failed
    rw [known] at touched
    exact ⟨pending.trans nobody, dark.touched touched⟩
  · exact closed (sound.upright.stopped (failure ▸ alive) (writer ▸ stopped))

private theorem Goes.answered (sound : moment.Sound) {request : Request} {result : Except Fault Unit}
    (said : moment.link.Tellable result ∨ result = .ok () ∧ request.targets = []) :
    Goes (some request) moment { moment with clients :=
      ({ moment.clients with calls := moment.clients.calls ++ [request.call] } : Clients).answer request.call result } := by
  have told : (({ moment.clients with calls := moment.clients.calls ++ [request.call] } : Clients).answer request.call
      result).finished = moment.clients.finished ++ [(request.call, result)] := by
    simp [Clients.answer]
  have link : (({ moment.clients with calls := moment.clients.calls ++ [request.call] } : Clients).answer request.call
      result).link = moment.link := link_answer _ _ _
  generalize ({ moment.clients with calls := moment.clients.calls ++ [request.call] } : Clients).answer request.call
    result = clients at told link
  have results : ({ moment with clients } : Moment).results =
      (moment.clients.finished ++ [(request.call, result)]) ++ moment.link.answers := by
    rw [Moment.results, told, Moment.link, link]
  have known : ({ moment with clients } : Moment).known = moment.link.held ++ ((moment.clients.finished ++
      [(request.call, result)]) ++ moment.link.answers).map Prod.fst := by
    rw [Moment.known, results, Moment.link, link]
  have still : ({ moment with clients } : Moment).link = moment.link := link
  refine ⟨.of_eq (by rw [still]), fun entry member => ?_, fun call => ?_, ?_, fun broken => ?_⟩
  · rw [results, List.append_assoc, List.mem_append, List.mem_append, List.mem_singleton] at member
    rcases member with heard | rfl | given
    · exact .inl (List.mem_append_left _ heard)
    · rw [still]
      refine .inr (said.imp_right fun granted => ⟨granted.1, request.verb, ?_⟩)
      rw [← granted.2]
    · exact .inl (List.mem_append_right _ given)
  · rw [known, Moment.known, Moment.results]
    simp only [List.map_append, List.map_cons, List.map_nil, List.count_append, Option.toList_some]
    omega
  · rw [still]
    exact sound.upright
  · rw [still]
    exact sound.broken broken

private theorem Goes.lined (sound : moment.Sound) {request : Request} {link : Link} {calls : List Nat}
    (asked : ∃ queue waiting, link = { moment.link with queue, waiting } ∧
      (queue ++ waiting).Perm (moment.link.queue ++ moment.link.waiting ++ [request])) :
    Goes (some request) moment { moment with clients := { moment.clients with link, calls } } := by
  obtain ⟨queue, waiting, rfl, more⟩ := asked
  refine ⟨.of_eq rfl, fun entry member => .inl member, fun call => ?_,
    ⟨sound.upright.failed, sound.upright.stopped⟩, sound.broken⟩
  have count := (more.map Request.call).count_eq call
  change (moment.link.pending.map Pending.call ++ (queue ++ waiting).map Request.call ++
      moment.results.map Prod.fst).count call ≤ (moment.link.pending.map Pending.call ++
      (moment.link.queue ++ moment.link.waiting).map Request.call ++ moment.results.map Prod.fst).count call + _
  simp only [List.map_append, List.map_cons, List.map_nil, List.count_append, Option.toList_some] at count ⊢
  omega

private theorem goes_request (sound : moment.Sound) (request : Request) :
    Goes (some request) moment (moment.move (.begin (.request request.call request.verb request.targets))) := by
  cases closed : moment.clients.link.closed with
  | true =>
    have same : moment.clients.begin (.request request.call request.verb request.targets) = (.closed, moment.clients) := by
      unfold begin
      dsimp only
      rw [if_pos closed]
    rw [move, same]
    exact ⟨.of_eq rfl, fun entry member => .inl member, fun call => Nat.le_add_right _ _, sound⟩
  | false =>
    rw [move, begin_request closed]
    by_cases aimed : request.targets = []
    · have told : moment.clients.request request.call request.verb request.targets = ({ moment.clients with
          calls := moment.clients.calls ++ [request.call] } : Clients).answer request.call (.ok ()) := by
        simp [Clients.request, Link.request, aimed]
      rw [told]
      exact .answered sound (.inr ⟨rfl, aimed⟩)
    rcases request_cases moment.clients aimed with ⟨-, -, taken⟩ | ⟨-, -, taken⟩ | ⟨stopped, told⟩
    · rw [taken]
      refine .lined sound ⟨_, _, rfl, ?_⟩
      change (moment.link.queue ++ [request] ++ moment.link.waiting).Perm _
      simpa only [List.append_assoc] using List.perm_append_comm.append_left moment.link.queue
    · rw [taken]
      refine .lined sound ⟨_, _, rfl, ?_⟩
      exact .of_eq (List.append_assoc _ _ _).symm
    · rw [told]
      have failed : moment.link.failure ≠ none := fun alive => by
        cases closed.symm.trans (sound.upright.stopped alive stopped)
      obtain ⟨fault, known⟩ := Option.ne_none_iff_exists'.mp failed
      have loss : moment.link.loss = fault := by rw [Link.loss, known]; rfl
      refine .answered sound (.inl ?_)
      rw [Link.Tellable, known]
      exact congrArg Except.error loss

theorem move_goes (sound : moment.Sound) (move : Move) : Goes move.request? moment (moment.move move) := by
  cases move with
  | begin step =>
    cases asked : step.request? with
    | none =>
      have unasked : Move.request? (.begin step) = none := asked
      rw [unasked]
      exact goes_unasked sound asked
    | some request =>
      cases step with
      | request call verb targets => exact goes_request sound { call, verb, targets }
      | _ => cases asked
  | read =>
    have turns := sound.upright.readOne
    exact .turn turns fun broken => turns.keeps.failed (sound.broken broken)
  | write =>
    obtain ⟨turns, failed⟩ := sound.upright.writeOne sound.broken
    exact .turn turns failed
  | hear => exact goes_hear sound

theorem after_sound (sound : moment.Sound) (moves : List Move) : (moment.after moves).Sound := by
  induction moves generalizing moment with
  | nil => exact sound
  | cons move moves ih => exact ih (move_goes sound move).sound

theorem after_keeps (sound : moment.Sound) (moves : List Move) : moment.link.Keeps (moment.after moves).link := by
  induction moves generalizing moment with
  | nil => exact .of_eq rfl
  | cons move moves ih =>
    have goes := move_goes sound move
    exact goes.keeps.trans (ih goes.sound)

def requests (moves : List Move) : List Request := moves.filterMap Move.request?

theorem requests_cons (move : Move) (moves : List Move) :
    requests (move :: moves) = move.request?.toList ++ requests moves := by
  rw [requests, List.filterMap_cons]
  cases move.request? <;> rfl

theorem requests_append (first last : List Move) : requests (first ++ last) = requests first ++ requests last :=
  List.filterMap_append

private theorem after_known (sound : moment.Sound) (moves : List Move) (call : Nat) :
    (moment.after moves).known.count call ≤ moment.known.count call + ((requests moves).map Request.call).count call := by
  induction moves generalizing moment with
  | nil => exact Nat.le_add_right _ _
  | cons move moves ih =>
    have goes := move_goes sound move
    have first := goes.known call
    have later := ih goes.sound
    rw [requests_cons, List.map_append, List.count_append]
    change ((moment.move move).after moves).known.count call ≤ _
    omega

/-- On a connection that has failed every new result is the failure, except for calls that ask for nothing. -/
theorem after_failed (sound : moment.Sound) {fault : Fault} (failed : moment.link.failure = some fault)
    (moves : List Move) : ∀ entry ∈ (moment.after moves).results, entry ∈ moment.results ∨ entry.2 = .error fault ∨
      ∃ verb, { call := entry.1, verb, targets := [] } ∈ requests moves := by
  induction moves generalizing moment with
  | nil => exact fun _ => .inl
  | cons move moves ih =>
    have goes := move_goes sound move
    have still := goes.keeps fault failed
    intro entry member
    rw [requests_cons]
    rcases ih goes.sound still entry member with earlier | told | ⟨verb, later⟩
    · rcases goes.results entry earlier with before | told | ⟨-, verb, asked⟩
      · exact .inl before
      · rw [Link.Tellable, still] at told
        exact .inr (.inl told)
      · exact .inr (.inr ⟨verb, List.mem_append_left _ (by simp [asked])⟩)
    · exact .inr (.inl told)
    · exact .inr (.inr ⟨verb, List.mem_append_right _ later⟩)

/-- As long as a connection has not failed, results are what the server says. -/
theorem after_alive (sound : moment.Sound) (moves : List Move) (alive : (moment.after moves).link.failure = none) :
    ∀ entry ∈ (moment.after moves).results, entry ∈ moment.results ∨ entry.2 = .ok () ∨
      ∃ text, entry.2 = .error (.server text) := by
  induction moves generalizing moment with
  | nil => exact fun _ => .inl
  | cons move moves ih =>
    have goes := move_goes sound move
    have before : (moment.move move).link.failure = none := (after_keeps goes.sound moves).alive alive
    intro entry member
    refine (ih goes.sound alive entry member).elim (fun earlier => ?_) .inr
    rcases goes.results entry earlier with old | told | ⟨fine, -⟩
    · exact .inl old
    · rw [Link.Tellable, before] at told
      exact .inr told
    · exact .inr (.inl fine)

end

/-- Between two turns the calls that are with the connection, and those that are still to come, have been given nothing,
and none of them asks for nothing later. -/
theorem only_failure {first : Moment} (sound : first.Sound) (unknown : first.known = []) {earlier later : List Move}
    {move : Move} (numbered : ((requests (earlier ++ move :: later)).map Request.call).Nodup) {call : Nat}
    (who : (first.after earlier).link.Holds call ∨
      ∃ verb targets, targets ≠ [] ∧ Move.begin (.request call verb targets) ∈ later) :
    (∀ result, (call, result) ∉ (first.after earlier).results) ∧
      ∀ verb, ({ call, verb, targets := [] } : Request) ∉ requests (move :: later) := by
  have count := after_known sound earlier call
  rw [unknown, List.count_nil, Nat.zero_add] at count
  rw [requests_append, List.map_append] at numbered
  obtain ⟨once, single, apart⟩ := List.nodup_append.mp numbered
  have given {result : Except Fault Unit} (member : (call, result) ∈ (first.after earlier).results) :
      0 < ((first.after earlier).results.map Prod.fst).count call :=
    List.count_pos_iff.mpr (List.mem_map_of_mem member)
  have known : (first.after earlier).known.count call =
      (first.after earlier).link.held.count call + ((first.after earlier).results.map Prod.fst).count call := by
    rw [Moment.known, List.count_append]
  rcases who with holds | ⟨verb, targets, some, asked⟩
  · have held : 0 < (first.after earlier).link.held.count call := List.count_pos_iff.mpr (Link.mem_held.mpr holds)
    have atMost := List.nodup_iff_count_le_one.mp once call
    refine ⟨fun result member => ?_, fun verb member => ?_⟩
    · have := given member
      omega
    · have before : call ∈ (requests earlier).map Request.call := List.count_pos_iff.mp (by omega)
      exact apart call before call (List.mem_map_of_mem member) rfl
  · have later : ({ call, verb, targets } : Request) ∈ requests (move :: later) :=
      List.mem_filterMap.mpr ⟨_, List.mem_cons_of_mem _ asked, rfl⟩
    refine ⟨fun result member => ?_, fun verb' member => ?_⟩
    · have := given member
      have before : call ∈ (requests earlier).map Request.call := List.count_pos_iff.mp (by omega)
      exact apart call before call (List.mem_map_of_mem later) rfl
    · have same := List.inj_on_of_nodup_map single later member rfl
      cases same
      exact some rfl

/-- Before its failure a connection tells no call that it is closed, or of a failed read or write. When it has failed, for
good and for one reason, nobody waits for an answer of the server and no observer is fed; and whoever waited then without
an answer, in line, in the queue or for the server, and whoever asks for something later, is told of that failure if of
anything. This holds between any two turns of reader, writer, callers and network. -/
theorem failure_for_everyone (connection : Connection) (queueSize : Nat) (moves : List Move)
    (numbered : ((requests moves).map Request.call).Nodup) :
    let first : Moment := { clients := start connection queueSize }
    let last := first.after moves
    (last.link.failure = none → ∀ call result, (call, result) ∈ last.clients.finished →
      result ≠ .error .closed ∧ ∀ cause, result ≠ .error (.io cause)) ∧
    (last.link.failure ≠ none → last.link.pending = [] ∧ ∀ kind, last.link.observers.liveOf kind = 0) ∧
    ∀ earlier move later fault, moves = earlier ++ move :: later → (first.after earlier).link.failure = none →
      ((first.after earlier).move move).link.failure = some fault →
      last.link.failure = some fault ∧
      ∀ call, (first.after earlier).link.Holds call ∨
          (∃ verb targets, targets ≠ [] ∧ Move.begin (.request call verb targets) ∈ later) →
        ∀ result, (call, result) ∈ last.clients.finished → result = .error fault := by
  intro first last
  have sound : first.Sound := ⟨⟨absurd rfl, fun _ => nofun⟩, nofun⟩
  have nobody : first.known = [] := rfl
  have ungiven : first.results = [] := rfl
  refine ⟨fun alive call result ends => ?_, fun failed => ?_, ?_⟩
  · have given := after_alive sound moves alive (call, result) (List.mem_append_left _ ends)
    rw [ungiven] at given
    rcases given with none | fine | ⟨text, told⟩
    · cases none
    · cases fine
      exact ⟨nofun, nofun⟩
    · cases told
      exact ⟨nofun, nofun⟩
  · obtain ⟨empty, dark⟩ := (after_sound sound moves).upright.failed failed
    exact ⟨empty, dark.liveOf⟩
  · rintro earlier move later fault rfl alive failed
    have goes := move_goes (after_sound sound earlier) move
    have last_eq : last = ((first.after earlier).move move).after later := after_append first earlier (move :: later)
    rw [last_eq]
    refine ⟨after_keeps goes.sound later fault failed, fun call who result ends => ?_⟩
    obtain ⟨ungiven, aimed⟩ := only_failure sound nobody numbered who
    rcases after_failed goes.sound failed later (call, result) (List.mem_append_left _ ends) with given | told | ⟨verb, idle⟩
    · rcases goes.results (call, result) given with before | told | ⟨-, verb, idle⟩
      · exact absurd before (ungiven result)
      · rw [Link.Tellable, failed] at told
        exact told
      · refine absurd ?_ (aimed verb)
        rw [requests_cons, idle]
        exact List.mem_append_left _ List.mem_cons_self
    · exact told
    · refine absurd ?_ (aimed verb)
      rw [requests_cons]
      exact List.mem_append_right _ idle

/-- The server hangs up on one call that waits for it and one in the queue. Another call comes between the failure of the
write and the end of the writer, and a last one behind it. -/
theorem failure_for_everyone_between :
    let ask (call : Nat) : Move := .begin (.request call .subscribe [[97]])
    let earlier : List Move := [.begin (.network (.accept .waiting)), ask 1, .write, .write, ask 2,
      .begin (.network .finish)]
    let later : List Move := [.hear, .begin (.network (.accept (.refusing { kind := .brokenPipe, text := "broken" }))),
      .write, ask 3, .write, ask 4, .hear, .hear, .hear, .hear]
    let last := ({ clients := start {} 1 } : Moment).after (earlier ++ .read :: later)
    last.clients.finished.map Prod.fst = [4, 1, 3, 2] ∧
      ∀ call ∈ [1, 2, 3, 4], ∀ result, (call, result) ∈ last.clients.finished → result = .error .closed := by
  intro ask earlier later last
  have numbered : ((requests (earlier ++ .read :: later)).map Request.call).Nodup := by decide
  obtain ⟨-, -, told⟩ := failure_for_everyone {} 1 (earlier ++ .read :: later) numbered
  have alive : (({ clients := start {} 1 } : Moment).after earlier).link.failure = none := by decide +kernel
  have failed : ((({ clients := start {} 1 } : Moment).after earlier).move .read).link.failure = some .closed := by
    decide +kernel
  obtain ⟨-, told⟩ := told earlier .read later .closed rfl alive failed
  have held : ∀ call ∈ [1, 2], call ∈ (({ clients := start {} 1 } : Moment).after earlier).link.held := by decide +kernel
  refine ⟨by decide +kernel, fun call member => told call ?_⟩
  simp only [List.mem_cons, List.not_mem_nil, or_false] at member
  rcases member with rfl | rfl | rfl | rfl
  · exact .inl (Link.mem_held.mp (held 1 (by decide)))
  · exact .inl (Link.mem_held.mp (held 2 (by decide)))
  · exact .inr ⟨.subscribe, [[97]], nofun, by simp [later, ask]⟩
  · exact .inr ⟨.subscribe, [[97]], nofun, by simp [later, ask]⟩

end Moment

end Clients

end Subscriber
