import Subscriber.Proofs.Observing
import Subscriber.Proofs.Scripts

/-! What the work of a connection does to its observers: messages are delivered as they are read, and the failure, if the
connection fails, comes behind them. -/

namespace Subscriber

namespace Observers

section
variable {ε : Type}

def deliverAll (observers : Observers ε) (messages : List Message) : Observers ε := messages.foldl deliver observers

def failAll (observers : Observers ε) (fault : ε) : Observers ε := (observers.fail .channel fault).fail .pattern fault

theorem find?_map (observers : Observers ε) (change : Observer ε → Observer ε)
    (same : ∀ observer, (change observer).id = observer.id) (id : Nat) :
    ({ observers with members := observers.members.map change } : Observers ε).find? id =
      (observers.find? id).map change := by
  have key : ((fun observer : Observer ε => observer.id == id) ∘ change) = fun observer => observer.id == id := by
    funext observer
    simp only [Function.comp_apply, same]
  simp only [find?, List.find?_map, key]

variable {observers : Observers ε} {observer : Observer ε} {id : Nat}

/-- An observer that is still fed gets the messages of its kind. -/
theorem find?_deliverAll (found : observers.find? id = some observer) (messages : List Message) :
    (observers.deliverAll messages).find? id = some { observer with
      queued := observer.queued ++ if observer.live then
        (messages.filter fun message => message.kind = observer.kind).map .ok else [] } := by
  induction messages generalizing observers observer with
  | nil => simpa [deliverAll] using found
  | cons message messages ih =>
    have fed : (observers.deliver message).find? id = some
        (if feeds message.kind observer then { observer with queued := observer.queued ++ [.ok message] }
          else observer) := by
      rw [deliver, find?_map _ _ (fun other => by split <;> rfl), found, Option.map_some]
    refine (ih fed).trans ?_
    cases lives : observer.live with
    | false => simp [feeds, lives]
    | true =>
      by_cases own : message.kind = observer.kind
      · simp [feeds, lives, own]
      · simp [feeds, lives, own, Ne.symm own]

theorem find?_failAll (found : observers.find? id = some observer) (fault : ε) :
    (observers.failAll fault).find? id = some (if observer.live then
      { observer with queued := observer.queued ++ [.error fault], live := false } else observer) := by
  rw [failAll, fail, find?_map _ _ (fun other => by split <;> rfl), fail,
    find?_map _ _ (fun other => by split <;> rfl), found, Option.map_some, Option.map_some]
  cases lives : observer.live with
  | false => simp [feeds, lives]
  | true => cases own : observer.kind <;> simp [feeds, lives, own]

theorem find?_queued (found : observers.find? id = some observer) (other : Nat) (queued : List (Except ε Message)) :
    ({ observers with members := observers.members.map fun member =>
        if member.id = other then { member with queued } else member } : Observers ε).find? id =
      some (if id = other then { observer with queued } else observer) := by
  have matched := List.find?_some (p := fun member : Observer ε => member.id == id) found
  have own : observer.id = id := beq_iff_eq.mp matched
  rw [find?_map _ _ (fun member => by split <;> rfl), found, Option.map_some, own]

theorem find?_release {other : Nat} (apart : id ≠ other) : (observers.release other).find? id = observers.find? id := by
  unfold find? release
  rw [List.find?_filter]
  congr 1
  funext member
  rw [Bool.eq_iff_iff, decide_eq_true_iff, bne_iff_ne, beq_iff_eq]
  exact ⟨And.right, fun same => ⟨same ▸ apart, same⟩⟩

/-- The numbers of observers have been given out before. -/
def Numbered (observers : Observers ε) : Prop := ∀ observer ∈ observers.members, observer.id < observers.next

theorem Numbered.map (numbered : observers.Numbered) {change : Observer ε → Observer ε}
    (same : ∀ observer, (change observer).id = observer.id) :
    ({ observers with members := observers.members.map change } : Observers ε).Numbered := by
  intro changed member
  obtain ⟨observer, inside, rfl⟩ := List.mem_map.mp member
  rw [same]
  exact numbered observer inside

private theorem Numbered.deliverAll (numbered : observers.Numbered) (messages : List Message) :
    (observers.deliverAll messages).Numbered := by
  induction messages generalizing observers with
  | nil => exact numbered
  | cons message messages ih => exact ih (numbered.map fun observer => by split <;> rfl)

private theorem Numbered.failAll (numbered : observers.Numbered) (fault : ε) : (observers.failAll fault).Numbered :=
  (numbered.map fun observer => by split <;> rfl).map fun observer => by split <;> rfl

/-- What callers may do to observers: open one, which has the failure to tell if there is one, take something from one, or
drop one. -/
inductive Touched (failure : Option ε) (before : Observers ε) : Observers ε → Prop where
  | same : Touched failure before before
  | opened (kind : Message.Kind) : Touched failure before
    { next := before.next + 1
      members := before.members ++ [{
        id := before.next, kind, queued := failure.toList.map .error, live := failure.isNone }] }
  | taken (id : Nat) (queued : List (Except ε Message)) : Touched failure before
    { before with members := before.members.map fun observer =>
        if observer.id = id then { observer with queued } else observer }
  | dropped (id : Nat) : Touched failure before (before.release id)

private theorem touched_poll (failure : Option ε) (observers : Observers ε) (id : Nat) :
    Touched failure observers (observers.poll id).2 := by
  unfold poll
  split
  · exact .same
  · split
    · exact .same
    · exact .taken id _

private theorem touched_drain (failure : Option ε) (observers : Observers ε) (id : Nat) :
    Touched failure observers (observers.drain id).2.2 := by
  unfold drain
  split
  · exact .same
  · exact .taken id []

theorem Touched.numbered {failure : Option ε} {after : Observers ε} (touched : Touched failure observers after)
    (numbered : observers.Numbered) : after.Numbered := by
  cases touched with
  | same => exact numbered
  | opened kind =>
    intro observer member
    rcases List.mem_append.mp member with old | last
    · exact Nat.lt_succ_of_lt (numbered observer old)
    · rw [List.mem_singleton.mp last]
      exact Nat.lt_succ_self _
  | taken id queued => exact numbered.map fun observer => by split <;> rfl
  | dropped id => exact fun observer member => numbered observer (List.mem_filter.mp member).1

theorem Numbered.find?_next (numbered : observers.Numbered) : observers.find? observers.next = none := by
  refine List.find?_eq_none.mpr fun observer member same => ?_
  exact Nat.lt_irrefl _ (beq_iff_eq.mp same ▸ numbered observer member)

end

end Observers

namespace Link

/-- The messages reach the observers, and the connection goes on as before or fails behind them. -/
inductive Heeds (messages : List Message) (before after : Link) : Prop where
  | goesOn (failure : after.failure = before.failure) (observers : after.observers = before.observers.deliverAll messages)
  | fails (fault : Fault) (alive : before.failure = none) (failed : after.failure = some fault)
    (observers : after.observers = (before.observers.deliverAll messages).failAll fault)

section
variable {messages : List Message} {before after link : Link}

theorem Heeds.same (failure : after.failure = before.failure) (observers : after.observers = before.observers) :
    Heeds [] before after := .goesOn failure observers

theorem Heeds.andThen {last : Link} (first : Heeds messages before after) (second : Heeds [] after last) :
    Heeds messages before last := by
  cases first with
  | goesOn failure observers =>
    cases second with
    | goesOn failure' observers' => exact .goesOn (failure'.trans failure) (observers'.trans observers)
    | fails fault alive failed observers' =>
      exact .fails fault (failure ▸ alive) failed (by rw [observers', observers]; rfl)
  | fails fault alive failed observers =>
    cases second with
    | goesOn failure' observers' => exact .fails fault alive (failure'.trans failed) (observers'.trans observers)
    | fails other alive' => cases failed.symm.trans alive'

theorem fail_heeds (link : Link) (fault : Fault) : Heeds [] link (link.fail fault) := by
  cases known : link.failure with
  | none =>
    rw [fail_alive known]
    exact .fails fault known rfl rfl
  | some first =>
    rw [fail_failed known]
    exact .same rfl rfl

private theorem stopWriting_heeds (link : Link) : Heeds [] link link.stopWriting := by
  rw [stopWriting_eq]
  exact .same rfl rfl

theorem send_heeds (link : Link) (bytes : Bytes) : Heeds [] link (link.send bytes) := by
  unfold send
  split
  · exact .same rfl rfl
  · exact .same rfl rfl
  next cause outbound _ =>
    have sent : Heeds [] link { link with outbound } := .same rfl rfl
    exact (sent.andThen (fail_heeds _ (.io cause))).andThen (stopWriting_heeds _)

private theorem dequeue_heeds (link : Link) (queue : List Request) : Heeds [] link (link.dequeue queue) := by
  unfold dequeue
  split
  · exact .same rfl rfl
  · dsimp only
    split <;> exact .same rfl rfl

private theorem perform_heeds (link : Link) (request : Request) : Heeds [] link (link.perform request) := by
  unfold perform
  split
  · exact .same rfl rfl
  next alive =>
    let pending : Pending := { call := request.call, verb := request.verb, remaining := request.targets.length }
    have entered : Heeds [] link { link with pending := link.pending ++ [pending] } := .same rfl rfl
    exact entered.andThen (send_heeds _ _)

private theorem serve_heeds (link : Link) : Heeds [] link link.serve := by
  fun_induction serve link with
  | case1 => exact .same rfl rfl
  | case2 link request queue front idle ih =>
    exact ((dequeue_heeds link queue).andThen (perform_heeds _ request)).andThen ih
  | case3 => exact .same rfl rfl

private theorem write_heeds (link : Link) : Heeds [] link link.write := by
  unfold write
  split
  · exact (send_heeds link _).andThen (serve_heeds _)
  · exact serve_heeds link

private theorem receiveAll_observers (frames : List Frame) (link : Link) : (link.receiveAll frames).observers =
    link.observers.deliverAll (frames.filterMap fun frame => (Push.ofFrame frame).message?) := by
  induction frames generalizing link with
  | nil => rfl
  | cons frame frames ih =>
    obtain ⟨pending, signals, received⟩ := receive_eq link (.ofFrame frame)
    refine (ih (link.receive (.ofFrame frame))).trans ?_
    rw [received, List.filterMap_cons]
    cases Push.ofFrame frame <;> rfl

private theorem passed_heeds (link : Link) : Heeds
    (link.inbound.readAll.frames.filterMap fun frame => (Push.ofFrame frame).message?) link link.passed := by
  obtain ⟨pending, observers, signals, received⟩ :=
    receiveAll_eq link.inbound.readAll.frames { link with inbound := link.inbound.readAll.rest }
  exact .goesOn (by rw [passed, received]) (receiveAll_observers _ _)

private theorem read_heeds (link : Link) : Heeds
    (if link.reading then link.inbound.readAll.frames.filterMap fun frame => (Push.ofFrame frame).message? else [])
    link link.read := by
  cases reading : link.reading with
  | false =>
    have still : link.read = link := by rw [read, if_neg (by simp [reading])]
    rw [still]
    exact .same rfl rfl
  | true =>
    cases failed : link.inbound.readAll.failure with
    | none =>
      rw [read_complete reading failed]
      exact passed_heeds link
    | some error =>
      have failing := (passed_heeds link).andThen (fail_heeds link.passed (.ofError error))
      rw [read_broken reading failed]
      exact failing.andThen (.same rfl rfl)

/-- A connection that has not been closed lets go of no observer. -/
theorem work_heeds {link : Link} (unclosed : link.closed = false) : Heeds
    (if link.reading then link.inbound.readAll.frames.filterMap fun frame => (Push.ofFrame frame).message? else [])
    link link.work := by
  obtain ⟨inbound, reading, pending, observers, failure, signals, read⟩ := read_eq link
  have still : link.read.write.closed = false := by rw [(write_writes link.read).closed, read]; exact unclosed
  have winds : link.work = link.read.write := by
    rw [work, wind, still]
  rw [winds]
  exact (read_heeds link).andThen (write_heeds _)

/-- A new observer is fed unless the connection has failed, and then has the failure to tell. -/
theorem observe_new (link : Link) (kind : Message.Kind) : link.observe kind = (link.observers.next, { link with
    observers := { next := link.observers.next + 1, members := link.observers.members ++ [{
      id := link.observers.next, kind, queued := link.failure.toList.map .error, live := link.failure.isNone }] } }) := by
  unfold Link.observe
  split
  next registered =>
    split at registered
    next alive => cases registered; rw [alive]; rfl
    next failed => cases registered; rw [failed]; rfl

theorem Heeds.numbered (heeds : Heeds messages before after) (numbered : before.observers.Numbered) :
    after.observers.Numbered := by
  cases heeds with
  | goesOn _ observers =>
    rw [observers]
    exact numbered.deliverAll messages
  | fails fault _ _ observers =>
    rw [observers]
    exact (numbered.deliverAll messages).failAll fault

end

end Link

namespace Clients

theorem observers_request (clients : Clients) (call : Nat) (verb : Verb) (targets : List Bytes) :
    (clients.request call verb targets).link.observers = clients.link.observers := by
  obtain ⟨queue, waiting, requested⟩ := Link.request_eq clients.link call verb targets
  have asked : (clients.link.request call verb targets).2.observers = clients.link.observers := by rw [requested]
  unfold request
  dsimp only
  split
  · exact asked
  · rw [link_answer]
    exact asked

theorem begin_observers (clients : Clients) (step : Step) :
    clients.link.observers.Touched clients.link.failure (clients.begin step).2.link.observers := by
  cases step with
  | network event => cases event <;> exact .same
  | request call verb targets =>
    unfold begin
    dsimp only
    split
    · exact .same
    · rw [observers_request]
      exact .same
  | abandon call =>
    unfold begin abandon
    dsimp only
    split <;> exact .same
  | observe kind =>
    unfold begin
    dsimp only
    split
    · exact .same
    · rw [Link.observe_new]
      exact .opened kind
  | poll observer =>
    unfold begin
    dsimp only
    split
    · exact .same
    · exact Observers.touched_poll _ _ observer
  | drain observer =>
    unfold begin
    dsimp only
    split
    · exact .same
    · exact Observers.touched_drain _ _ observer
  | drop observer => exact .dropped observer
  | close =>
    unfold begin
    dsimp only
    split
    · exact .same
    · rw [link_close]
      exact .same

end Clients

end Subscriber
