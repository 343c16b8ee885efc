import Subscriber.Proofs.Heeding

/-! Observers of a shared connection. Each sees the messages of its kind among the frames that arrive while it is
registered, every one and in order, and behind them the failure of the connection, once. -/

namespace Subscriber

/-- The message that a frame brings: three parts of which the first is the word for a message, in any case, or four parts
behind the word for a message by pattern. The parts are simple strings or payloads. -/
def Frame.message? : Frame → Option Message
  | .array [word, channel, payload] =>
    match word.content?, channel.content?, payload.content? with
    | some word, some channel, some payload =>
      if word.lower = Push.messageWord then some (.channel channel payload) else none
    | _, _, _ => none
  | .array [word, pattern, channel, payload] =>
    match word.content?, pattern.content?, channel.content?, payload.content? with
    | some word, some pattern, some channel, some payload =>
      if word.lower = Push.patternMessageWord then some (.pattern pattern channel payload) else none
    | _, _, _, _ => none
  | _ => none

namespace Push

private theorem message?_plain (word : Bytes) : (ofWord.plain word).message? = none := by
  unfold ofWord.plain
  split
  · rfl
  · split <;> rfl

/-- Nothing else is taken for a message. -/
theorem message?_ofFrame (frame : Frame) : (ofFrame frame).message? = frame.message? := by
  match frame with
  | .array [] => rfl
  | .array [word] =>
    rw [ofFrame]
    cases word.content? with
    | none => rfl
    | some text => exact message?_plain text
  | .array [word, _] =>
    rw [ofFrame]
    cases word.content? with
    | none => rfl
    | some text => exact message?_plain text
  | .array [word, channel, payload] =>
    rw [ofFrame, Frame.message?]
    cases word.content? with
    | none => rfl
    | some text =>
      dsimp only [ofWord]
      by_cases own : text.lower = messageWord
      · cases channel.content? <;> cases payload.content? <;> simp [own, message?]
      · cases channel.content? <;> cases payload.content? <;> simp [own, message?_plain]
  | .array [word, pattern, channel, payload] =>
    rw [ofFrame, Frame.message?]
    cases word.content? with
    | none => rfl
    | some text =>
      dsimp only [ofWord]
      by_cases own : text.lower = patternMessageWord
      · cases pattern.content? <;> cases channel.content? <;> cases payload.content? <;> simp [own, message?]
      · cases pattern.content? <;> cases channel.content? <;> cases payload.content? <;> simp [own, message?_plain]
  | .array (word :: _ :: _ :: _ :: _ :: _) =>
    rw [ofFrame]
    cases word.content? with
    | none => rfl
    | some text => exact message?_plain text
  | .simple _ | .error _ | .integer _ | .bulk _ | .null => rfl

end Push

namespace Link

/-- The frames that the next work of a connection takes up before the connection fails. -/
def taking (link : Link) : List Frame :=
  if link.reading && link.failure.isNone then link.inbound.readAll.frames else []

/-- An observer to which so many messages have come, with what has been taken from it. -/
def Hears (id : Nat) (kind : Message.Kind) (taken : List (Except Fault Message)) (heard : List Message) (link : Link) :
    Prop :=
  ∃ queued, link.observers.find? id = some { id, kind, queued, live := link.failure.isNone } ∧
    taken ++ queued = heard.map .ok ++ link.failure.toList.map .error

section
variable {id : Nat} {kind : Message.Kind} {taken : List (Except Fault Message)} {heard messages : List Message}
  {before after link : Link}

theorem Hears.same (hears : before.Hears id kind taken heard) (failure : after.failure = before.failure)
    (observers : after.observers.find? id = before.observers.find? id) : after.Hears id kind taken heard := by
  obtain ⟨queued, found, parts⟩ := hears
  exact ⟨queued, by rw [observers, failure]; exact found, by rw [failure]; exact parts⟩

private theorem Hears.heeds (hears : before.Hears id kind taken heard) (heeds : Heeds messages before after) :
    after.Hears id kind taken
      (heard ++ if before.failure.isNone then messages.filter fun message => message.kind = kind else []) := by
  obtain ⟨queued, found, parts⟩ := hears
  have fed := Observers.find?_deliverAll found messages
  cases known : before.failure with
  | some fault =>
    rw [known] at parts fed
    cases heeds with
    | goesOn failure observers =>
      refine ⟨queued, ?_, ?_⟩
      · rw [observers, fed, failure, known]
        simp
      · rw [failure, known]
        simpa using parts
    | fails _ alive => cases known.symm.trans alive
  | none =>
    rw [known] at parts fed
    let own : List (Except Fault Message) := (messages.filter fun message => message.kind = kind).map Except.ok
    have parts' : taken ++ (queued ++ own) =
        (heard ++ messages.filter fun message => message.kind = kind).map Except.ok := by
      rw [← List.append_assoc, parts]
      simp [own]
    cases heeds with
    | goesOn failure observers =>
      refine ⟨queued ++ own, ?_, ?_⟩
      · rw [observers, fed, failure, known]
        simp [own]
      · rw [failure, known]
        simpa using parts'
    | fails fault alive failed observers =>
      refine ⟨queued ++ own ++ [.error fault], ?_, ?_⟩
      · rw [observers, Observers.find?_failAll fed, failed]
        simp [own]
      · rw [failed, ← List.append_assoc, parts']
        simp

private theorem Hears.observe (hears : link.Hears id kind taken heard) (other : Message.Kind) :
    (link.observe other).2.Hears id kind taken heard := by
  have ⟨queued, found, parts⟩ := hears
  rw [observe_new]
  refine hears.same rfl ?_
  rw [Observers.find?] at found ⊢
  simp only [List.find?_append, found, Option.some_or]
  exact found.symm

theorem Hears.work (hears : link.Hears id kind taken heard) (unclosed : link.closed = false) :
    link.work.Hears id kind taken
      (heard ++ (link.taking.filterMap Frame.message?).filter fun message => message.kind = kind) := by
  have heeded := hears.heeds (work_heeds unclosed)
  simp only [Push.message?_ofFrame] at heeded
  cases reading : link.reading <;> cases known : link.failure <;> simpa [taking, reading, known] using heeded

end

end Link

namespace Clients

def Step.takes (id : Nat) (reply : Reply) (step : Step) : List (Except Fault Message) :=
  match step, reply with
  | .poll observer, .item (.ready item) => if observer = id then [item] else []
  | .drain observer, .items items _ => if observer = id then items else []
  | _, _ => []

/-- What the steps of a script take from an observer. -/
def taken (id : Nat) (clients : Clients) : List Step → List (Except Fault Message)
  | [] => []
  | step :: later => step.takes id (clients.step step).1 ++ taken id (clients.step step).2 later

/-- The frames that arrive in the course of a script, before the connection has failed. -/
def dispatched (clients : Clients) : List Step → List Frame
  | [] => []
  | step :: later => (clients.begin step).2.link.taking ++ dispatched (clients.step step).2 later

section
variable {id : Nat} {kind : Message.Kind} {taken : List (Except Fault Message)} {heard : List Message} {clients : Clients}
  {step : Step}

theorem begin_closed (unclosed : clients.link.closed = false) (stays : step ≠ .close) :
    (clients.begin step).2.link.closed = false := by
  have begins := clients.begins step
  generalize (clients.begin step).2 = begun at begins ⊢
  cases begins with
  | aside | enters | waits | leaves => exact unclosed
  | answered =>
    rw [link_answer]
    exact unclosed
  | closes => exact absurd rfl stays

private theorem poll_hears (hears : clients.link.Hears id kind taken heard) (observer : Nat) :
    (clients.begin (.poll observer)).2.link.Hears id kind
      (taken ++ Step.takes id (clients.begin (.poll observer)).1 (.poll observer)) heard := by
  have unpolled : clients.link.Hears id kind (taken ++ []) heard := by rwa [List.append_nil]
  obtain ⟨queued, found, parts⟩ := hears
  unfold begin
  dsimp only
  cases member : clients.link.observers.find? observer with
  | none => exact unpolled
  | some other =>
    dsimp only
    rw [Observers.poll, member]
    dsimp only
    split
    next empty =>
      have nothing : Step.takes id (.item (if other.live then .pending else .ended)) (.poll observer) = [] := by
        cases other.live <;> rfl
      rw [nothing]
      exact unpolled
    next item rest first =>
      have left := Observers.find?_queued found observer rest
      by_cases own : id = observer
      · subst own
        cases member.symm.trans found
        obtain rfl : queued = item :: rest := first
        refine ⟨rest, left.trans (by rw [if_pos rfl]), ?_⟩
        rw [← parts, Step.takes, if_pos rfl, List.append_assoc]
        rfl
      · refine ⟨queued, left.trans (by rw [if_neg own]), ?_⟩
        rw [Step.takes, if_neg (Ne.symm own), List.append_nil]
        exact parts

private theorem drain_hears (hears : clients.link.Hears id kind taken heard) (observer : Nat) :
    (clients.begin (.drain observer)).2.link.Hears id kind
      (taken ++ Step.takes id (clients.begin (.drain observer)).1 (.drain observer)) heard := by
  have undrained : clients.link.Hears id kind (taken ++ []) heard := by rwa [List.append_nil]
  obtain ⟨queued, found, parts⟩ := hears
  unfold begin
  dsimp only
  cases member : clients.link.observers.find? observer with
  | none => exact undrained
  | some other =>
    dsimp only
    rw [Observers.drain, member]
    dsimp only
    have left := Observers.find?_queued found observer []
    by_cases own : id = observer
    · subst own
      cases member.symm.trans found
      refine ⟨[], left.trans (by rw [if_pos rfl]), ?_⟩
      rw [← parts, Step.takes, if_pos rfl, List.append_nil]
    · refine ⟨queued, left.trans (by rw [if_neg own]), ?_⟩
      rw [Step.takes, if_neg (Ne.symm own), List.append_nil]
      exact parts

private theorem begin_hears (hears : clients.link.Hears id kind taken heard) (stays : step ≠ .close) (kept : step ≠ .drop id) :
    (clients.begin step).2.link.Hears id kind (taken ++ step.takes id (clients.begin step).1) heard := by
  have aside : clients.link.Hears id kind (taken ++ []) heard := by rwa [List.append_nil]
  cases step with
  | network event => cases event <;> exact aside.same rfl rfl
  | request call verb targets =>
    unfold begin
    dsimp only
    split
    · exact aside
    · exact aside.same (failure_request clients call verb targets) (by rw [observers_request])
  | abandon call =>
    unfold begin abandon
    dsimp only
    split <;> exact aside
  | observe kind =>
    unfold begin
    dsimp only
    split
    · exact aside
    · exact aside.observe kind
  | poll observer => exact poll_hears hears observer
  | drain observer => exact drain_hears hears observer
  | drop observer =>
    have apart : id ≠ observer := by
      rintro rfl
      exact kept rfl
    exact aside.same rfl (Observers.find?_release apart)
  | close => exact absurd rfl stays

private theorem step_hears (hears : clients.link.Hears id kind taken heard) (unclosed : clients.link.closed = false)
    (stays : step ≠ .close) (kept : step ≠ .drop id) :
    (clients.step step).2.link.Hears id kind (taken ++ step.takes id (clients.step step).1)
      (heard ++ ((clients.begin step).2.link.taking.filterMap Frame.message?).filter fun message => message.kind = kind) ∧
    (clients.step step).2.link.closed = false := by
  have worked := (begin_hears hears stays kept).work (begin_closed unclosed stays)
  have settled : (clients.step step).2.link = { (clients.begin step).2.link.work with signals := [] } := link_settle _
  refine ⟨worked.same (by rw [settled]) (by rw [settled]), ?_⟩
  rw [settled]
  exact (Link.closed_work _).trans (begin_closed unclosed stays)

private theorem after_hears {later : List Step} (hears : clients.link.Hears id kind taken heard)
    (unclosed : clients.link.closed = false) (stays : .close ∉ later) (kept : .drop id ∉ later) :
    (clients.after later).link.Hears id kind (taken ++ clients.taken id later)
      (heard ++ ((clients.dispatched later).filterMap Frame.message?).filter fun message => message.kind = kind) ∧
    (clients.after later).link.closed = false := by
  induction later generalizing clients taken heard with
  | nil =>
    have still : (clients.after []).link.Hears id kind (taken ++ []) (heard ++ []) := by
      rw [List.append_nil, List.append_nil]
      exact hears
    exact ⟨still, unclosed⟩
  | cons step later ih =>
    obtain ⟨next, opened⟩ := step_hears hears unclosed (fun same => stays (same ▸ List.mem_cons_self))
      (fun same => kept (same ▸ List.mem_cons_self))
    obtain ⟨last, still⟩ := ih next opened (fun member => stays (List.mem_cons_of_mem _ member))
      (fun member => kept (List.mem_cons_of_mem _ member))
    refine ⟨?_, still⟩
    rw [List.append_assoc, List.append_assoc, ← List.filter_append, ← List.filterMap_append] at last
    exact last

private theorem after_numbered {steps : List Step} (numbered : clients.link.observers.Numbered)
    (unclosed : clients.link.closed = false) (stays : .close ∉ steps) :
    (clients.after steps).link.observers.Numbered ∧ (clients.after steps).link.closed = false := by
  induction steps generalizing clients with
  | nil => exact ⟨numbered, unclosed⟩
  | cons step steps ih =>
    have first : step ≠ .close := fun same => stays (same ▸ List.mem_cons_self)
    have opened := begin_closed unclosed first
    have settled : (clients.step step).2.link = { (clients.begin step).2.link.work with signals := [] } := link_settle _
    refine ih ?_ ?_ fun member => stays (List.mem_cons_of_mem _ member)
    · rw [settled]
      exact (Link.work_heeds opened).numbered ((begin_observers clients step).numbered numbered)
    · rw [settled]
      exact (Link.closed_work _).trans opened

/-- A new observer has heard of nothing but the failure of a connection that has failed. -/
theorem begin_observe (numbered : clients.link.observers.Numbered) (unclosed : clients.link.closed = false)
    (kind : Message.Kind) : (clients.begin (.observe kind)).1 = .observer clients.link.observers.next ∧
      (clients.begin (.observe kind)).2.link.Hears clients.link.observers.next kind [] [] := by
  have fresh : clients.link.observers.members.find? (fun other => other.id == clients.link.observers.next) = none :=
    numbered.find?_next
  have begun : clients.begin (.observe kind) =
      (.observer (clients.link.observe kind).1, { clients with link := (clients.link.observe kind).2 }) := by
    unfold begin
    dsimp only
    rw [if_neg (by simp [unclosed])]
  rw [begun, Link.observe_new]
  refine ⟨rfl, clients.link.failure.toList.map .error, ?_, rfl⟩
  simp [Observers.find?, fresh]

private theorem drain_last (hears : clients.link.Hears id kind taken heard) : ∃ items,
    (clients.step (.drain id)).1 = .items items (if clients.link.failure.isNone then .pending else .ended) ∧
      taken ++ items = heard.map .ok ++ clients.link.failure.toList.map .error := by
  obtain ⟨queued, found, parts⟩ := hears
  refine ⟨queued, ?_, parts⟩
  change (clients.begin (.drain id)).1 = _
  unfold begin
  dsimp only
  rw [found]
  dsimp only
  rw [Observers.drain, found]

end

/-- An observer of a shared connection yields the messages of its kind among the frames that arrive while it is there, and
behind them the failure of the connection; then it has ended, and before it waits. It does not matter what else happens,
to the connection, to calls and to other observers, nor when the items are taken. -/
theorem observers_hear_all (connection : Connection) (queueSize : Nat) (earlier later : List Step) (kind : Message.Kind)
    (lasting : .close ∉ earlier ++ later) :
    let before := (start connection queueSize).after earlier
    ∃ id, (before.step (.observe kind)).1 = .observer id ∧
      let script := .observe kind :: later
      let last := before.after script
      (.drop id ∉ later → ∃ items,
        (last.step (.drain id)).1 = .items items (if last.link.failure.isNone then .pending else .ended) ∧
        before.taken id script ++ items =
          (((before.dispatched script).filterMap Frame.message?).filter fun message => message.kind = kind).map .ok ++
            last.link.failure.toList.map .error) := by
  intro before
  have lasts : .close ∉ earlier ∧ .close ∉ later := by simpa [not_or] using lasting
  have empty : (start connection queueSize).link.observers.Numbered := nofun
  obtain ⟨numbered, opened⟩ := after_numbered empty rfl lasts.1
  obtain ⟨replied, fresh⟩ := begin_observe numbered opened kind
  refine ⟨before.link.observers.next, replied, fun kept => ?_⟩
  have settled : (before.step (.observe kind)).2.link =
      { (before.begin (.observe kind)).2.link.work with signals := [] } := link_settle _
  have first := fresh.work (begin_closed opened nofun)
  have stepped : (before.step (.observe kind)).2.link.Hears _ _ _ _ := first.same (by rw [settled]) (by rw [settled])
  have still : (before.step (.observe kind)).2.link.closed = false := by
    rw [settled]
    exact (Link.closed_work _).trans (begin_closed opened nofun)
  obtain ⟨last, -⟩ := after_hears stepped still lasts.2 kept
  obtain ⟨items, drained, parts⟩ := drain_last last
  refine ⟨items, drained, ?_⟩
  rw [List.nil_append, List.nil_append, ← List.filter_append, ← List.filterMap_append] at parts
  exact parts

/-- A message that comes too early, one in capitals, one without a payload, one cut in two, a message of the other kind,
and one of each behind the error that ends the connection: what two observers of different kinds yield. -/
theorem observers_hear_all_failing :
    let reset : IoError := { kind := .connectionReset, text := "reset" }
    let piece (text : String) : Step := .network (.arrive (.piece (Bytes.ofText text)))
    let earlier : List Step := [.observe .pattern, piece "*3\r\n+message\r\n+a\r\n+0\r\n"]
    let later : List Step := [piece "*3\r\n+MESSAGE\r\n+a\r\n$1\r\n1\r\n*3\r\n+message\r\n+a\r\n$-1\r\n", .poll 1,
      .drop 0, piece "*3\r\n+message\r\n+a\r", piece "\n+2\r\n*4\r\n+pmessage\r\n+*\r\n+a\r\n+3\r\n",
      .network (.arrive (.fault reset)), piece "*3\r\n+message\r\n+a\r\n+4\r\n*4\r\n+pmessage\r\n+*\r\n+a\r\n+5\r\n"]
    let before := (start {} 1).after earlier
    let beside := (start {} 1).after (earlier ++ [.observe .channel])
    let last := beside.after (.observe .pattern :: later)
    (∃ items, (last.step (.drain 1)).1 = .items items .ended ∧
      before.taken 1 (.observe .channel :: .observe .pattern :: later) ++ items =
        [.ok (.channel [97] [49]), .ok (.channel [97] [50]), .error (.io reset)]) ∧
    ∃ items, (last.step (.drain 2)).1 = .items items .ended ∧
      beside.taken 2 (.observe .pattern :: later) ++ items = [.ok (.pattern [42] [97] [51]), .error (.io reset)] := by
  intro reset piece earlier later before beside last
  have follows (first rest : List Step) (kind : Message.Kind) (id : Nat) (heard : List Message) (origin : Clients)
      (starts : (start {} 1).after first = origin) (ends : origin.after (.observe kind :: rest) = last)
      (lasting : .close ∉ first ++ rest) (kept : .drop id ∉ rest) (failed : last.link.failure = some (.io reset))
      (number : (match (origin.step (.observe kind)).1 with | .observer id => id | _ => 0) = id)
      (arrived : ((origin.dispatched (.observe kind :: rest)).filterMap Frame.message?).filter
        (fun message => message.kind = kind) = heard) :
      ∃ items, (last.step (.drain id)).1 = .items items .ended ∧
        origin.taken id (.observe kind :: rest) ++ items = heard.map .ok ++ [.error (.io reset)] := by
    have hears := observers_hear_all {} 1 first rest kind lasting
    dsimp only at hears
    rw [starts, ends] at hears
    obtain ⟨known, replied, hears⟩ := hears
    rw [replied] at number
    obtain rfl : known = id := number
    obtain ⟨items, drained, parts⟩ := hears kept
    rw [failed] at drained parts
    exact ⟨items, drained, arrived ▸ parts⟩
  have starts : (start {} 1).after earlier = before ∧ (start {} 1).after (earlier ++ [.observe .channel]) = beside :=
    ⟨rfl, rfl⟩
  have ends : before.after (.observe .channel :: .observe .pattern :: later) = last ∧
      beside.after (.observe .pattern :: later) = last := by
    simp only [before, beside, last, after, List.foldl_append, List.foldl_cons, List.foldl_nil, and_self]
  have lasting : .close ∉ earlier ++ .observe .pattern :: later ∧ .close ∉ (earlier ++ [.observe .channel]) ++ later := by
    simp [earlier, later, piece]
  have kept : .drop 1 ∉ .observe .pattern :: later ∧ .drop 2 ∉ later := by simp [later, piece]
  have failed : last.link.failure = some (.io reset) := by decide +kernel
  have numbers : (match (before.step (.observe .channel)).1 with | .observer id => id | _ => 0) = 1 ∧
      (match (beside.step (.observe .pattern)).1 with | .observer id => id | _ => 0) = 2 := by decide +kernel
  have arrived : ((before.dispatched (.observe .channel :: .observe .pattern :: later)).filterMap Frame.message?).filter
        (fun message => message.kind = .channel) = [.channel [97] [49], .channel [97] [50]] ∧
      ((beside.dispatched (.observe .pattern :: later)).filterMap Frame.message?).filter
        (fun message => message.kind = .pattern) = [.pattern [42] [97] [51]] := by decide +kernel
  clear_value before beside last
  exact ⟨follows _ _ _ _ _ _ starts.1 ends.1 lasting.1 kept.1 failed numbers.1 arrived.1,
    follows _ _ _ _ _ _ starts.2 ends.2 lasting.2 kept.2 failed numbers.2 arrived.2⟩

end Clients

end Subscriber
