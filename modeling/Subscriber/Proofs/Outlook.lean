import Subscriber.Proofs.FanOut

/-! What one stream can notice of a fan-out. All of it is kept in an outlook, which moves on by itself, without regard to
the polls and drops of other streams or to registrations that are over. -/

namespace Subscriber

namespace Fanout

inductive Event where
  | openStream
  | poll (stream : Nat)
  | drop (stream : Nat)
  /-- The pump at work finds an item. -/
  | publish (item : Item)
  | finish
  /-- A pump that is not at work, because it was stopped as it found something, comes to publish an item or to
  announce the end. -/
  | late (generation : Nat) (found : Option Item)
  | cancel

def act (fanout : Fanout) : Event → Fanout
  | .openStream => fanout.openStream.2
  | .poll stream => (fanout.poll stream).2
  | .drop stream => fanout.drop stream
  | .publish item =>
    match fanout.pump with
    | none => fanout
    | some generation => fanout.publish generation item
  | .finish =>
    match fanout.pump with
    | none => fanout
    | some generation => fanout.finish generation
  | .late generation found =>
    if fanout.pump = some generation then fanout
    else
      match found with
      | some item => fanout.publish generation item
      | none => fanout.finish generation
  | .cancel => fanout.cancel

def acts (fanout : Fanout) (events : List Event) : Fanout := events.foldl act fanout

namespace Event

def polls (stream : Nat) : Event → Bool
  | .poll other => other == stream
  | _ => false

/-- Anything but a poll or a drop of another stream, or a pump that comes late. -/
def concerns (stream : Nat) : Event → Bool
  | .poll other | .drop other => other == stream
  | .late .. => false
  | _ => true

end Event

def answers (stream : Nat) : Fanout → List Event → List (Poll Item)
  | _, [] => []
  | fanout, event :: later =>
    (if event.polls stream then [(fanout.poll stream).1] else []) ++ answers stream (fanout.act event) later

/-- How one stream stands to the fan-out. -/
inductive Place where
  | absent
  | fresh
  /-- It is given items; these wait for it. -/
  | hearing (messages : List Message)
  /-- It is given no more; the last thing it sees is why, if there is a reason. -/
  | released (messages : List Message) (last : Option Interruption)

namespace Place

def items : Place → List Item
  | .absent | .fresh => []
  | .hearing messages => messages.map .ok
  | .released messages last => messages.map .ok ++ (last.map .error).toList

def poll (cancelled : Bool) : Place → Poll Item × Place
  | .absent => (.ended, .absent)
  | .fresh => if cancelled then (.ready (.error .cancelled), .released [] none) else (.pending, .hearing [])
  | .hearing [] => (.pending, .hearing [])
  | .hearing (message :: messages) => (.ready (.ok message), .hearing messages)
  | .released (message :: messages) last => (.ready (.ok message), .released messages last)
  | .released [] (some interruption) => (.ready (.error interruption), .released [] none)
  | .released [] none => (.ended, .released [] none)

def give : Item → Place → Place
  | .ok message, .hearing messages => .hearing (messages ++ [message])
  | .error interruption, .hearing messages => .released messages (some interruption)
  | _, place => place

def finish : Place → Place
  | .hearing messages => .released messages none
  | place => place

end Place

/-- All that one stream can notice. -/
structure Outlook where
  opened : Nat := 0
  cancelled : Bool := false
  place : Place := .absent

namespace Outlook

def act (stream : Nat) (outlook : Outlook) : Event → Outlook
  | .openStream =>
    { outlook with
      opened := outlook.opened + 1, place := if outlook.opened = stream then .fresh else outlook.place }
  | .poll other =>
    if other = stream then { outlook with place := (outlook.place.poll outlook.cancelled).2 } else outlook
  | .drop other => if other = stream then { outlook with place := .absent } else outlook
  | .publish item => { outlook with place := outlook.place.give item }
  | .finish => { outlook with place := outlook.place.finish }
  | .late .. => outlook
  | .cancel => { outlook with cancelled := true, place := outlook.place.give (.error .cancelled) }

def acts (stream : Nat) (outlook : Outlook) (events : List Event) : Outlook := events.foldl (act stream) outlook

def answer (stream : Nat) (outlook : Outlook) (event : Event) : List (Poll Item) :=
  if event.polls stream then [(outlook.place.poll outlook.cancelled).1] else []

def answers (stream : Nat) : Outlook → List Event → List (Poll Item)
  | _, [] => []
  | outlook, event :: later => outlook.answer stream event ++ answers stream (outlook.act stream event) later

theorem acts_cons (stream : Nat) (outlook : Outlook) (event : Event) (later : List Event) :
    outlook.acts stream (event :: later) = (outlook.act stream event).acts stream later := rfl

theorem answers_cons (stream : Nat) (outlook : Outlook) (event : Event) (later : List Event) :
    outlook.answers stream (event :: later) = outlook.answer stream event ++ (outlook.act stream event).answers stream later :=
  rfl

theorem answers_concerning (stream : Nat) (outlook : Outlook) (events : List Event) :
    answers stream outlook (events.filter (·.concerns stream)) = answers stream outlook events := by
  induction events generalizing outlook with
  | nil => rfl
  | cons event later ih =>
    by_cases own : event.concerns stream
    · rw [List.filter_cons_of_pos own, answers, answers, ih]
    · rw [List.filter_cons_of_neg own, answers, ih]
      cases event with
      | poll other =>
        have foreign : ¬ other = stream := by simpa [Event.concerns] using own
        simp [answer, Event.polls, act, foreign]
      | drop other =>
        have foreign : ¬ other = stream := by simpa [Event.concerns] using own
        simp [answer, Event.polls, act, foreign]
      | late generation found => rfl
      | _ => exact absurd rfl own

end Outlook

/-- Where a stream stands, as the fan-out has it. -/
inductive Stands (stream : Nat) (fanout : Fanout) : Place → Prop where
  | absent (gone : fanout.stream? stream = none) : Stands stream fanout .absent
  | fresh (present : fanout.stream? stream = some .detached) : Stands stream fanout .fresh
  | hearing {messages : List Message} (attends : fanout.attends stream = true)
      (queue : fanout.queue stream = (Place.hearing messages).items) : Stands stream fanout (.hearing messages)
  | released {messages : List Message} {last : Option Interruption} (joined : fanout.Joined stream)
      (silent : fanout.attends stream = false) (queue : fanout.queue stream = (Place.released messages last).items) :
    Stands stream fanout (.released messages last)

section
variable {stream : Nat} {fanout after : Fanout} {place : Place}

theorem Stands.spared (stands : Stands stream fanout place) (spares : fanout.Spares stream after) :
    Stands stream after place := by
  cases stands with
  | absent gone => exact .absent (spares.same.trans gone)
  | fresh present => exact .fresh (spares.same.trans present)
  | hearing attends queue => exact .hearing (spares.attends.trans attends) (spares.queue.trans queue)
  | released joined silent queue =>
    exact .released (spares.joined joined) (spares.attends.trans silent) (spares.queue.trans queue)

private theorem Stands.queue (stands : Stands stream fanout place) : fanout.queue stream = place.items := by
  cases stands with
  | absent gone =>
    rw [Fanout.queue, gone]
    rfl
  | fresh present =>
    rw [Fanout.queue, present]
    rfl
  | hearing attends queue => exact queue
  | released joined silent queue => exact queue

theorem Stands.orderly (stands : Stands stream fanout place) : fanout.Orderly stream := by
  have seen : [] ++ fanout.queue stream = place.items := stands.queue
  cases stands with
  | absent => exact orderly_attending (seen.trans List.map_nil.symm)
  | fresh => exact orderly_attending (seen.trans List.map_nil.symm)
  | hearing => exact orderly_attending seen
  | @released messages last joined silent =>
    cases last with
    | none => exact orderly_attending (seen.trans (List.append_nil _))
    | some ending => exact orderly_ended silent seen

private theorem poll_answer (joined : fanout.Joined stream) : (fanout.poll stream).1 =
    match fanout.queue stream with
    | item :: _ => .ready item
    | [] => if fanout.attends stream then .pending else .ended := by
  obtain ⟨attachment, present, moved⟩ := joined
  cases attachment with
  | detached => exact absurd rfl moved
  | done => simp [poll, queue, attends, consumer?, present, Attachment.queue, Attachment.consumer?]
  | attached consumer queued =>
    have heard : fanout.attends stream = fanout.consumers.contains consumer := by
      simp [attends, consumer?, present, Attachment.consumer?]
    have waits : fanout.queue stream = queued := by
      rw [queue, present]
      rfl
    rw [heard, waits, poll, present]
    cases queued with
    | nil =>
      dsimp only
      split <;> rfl
    | cons item queued => cases item <;> rfl

theorem Stands.inside (stands : Stands stream fanout place) (there : place ≠ .absent) :
    stream < fanout.streams.length := by
  apply Nat.lt_of_not_le
  intro outside
  have gone : fanout.stream? stream = none := by simp only [stream?, List.getElem?_eq_none outside, Option.join_none]
  cases stands with
  | absent => exact there rfl
  | fresh present => cases gone.symm.trans present
  | hearing attends queue => exact (attends_joined attends).present gone
  | released joined silent queue => exact joined.present gone

private theorem poll_fresh (present : fanout.stream? stream = some .detached) :
    (fanout.poll stream).1 = (Place.fresh.poll fanout.cancelled).1 ∧
      Stands stream (fanout.poll stream).2 (Place.fresh.poll fanout.cancelled).2 := by
  have entered := poll_enters present
  rw [poll_detached present] at entered ⊢
  cases quit : fanout.cancelled with
  | true =>
    rw [quit] at entered
    refine ⟨rfl, ?_⟩
    cases entered with
    | refused cancelled joined queue attends still => exact .released joined attends queue
  | false =>
    obtain ⟨attends, queue⟩ := attach_own present
    exact ⟨rfl, .hearing attends queue⟩

/-- A poll does to a stream what it does to its place. -/
theorem Stands.poll (stands : Stands stream fanout place) :
    (fanout.poll stream).1 = (place.poll fanout.cancelled).1 ∧
      Stands stream (fanout.poll stream).2 (place.poll fanout.cancelled).2 := by
  have orderly := stands.orderly
  cases stands with
  | absent gone =>
    unfold Fanout.poll
    rw [gone]
    exact ⟨rfl, .absent gone⟩
  | fresh present => exact poll_fresh present
  | @hearing messages attends queue =>
    have joined := attends_joined attends
    have answer := poll_answer joined
    have draws := poll_draws joined orderly
    rw [queue, attends] at answer
    have taken := draws.queue
    rw [queue, answer] at taken
    cases messages with
    | nil => exact ⟨answer, .hearing (draws.attends.trans attends) taken.symm⟩
    | cons message messages =>
      exact ⟨answer, .hearing (draws.attends.trans attends) (List.cons.inj taken).2.symm⟩
  | @released messages last joined silent queue =>
    have answer := poll_answer joined
    have draws := poll_draws joined orderly
    rw [queue, silent] at answer
    have taken := draws.queue
    rw [queue, answer] at taken
    have still := draws.attends.trans silent
    cases messages with
    | nil =>
      cases last with
      | none => exact ⟨answer, .released draws.joined still taken.symm⟩
      | some interruption => exact ⟨answer, .released draws.joined still (List.cons.inj taken).2.symm⟩
    | cons message messages => exact ⟨answer, .released draws.joined still (List.cons.inj taken).2.symm⟩

/-- A stream that is given nothing stands where it stood. -/
theorem Stands.hearing_or_silent (stands : Stands stream fanout place) :
    (∃ messages, place = .hearing messages ∧ fanout.attends stream = true ∧
      fanout.queue stream = messages.map .ok) ∨
    fanout.attends stream = false ∧ place.finish = place ∧ ∀ item, place.give item = place := by
  cases stands with
  | absent gone =>
    refine .inr ⟨by rw [attends, consumer?, gone]; rfl, rfl, fun item => ?_⟩
    cases item <;> rfl
  | fresh present =>
    refine .inr ⟨by rw [attends, consumer?, present]; rfl, rfl, fun item => ?_⟩
    cases item <;> rfl
  | hearing attends queue => exact .inl ⟨_, rfl, attends, queue⟩
  | released joined silent queue =>
    refine .inr ⟨silent, rfl, fun item => ?_⟩
    cases item <;> rfl

private theorem Stands.deliver (stands : Stands stream fanout place) (message : Message) :
    Stands stream (fanout.deliver (.ok message)) (place.give (.ok message)) := by
  rcases stands.hearing_or_silent with ⟨messages, rfl, attends, queue⟩ | ⟨silent, -, same⟩
  · refine .hearing ((attends_deliver fanout _ stream).trans attends) ?_
    rw [queue_deliver attends, queue]
    simp only [Place.items, List.map_append, List.map_cons, List.map_nil]
  · rw [same]
    exact stands.spared (deliver_spares silent _)

theorem Stands.interrupt (stands : Stands stream fanout place) (interruption : Interruption) :
    Stands stream (fanout.interrupt interruption) (place.give (.error interruption)) := by
  rcases stands.hearing_or_silent with ⟨messages, rfl, attends, queue⟩ | ⟨silent, -, same⟩
  · refine .released (interrupt_joined attends _) (attends_interrupt fanout _ stream) ?_
    rw [queue_interrupt attends, queue]
    rfl
  · rw [same]
    exact stands.spared (interrupt_spares silent _)

theorem Stands.unserved (stands : Stands stream fanout place) (sound : fanout.Sound) (idle : fanout.pump = none) :
    place.finish = place ∧ ∀ item, place.give item = place := by
  rcases stands.hearing_or_silent with ⟨messages, rfl, attends, queue⟩ | ⟨-, same⟩
  · obtain ⟨generation, running⟩ := sound.pump attends
    cases idle.symm.trans running
  · exact same

/-- What comes of an item that the pump at work finds, if there is such a pump. -/
inductive Publishes (fanout : Fanout) : Item → Fanout → Prop where
  | idle {item : Item} (stopped : fanout.pump = none) : Publishes fanout item fanout
  | delivers (message : Message) : Publishes fanout (.ok message) (fanout.deliver (.ok message))
  | interrupts (interruption : Interruption) : Publishes fanout (.error interruption) (fanout.interrupt interruption)

theorem act_publish (fanout : Fanout) (item : Item) : Publishes fanout item (fanout.act (.publish item)) := by
  unfold act
  cases running : fanout.pump with
  | none => exact .idle running
  | some generation =>
    dsimp only
    cases item with
    | ok message => exact publish_ok running message ▸ .delivers message
    | error interruption => exact publish_error running interruption ▸ .interrupts interruption

/-- What comes of the end of the upstream, if there is a pump at work to find it. -/
inductive Finishes (fanout : Fanout) : Fanout → Prop where
  | idle (stopped : fanout.pump = none) : Finishes fanout fanout
  | releases : Finishes fanout { fanout with consumers := [], pump := none }

theorem act_finish (fanout : Fanout) : Finishes fanout (fanout.act .finish) := by
  unfold act
  cases running : fanout.pump with
  | none => exact .idle running
  | some generation =>
    have finished : fanout.finish generation = { fanout with consumers := [], pump := none } := if_pos running
    dsimp only
    exact finished ▸ .releases

theorem act_late (fanout : Fanout) (generation : Nat) (found : Option Item) : fanout.act (.late generation found) = fanout := by
  unfold act
  dsimp only
  split
  · rfl
  next stopped =>
    split
    · exact if_neg stopped
    · exact if_neg stopped

private theorem Stands.publish (stands : Stands stream fanout place) (sound : fanout.Sound) {item : Item}
    (publishes : Publishes fanout item after) : Stands stream after (place.give item) := by
  cases publishes with
  | idle stopped =>
    rw [(stands.unserved sound stopped).2]
    exact stands
  | delivers message => exact stands.deliver message
  | interrupts interruption => exact stands.interrupt interruption

private theorem Stands.finish (stands : Stands stream fanout place) (sound : fanout.Sound) (finishes : Finishes fanout after) :
    Stands stream after place.finish := by
  cases finishes with
  | idle stopped =>
    rw [(stands.unserved sound stopped).1]
    exact stands
  | releases =>
    have silent : ({ fanout with consumers := [], pump := none } : Fanout).attends stream = false := by
      apply Bool.eq_false_iff.mpr
      intro attends
      obtain ⟨consumer, -, listed⟩ := attends_iff.mp attends
      cases listed
    rcases stands.hearing_or_silent with ⟨messages, rfl, attends, queue⟩ | ⟨unheard, same, -⟩
    · have joined : fanout.Joined stream := attends_joined attends
      exact .released joined silent (queue.trans (List.append_nil _).symm)
    · rw [same]
      refine stands.spared ⟨rfl, silent.trans unheard.symm, fun attends => ?_, id⟩
      rw [unheard] at attends
      cases attends

private theorem Stands.cancel (stands : Stands stream fanout place) :
    Stands stream fanout.cancel (place.give (.error .cancelled)) := by
  have interrupted := stands.interrupt .cancelled
  generalize place.give (.error .cancelled) = after at interrupted ⊢
  cases interrupted with
  | absent gone => exact .absent gone
  | fresh present => exact .fresh present
  | hearing attends queue => exact .hearing attends queue
  | released joined silent queue => exact .released joined silent queue

private theorem Sound.publish (sound : fanout.Sound) {item : Item} (publishes : Publishes fanout item after) : after.Sound := by
  cases publishes with
  | idle => exact sound
  | delivers message => exact sound.deliver _
  | interrupts interruption => exact sound.interrupt interruption

private theorem Sound.finish (sound : fanout.Sound) (finishes : Finishes fanout after) : after.Sound := by
  cases finishes with
  | idle => exact sound
  | releases => exact ⟨sound.numbered, sound.apart, fun left => absurd rfl left⟩

theorem Sound.act (sound : fanout.Sound) (event : Event) : (fanout.act event).Sound := by
  cases event with
  | openStream => exact openStream_sound sound
  | poll stream => exact poll_sound sound stream
  | drop stream => exact drop_sound sound stream
  | publish item => exact sound.publish (act_publish fanout item)
  | finish => exact sound.finish (act_finish fanout)
  | late generation found => rwa [act_late]
  | cancel => exact ⟨(sound.interrupt .cancelled).numbered, (sound.interrupt .cancelled).apart, fun left => absurd rfl left⟩

def outline (fanout : Fanout) : Nat × Bool := (fanout.streams.length, fanout.cancelled)

theorem outline_setStream (fanout : Fanout) (stream : Nat) (attachment : Option Attachment) :
    (fanout.setStream stream attachment).outline = fanout.outline := by
  rw [outline, outline, setStream, List.length_set]

theorem outline_detach (fanout : Fanout) (consumer : Nat) : (fanout.detach consumer).outline = fanout.outline := by
  obtain ⟨consumers, pump, detached, -⟩ := detach_eq fanout consumer
  rw [detached]
  rfl

theorem outline_poll (fanout : Fanout) (stream : Nat) : (fanout.poll stream).2.outline = fanout.outline := by
  unfold poll
  split
  · rfl
  · rfl
  · split
    · exact outline_setStream ..
    · obtain ⟨generation, pump, attached, -⟩ := attach_eq fanout stream
      rw [attached]
      exact outline_setStream ..
  · split
    · rfl
    · rw [outline_detach, outline_setStream]
  · exact outline_setStream ..
  · rw [outline_detach, outline_setStream]

theorem outline_drop (fanout : Fanout) (stream : Nat) : (fanout.drop stream).outline = fanout.outline := by
  unfold drop
  split
  · rw [outline_detach, outline_setStream]
  · exact outline_setStream ..

theorem outline_deliver (fanout : Fanout) (item : Item) : (fanout.deliver item).outline = fanout.outline := by
  rw [outline, outline, deliver, List.length_map]

theorem Publishes.outline {item : Item} (publishes : Publishes fanout item after) : after.outline = fanout.outline := by
  cases publishes with
  | idle => rfl
  | delivers message => exact outline_deliver ..
  | interrupts interruption => exact outline_deliver fanout (.error interruption)

theorem Finishes.outline (finishes : Finishes fanout after) : after.outline = fanout.outline := by
  cases finishes <;> rfl

/-- What a stream can notice of a fan-out is what its outlook has. -/
structure Shows (stream : Nat) (fanout : Fanout) (outlook : Outlook) : Prop where
  sound : fanout.Sound
  outline : fanout.outline = (outlook.opened, outlook.cancelled)
  stands : Stands stream fanout outlook.place

theorem Shows.start (stream : Nat) : Shows stream {} {} :=
  ⟨⟨nofun, nofun, fun left => absurd rfl left⟩, rfl, .absent rfl⟩

variable {outlook : Outlook}

theorem Shows.opened (shows : Shows stream fanout outlook) : fanout.streams.length = outlook.opened :=
  congrArg Prod.fst shows.outline

theorem Shows.cancelled (shows : Shows stream fanout outlook) : fanout.cancelled = outlook.cancelled :=
  congrArg Prod.snd shows.outline

theorem Shows.poll (shows : Shows stream fanout outlook) :
    (fanout.poll stream).1 = (outlook.place.poll outlook.cancelled).1 ∧
      Stands stream (fanout.poll stream).2 (outlook.place.poll outlook.cancelled).2 :=
  shows.cancelled ▸ shows.stands.poll

private theorem Shows.outline_act (shows : Shows stream fanout outlook) (event : Event) :
    (fanout.act event).outline = ((outlook.act stream event).opened, (outlook.act stream event).cancelled) := by
  cases event with
  | openStream => simp [act, Outlook.act, openStream, Fanout.outline, shows.opened, shows.cancelled]
  | poll other =>
    rw [act, outline_poll, shows.outline, Outlook.act]
    split <;> rfl
  | drop other =>
    rw [act, outline_drop, shows.outline, Outlook.act]
    split <;> rfl
  | publish item => exact (act_publish fanout item).outline.trans shows.outline
  | finish => exact (act_finish fanout).outline.trans shows.outline
  | late generation found => rw [act_late, shows.outline, Outlook.act]
  | cancel => exact congrArg (fun outline => (outline.1, true)) ((outline_deliver ..).trans shows.outline)

private theorem Shows.stands_act (shows : Shows stream fanout outlook) (event : Event) :
    Stands stream (fanout.act event) (outlook.act stream event).place := by
  cases event with
  | openStream =>
    rw [act, Outlook.act, ← shows.opened]
    dsimp only
    split
    next own => exact .fresh (own ▸ stream?_openStream_self fanout)
    next other => exact shows.stands.spared (openStream_spares (Ne.symm other))
  | poll other =>
    rw [act, Outlook.act]
    split
    next own => exact own ▸ shows.poll.2
    next foreign => exact shows.stands.spared (poll_spares shows.sound (Ne.symm foreign))
  | drop other =>
    rw [act, Outlook.act]
    split
    next own => exact .absent (own ▸ drop_leaves fanout other)
    next foreign => exact shows.stands.spared (drop_spares shows.sound (Ne.symm foreign))
  | publish item => exact shows.stands.publish shows.sound (act_publish fanout item)
  | finish => exact shows.stands.finish shows.sound (act_finish fanout)
  | late generation found => exact (act_late fanout generation found).symm ▸ shows.stands
  | cancel => exact shows.stands.cancel

/-- Step by step, the fan-out shows the stream what its outlook comes to. -/
theorem Shows.act (shows : Shows stream fanout outlook) (event : Event) :
    Shows stream (fanout.act event) (outlook.act stream event) :=
  ⟨shows.sound.act event, shows.outline_act event, shows.stands_act event⟩

theorem Shows.acts (shows : Shows stream fanout outlook) (events : List Event) :
    Shows stream (fanout.acts events) (outlook.acts stream events) := by
  induction events generalizing fanout outlook with
  | nil => exact shows
  | cons event later ih => exact ih (shows.act event)

theorem Shows.answers (shows : Shows stream fanout outlook) (events : List Event) :
    answers stream fanout events = outlook.answers stream events := by
  induction events generalizing fanout outlook with
  | nil => rfl
  | cons event later ih => rw [Fanout.answers, Outlook.answers, Outlook.answer, ih (shows.act event), shows.poll.1]

end

end Fanout

end Subscriber
