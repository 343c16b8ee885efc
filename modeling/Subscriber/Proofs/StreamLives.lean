import Subscriber.Proofs.Outlook

/-! The life of one stream among others. From its first poll on it yields what its registration publishes, up to the
event that ends the registration, and then why that is, if there is a reason; behind that there is only the end. -/

namespace Subscriber

def Poll.closes : Poll Item → Bool
  | .ready (.ok _) | .pending => false
  | .ready (.error _) | .ended => true

namespace Fanout

namespace Event

def gives : Event → List Item
  | .publish item => [item]
  | .cancel => [.error .cancelled]
  | _ => []

/-- Whether the registration at work is over with this event, whoever listens. -/
def ends : Event → Bool
  | .publish (.error _) | .finish | .cancel => true
  | _ => false

end Event

/-- All that is given until a registration is over. -/
def due : List Event → List Item
  | [] => []
  | event :: later => event.gives ++ if event.ends then [] else due later

namespace Place

def hears : Place → Bool
  | .hearing _ => true
  | _ => false

/-- The stream has been polled and not been dropped. -/
inductive Entered : Place → Prop where
  | hearing (messages : List Message) : Entered (.hearing messages)
  | released (messages : List Message) (last : Option Interruption) : Entered (.released messages last)

variable {place : Place}

private theorem Entered.poll (entered : place.Entered) (cancelled : Bool) : (place.poll cancelled).2.Entered := by
  cases entered with
  | hearing messages => cases messages <;> exact .hearing _
  | released messages last => cases messages <;> cases last <;> exact .released _ _

private theorem Entered.hears_poll (entered : place.Entered) (cancelled : Bool) : (place.poll cancelled).2.hears = place.hears := by
  cases entered with
  | hearing messages => cases messages <;> rfl
  | released messages last => cases messages <;> cases last <;> rfl

private theorem Entered.items_poll (entered : place.Entered) (cancelled : Bool) :
    (place.poll cancelled).1.items ++ (place.poll cancelled).2.items = place.items := by
  cases entered with
  | hearing messages => cases messages <;> rfl
  | released messages last => cases messages <;> cases last <;> rfl

theorem Entered.answer_poll (entered : place.Entered) (cancelled : Bool) : (place.poll cancelled).1 =
    match place.items with
    | item :: _ => .ready item
    | [] => if place.hears then .pending else .ended := by
  cases entered with
  | hearing messages => cases messages <;> rfl
  | released messages last => cases messages <;> cases last <;> rfl

private theorem Entered.closed (entered : place.Entered) {cancelled : Bool} (closes : (place.poll cancelled).1.closes) :
    (place.poll cancelled).2.items = [] ∧ (place.poll cancelled).2.hears = false := by
  cases entered with
  | hearing messages => cases messages <;> cases closes
  | released messages last =>
    cases messages with
    | nil => cases last <;> exact ⟨rfl, rfl⟩
    | cons => cases closes

private theorem Entered.give (entered : place.Entered) (item : Item) : (place.give item).Entered := by
  cases entered with
  | hearing messages =>
    cases item with
    | ok message => exact .hearing _
    | error interruption => exact .released _ _
  | released messages last => cases item <;> exact .released _ _

private theorem Entered.items_give (entered : place.Entered) (item : Item) :
    (place.give item).items = place.items ++ if place.hears then [item] else [] := by
  cases entered with
  | hearing messages =>
    cases item with
    | ok message => exact List.map_append
    | error interruption => rfl
  | released messages last => cases item <;> exact (List.append_nil _).symm

private theorem Entered.hears_give (entered : place.Entered) (item : Item) :
    (place.give item).hears = (place.hears && !(Event.publish item).ends) := by
  cases entered with
  | hearing messages => cases item <;> rfl
  | released messages last => cases item <;> rfl

private theorem Entered.finish (entered : place.Entered) :
    place.finish.Entered ∧ place.finish.items = place.items ∧ place.finish.hears = false := by
  cases entered with
  | hearing messages => exact ⟨.released _ _, List.append_nil _, rfl⟩
  | released messages last => exact ⟨.released _ _, rfl, rfl⟩

end Place

namespace Outlook

/-- The stream has entered and can not be mistaken for a new one. -/
structure Entered (stream : Nat) (outlook : Outlook) : Prop where
  inside : stream < outlook.opened
  place : outlook.place.Entered

/-- What one event does to a stream that has entered. -/
structure Moves (stream : Nat) (event : Event) (before : Outlook) : Prop where
  entered : (before.act stream event).Entered stream
  items : (before.answer stream event).flatMap Poll.items ++ (before.act stream event).place.items =
    before.place.items ++ if before.place.hears then event.gives else []
  hears : (before.act stream event).place.hears = (before.place.hears && !event.ends)

variable {stream : Nat} {outlook : Outlook}

private theorem Moves.aside {event : Event} (entered : outlook.Entered stream)
    (inside : stream < (outlook.act stream event).opened) (unasked : outlook.answer stream event = [])
    (same : (outlook.act stream event).place = outlook.place) (gives : event.gives = []) (goes : event.ends = false) :
    outlook.Moves stream event := by
  refine ⟨⟨inside, same ▸ entered.place⟩, ?_, ?_⟩
  · simp [unasked, same, gives]
  · simp [same, goes]

theorem Entered.moves (entered : outlook.Entered stream) {event : Event} (kept : event ≠ .drop stream) :
    outlook.Moves stream event := by
  have ⟨inside, place⟩ := entered
  cases event with
  | openStream => exact .aside entered (Nat.lt_succ_of_lt inside) rfl (if_neg (Nat.ne_of_gt inside)) rfl rfl
  | poll other =>
    by_cases own : other = stream
    · subst own
      have asked : outlook.answer other (.poll other) = [(outlook.place.poll outlook.cancelled).1] := by
        simp [answer, Event.polls]
      have moved : outlook.act other (.poll other) = { outlook with place := (outlook.place.poll outlook.cancelled).2 } :=
        if_pos rfl
      refine ⟨moved ▸ ⟨inside, place.poll _⟩, ?_, ?_⟩
      · simp [asked, moved, place.items_poll, Event.gives]
      · simp [moved, place.hears_poll, Event.ends]
    · have still : outlook.act stream (.poll other) = outlook := if_neg own
      exact .aside entered (by rwa [still]) (by simp [answer, Event.polls, own]) (by rw [still]) rfl rfl
  | drop other =>
    have still : outlook.act stream (.drop other) = outlook := if_neg fun own => kept (congrArg Event.drop own)
    exact .aside entered (by rwa [still]) rfl (by rw [still]) rfl rfl
  | publish item => exact ⟨⟨inside, place.give item⟩, place.items_give item, place.hears_give item⟩
  | finish =>
    obtain ⟨after, items, hears⟩ := place.finish
    exact ⟨⟨inside, after⟩, items.trans (by simp [Event.gives]), hears.trans (by simp [Event.ends])⟩
  | late generation found => exact .aside entered inside rfl rfl rfl rfl
  | cancel => exact ⟨⟨inside, place.give _⟩, place.items_give _, place.hears_give _⟩

/-- What has been yielded and what waits is what was there and what has been given since. -/
theorem Entered.run (entered : outlook.Entered stream) {events : List Event} (kept : .drop stream ∉ events) :
    (outlook.acts stream events).Entered stream ∧
      (outlook.answers stream events).flatMap Poll.items ++ (outlook.acts stream events).place.items =
        outlook.place.items ++ (if outlook.place.hears then due events else []) ∧
      (outlook.acts stream events).place.hears = (outlook.place.hears && !events.any Event.ends) := by
  induction events generalizing outlook with
  | nil => exact ⟨entered, by simp [answers, acts, due], by simp [acts]⟩
  | cons event later ih =>
    have moves : outlook.Moves stream event := entered.moves fun same => kept (same ▸ List.mem_cons_self)
    obtain ⟨after, items, hears⟩ := ih moves.entered fun member => kept (List.mem_cons_of_mem _ member)
    rw [acts_cons, answers_cons]
    refine ⟨after, ?_, ?_⟩
    · rw [List.flatMap_append, List.append_assoc, items, ← List.append_assoc, moves.items, moves.hears, due]
      cases outlook.place.hears <;> cases event.ends <;> simp
    · rw [hears, moves.hears, List.any_cons, Bool.not_or, Bool.and_assoc]

theorem answer_mem {event : Event} {answer : Poll Item} (member : answer ∈ outlook.answer stream event) :
    event = .poll stream ∧ answer = (outlook.place.poll outlook.cancelled).1 := by
  cases event with
  | poll other =>
    by_cases own : other = stream
    · exact ⟨congrArg Event.poll own, by simpa [Outlook.answer, Event.polls, own] using member⟩
    · simp [Outlook.answer, Event.polls, own] at member
  | _ => cases member

theorem Entered.ended (entered : outlook.Entered stream) {events : List Event} (kept : .drop stream ∉ events)
    (empty : outlook.place.items = []) (deaf : outlook.place.hears = false) :
    ∀ answer ∈ outlook.answers stream events, answer = .ended := by
  induction events generalizing outlook with
  | nil => exact fun _ => nofun
  | cons event later ih =>
    intro answer member
    rcases List.mem_append.mp member with now | after
    · rw [(answer_mem now).2, entered.place.answer_poll, empty, deaf]
      rfl
    · have moves : outlook.Moves stream event := entered.moves fun same => kept (same ▸ List.mem_cons_self)
      have items := moves.items
      rw [empty, deaf] at items
      refine ih moves.entered (fun member => kept (List.mem_cons_of_mem _ member)) ?_ ?_ answer after
      · exact (List.append_eq_nil_iff.mp items).2
      · rw [moves.hears, deaf, Bool.false_and]

private theorem Entered.closes (entered : outlook.Entered stream) {events : List Event} (kept : .drop stream ∉ events) :
    (outlook.answers stream events).Pairwise fun answer later => answer.closes → later = .ended := by
  induction events generalizing outlook with
  | nil => exact .nil
  | cons event later ih =>
    have moves : outlook.Moves stream event := entered.moves fun same => kept (same ▸ List.mem_cons_self)
    have spared : .drop stream ∉ later := fun member => kept (List.mem_cons_of_mem _ member)
    refine List.pairwise_append.mpr ⟨?_, ih moves.entered spared, fun answer now other after closes => ?_⟩
    · rw [answer]
      split
      · exact List.pairwise_singleton _ _
      · exact .nil
    · obtain ⟨rfl, rfl⟩ := answer_mem now
      obtain ⟨empty, deaf⟩ := entered.place.closed closes
      refine moves.entered.ended spared ?_ ?_ other after
      · rw [act, if_pos rfl]
        exact empty
      · rw [act, if_pos rfl]
        exact deaf

end Outlook

/-- The registration at work afterwards is the one before, or a later one. -/
structure Succeeds (before after : Fanout) : Prop where
  generation : before.generation ≤ after.generation
  pump : ∀ registration, after.pump = some registration →
    before.pump = some registration ∨ before.generation < registration ∧ registration ≤ after.generation

theorem Succeeds.refl (fanout : Fanout) : Succeeds fanout fanout := ⟨Nat.le_refl _, fun _ => Or.inl⟩

theorem Succeeds.trans {a b c : Fanout} (first : Succeeds a b) (second : Succeeds b c) : Succeeds a c := by
  refine ⟨Nat.le_trans first.generation second.generation, fun registration running => ?_⟩
  have older := first.generation
  have newer := second.generation
  rcases second.pump registration running with same | ⟨later, known⟩
  · rcases first.pump registration same with same | ⟨later, known⟩
    · exact .inl same
    · exact .inr ⟨later, by omega⟩
  · exact .inr ⟨by omega, known⟩

theorem setStream_succeeds (fanout : Fanout) (stream : Nat) (attachment : Option Attachment) :
    Succeeds fanout (fanout.setStream stream attachment) := ⟨Nat.le_refl _, fun _ => Or.inl⟩

private theorem attach_succeeds (fanout : Fanout) (stream : Nat) : Succeeds fanout (fanout.attach stream) := by
  unfold attach
  cases running : fanout.pump with
  | some registration => exact ⟨Nat.le_refl _, fun _ same => .inl (running.trans same)⟩
  | none =>
    refine ⟨Nat.le_succ _, fun registration same => ?_⟩
    cases same
    exact .inr ⟨Nat.lt_succ_self _, Nat.le_refl _⟩

theorem detach_succeeds (fanout : Fanout) (consumer : Nat) : Succeeds fanout (fanout.detach consumer) := by
  unfold detach
  split
  · refine ⟨Nat.le_refl _, fun registration running => .inl ?_⟩
    dsimp only at running
    split at running
    · cases running
    · exact running
  · exact .refl fanout

private theorem poll_succeeds (fanout : Fanout) (stream : Nat) : Succeeds fanout (fanout.poll stream).2 := by
  have changed := setStream_succeeds fanout stream
  unfold poll
  split
  · exact .refl fanout
  · exact .refl fanout
  · split
    · exact changed _
    · exact attach_succeeds fanout stream
  · split
    · exact .refl fanout
    · exact (changed _).trans (detach_succeeds _ _)
  · exact changed _
  · exact (changed _).trans (detach_succeeds _ _)

private theorem drop_succeeds (fanout : Fanout) (stream : Nat) : Succeeds fanout (fanout.drop stream) := by
  have changed := setStream_succeeds fanout stream none
  unfold drop
  split
  · exact changed.trans (detach_succeeds _ _)
  · exact changed

private theorem act_ends {event : Event} (ends : event.ends) (fanout : Fanout) : (fanout.act event).pump = none := by
  cases event with
  | publish item =>
    have publishes := act_publish fanout item
    generalize fanout.act (.publish item) = after at publishes ⊢
    cases publishes with
    | idle stopped => exact stopped
    | delivers message => cases ends
    | interrupts interruption => rfl
  | finish =>
    have finishes := act_finish fanout
    generalize fanout.act .finish = after at finishes ⊢
    cases finishes with
    | idle stopped => exact stopped
    | releases => rfl
  | cancel => rfl
  | _ => cases ends

private theorem Publishes.succeeds {fanout after : Fanout} {item : Item} (publishes : Publishes fanout item after) :
    Succeeds fanout after := by
  cases publishes with
  | idle => exact .refl fanout
  | delivers message => exact ⟨Nat.le_refl _, fun _ => Or.inl⟩
  | interrupts interruption => exact ⟨Nat.le_refl _, nofun⟩

private theorem Finishes.succeeds {fanout after : Fanout} (finishes : Finishes fanout after) : Succeeds fanout after := by
  cases finishes with
  | idle => exact .refl fanout
  | releases => exact ⟨Nat.le_refl _, nofun⟩

theorem act_succeeds (fanout : Fanout) (event : Event) : Succeeds fanout (fanout.act event) := by
  cases event with
  | openStream => exact ⟨Nat.le_refl _, fun _ => Or.inl⟩
  | poll stream => exact poll_succeeds fanout stream
  | drop stream => exact drop_succeeds fanout stream
  | publish item => exact (act_publish fanout item).succeeds
  | finish => exact (act_finish fanout).succeeds
  | late registration found => exact (act_late fanout registration found).symm ▸ .refl fanout
  | cancel => exact ⟨Nat.le_refl _, nofun⟩

theorem acts_succeeds (events : List Event) (fanout : Fanout) : Succeeds fanout (fanout.acts events) := by
  induction events generalizing fanout with
  | nil => exact .refl fanout
  | cons event later ih => exact (act_succeeds fanout event).trans (ih _)

section
variable {stream : Nat} {fanout : Fanout} {outlook : Outlook}

theorem Stands.attends {place : Place} (stands : Stands stream fanout place) (hears : place.hears) :
    fanout.attends stream = true := by
  cases stands with
  | hearing attends queue => exact attends
  | _ => cases hears

private theorem Shows.pump_act (shows : Shows stream fanout outlook) (hears : outlook.place.hears) {event : Event}
    (kept : event ≠ .drop stream) (goes : event.ends = false) : (fanout.act event).pump = fanout.pump := by
  have attends := shows.stands.attends hears
  cases event with
  | openStream => rfl
  | poll other =>
    by_cases own : other = stream
    · subst own
      exact (poll_draws (attends_joined attends) shows.stands.orderly).pump attends
    · exact (poll_spares shows.sound (Ne.symm own)).pump attends
  | drop other => exact (drop_spares shows.sound fun own => kept (congrArg Event.drop own.symm)).pump attends
  | publish item =>
    have publishes := act_publish fanout item
    generalize fanout.act (.publish item) = after at publishes ⊢
    cases publishes with
    | idle => rfl
    | delivers message => rfl
    | interrupts interruption => cases goes
  | late registration found => rw [act_late]
  | finish | cancel => cases goes

/-- The registration that a stream hears is at work until an event ends it, and never again. -/
theorem Shows.registration (shows : Shows stream fanout outlook) (entered : outlook.Entered stream)
    (hears : outlook.place.hears) {registration : Nat} (running : fanout.pump = some registration)
    (known : registration ≤ fanout.generation) {events : List Event} (kept : .drop stream ∉ events) :
    (fanout.acts events).pump = some registration ↔ events.any Event.ends = false := by
  induction events generalizing fanout outlook with
  | nil => exact ⟨fun _ => rfl, fun _ => running⟩
  | cons event later ih =>
    have spared : event ≠ .drop stream := fun same => kept (same ▸ List.mem_cons_self)
    have moves := entered.moves spared
    have older := (act_succeeds fanout event).generation
    cases ends : event.ends with
    | true =>
      refine ⟨fun again => ?_, fun goes => ?_⟩
      · have stopped := act_ends ends fanout
        rcases (acts_succeeds later (fanout.act event)).pump registration again with same | ⟨newer, -⟩
        · cases stopped.symm.trans same
        · omega
      · rw [List.any_cons, ends] at goes
        cases goes
    | false =>
      rw [List.any_cons, ends, Bool.false_or]
      refine ih (shows.act event) moves.entered ?_ ?_ ?_ fun member => kept (List.mem_cons_of_mem _ member)
      · rw [moves.hears, hears, ends]
        rfl
      · exact (shows.pump_act hears spared ends).trans running
      · omega

private theorem Stands.fresh_eq {place : Place} (stands : Stands stream fanout place)
    (present : fanout.stream? stream = some .detached) : place = .fresh := by
  cases stands with
  | absent gone => cases gone.symm.trans present
  | fresh => rfl
  | hearing attends queue => exact absurd present (attends_joined attends).attached
  | released joined silent queue => exact absurd present joined.attached

/-- With its first poll a stream enters: it hears from then on, unless it comes too late. -/
theorem Shows.enters (shows : Shows stream fanout outlook) (fresh : fanout.stream? stream = some .detached) :
    outlook.answer stream (.poll stream) = (if fanout.cancelled then [.ready (.error .cancelled)] else [.pending]) ∧
      (outlook.act stream (.poll stream)).Entered stream ∧
      (outlook.act stream (.poll stream)).place = if fanout.cancelled then .released [] none else .hearing [] := by
  have place := shows.stands.fresh_eq fresh
  have inside := shows.stands.inside (place ▸ nofun)
  rw [shows.opened] at inside
  have moved : outlook.act stream (.poll stream) = { outlook with place := (Place.fresh.poll fanout.cancelled).2 } := by
    rw [Outlook.act, if_pos rfl, place, shows.cancelled]
  have answered : outlook.answer stream (.poll stream) = [(Place.fresh.poll fanout.cancelled).1] := by
    simp [Outlook.answer, Event.polls, place, shows.cancelled]
  rw [moved, answered]
  cases fanout.cancelled with
  | true => exact ⟨rfl, ⟨inside, .released [] none⟩, rfl⟩
  | false => exact ⟨rfl, ⟨inside, .hearing []⟩, rfl⟩

/-- How it stands with a stream after its first poll and what happens next: whether no more items can come, what it has
yielded, and what the next poll would come to. -/
theorem Shows.yields (shows : Shows stream fanout outlook) (fresh : fanout.stream? stream = some .detached)
    {events : List Event} (kept : .drop stream ∉ events) :
    ∃ waiting, (Fanout.answers stream fanout (.poll stream :: events)).flatMap Poll.items ++ waiting =
        (if fanout.cancelled then [.error .cancelled] else due events) ∧
      ((fanout.acts (.poll stream :: events)).poll stream).1 =
        match waiting with
        | item :: _ => .ready item
        | [] => if fanout.cancelled || events.any Event.ends then .ended else .pending := by
  obtain ⟨first, entered, place⟩ := shows.enters fresh
  obtain ⟨stays, items, hears⟩ := entered.run kept
  have next := (shows.acts (.poll stream :: events)).poll.1
  rw [Outlook.acts_cons] at next
  rw [place] at items hears
  refine ⟨((outlook.act stream (.poll stream)).acts stream events).place.items, ?_, ?_⟩
  · rw [shows.answers, Outlook.answers_cons, List.flatMap_append, List.append_assoc, items, first]
    cases fanout.cancelled <;> rfl
  · rw [next, stays.place.answer_poll, hears]
    cases fanout.cancelled <;> cases events.any Event.ends <;> rfl

private theorem Shows.closes (shows : Shows stream fanout outlook) (fresh : fanout.stream? stream = some .detached)
    {events : List Event} (kept : .drop stream ∉ events) :
    (Fanout.answers stream fanout (.poll stream :: events)).Pairwise fun answer later => answer.closes → later = .ended := by
  obtain ⟨first, entered, place⟩ := shows.enters fresh
  rw [shows.answers, Outlook.answers, first]
  cases quit : fanout.cancelled with
  | true =>
    rw [quit] at place
    refine List.pairwise_cons.mpr ⟨fun other later _ => ?_, entered.closes kept⟩
    exact entered.ended kept (place ▸ rfl) (place ▸ rfl) other later
  | false => exact List.pairwise_cons.mpr ⟨fun other later closes => absurd closes Bool.false_ne_true, entered.closes kept⟩

private theorem Shows.registered (shows : Shows stream fanout outlook) (fresh : fanout.stream? stream = some .detached)
    (going : fanout.cancelled = false) (counted : Succeeds {} fanout) {events : List Event} (kept : .drop stream ∉ events) :
    ∃ registration, ∀ early late, events = early ++ late →
      ((fanout.acts (.poll stream :: early)).pump = some registration ↔ early.any Event.ends = false) := by
  obtain ⟨-, entered, place⟩ := shows.enters fresh
  rw [going] at place
  have hears : (outlook.act stream (.poll stream)).place.hears := place ▸ rfl
  have shown := shows.act (.poll stream)
  obtain ⟨registration, running⟩ := shown.sound.pump (shown.stands.attends hears)
  refine ⟨registration, fun early late parts => ?_⟩
  rcases (counted.trans (act_succeeds fanout (.poll stream))).pump registration running with none | ⟨-, known⟩
  · cases none
  · exact shown.registration entered hears running known fun member => kept (parts ▸ List.mem_append_left late member)

end

/-- A stream yields, in order and each once, the items that are published from its first poll on, up to and with the
first error, the end of the upstream or the cancellation of the fan-out, with which it yields one `cancelled`; until
then they are those of one registration, which never comes back. Behind an error or the end there is only the end, and
nothing of this depends on the polls and drops of other streams. -/
theorem streams_yield_their_registration (before after : List Event) (stream : Nat)
    (fresh : (acts {} before).stream? stream = some .detached) (kept : .drop stream ∉ after) :
    let fanout := acts {} before
    let joined := fanout.act (.poll stream)
    let yielded := (answers stream fanout (.poll stream :: after)).flatMap Poll.items
    let released := fanout.cancelled || after.any Event.ends
    (∃ waiting, yielded ++ waiting = (if fanout.cancelled then [.error .cancelled] else due after) ∧
      ((joined.acts after).poll stream).1 =
        match waiting with
        | item :: _ => .ready item
        | [] => if released then .ended else .pending) ∧
    (fanout.cancelled = false → ∃ registration, ∀ early late, after = early ++ late →
      ((joined.acts early).pump = some registration ↔ early.any Event.ends = false)) ∧
    ((answers stream fanout (.poll stream :: after)).Pairwise fun answer later => answer.closes → later = .ended) ∧
    ∀ events, events.filter (·.concerns stream) = (before ++ .poll stream :: after).filter (·.concerns stream) →
      answers stream {} events = answers stream {} (before ++ .poll stream :: after) := by
  intro fanout joined yielded released
  have shows : Shows stream fanout (Outlook.acts stream {} before) := (Shows.start stream).acts before
  have counted : Succeeds {} fanout := acts_succeeds before {}
  refine ⟨shows.yields fresh kept, fun going => shows.registered fresh going counted kept, shows.closes fresh kept,
    fun events same => ?_⟩
  rw [(Shows.start stream).answers, (Shows.start stream).answers, ← Outlook.answers_concerning, same,
      Outlook.answers_concerning]

/-- Stream 0 enters after the first message of the second registration and yields the second one and the error, while
stream 1 leaves and the first registration, which ended with stream 2, comes late; the message of the third, which
stream 3 begins, is not for it. It yields the same alone. -/
theorem streams_yield_their_registration_failing :
    let first : Message := .channel [99] [49]
    let second : Message := .pattern [42] [99] [50]
    let broken : Interruption := .upstream .connectionClosed
    let streams : List Event := List.replicate 4 .openStream
    let before := streams ++ [.poll 2, .drop 2, .poll 1, .publish (.ok first)]
    let after :=
      [.publish (.ok second), .drop 1, .poll 0, .late 1 (some (.ok first)), .publish (.error broken), .poll 3,
        .publish (.ok first), .poll 0, .poll 3, .poll 0]
    let alone := streams ++ [.publish (.ok first), .poll 0, .publish (.ok second), .poll 0, .publish (.error broken),
      .publish (.ok first), .poll 0, .poll 0]
    (acts {} before).stream? 0 = some .detached ∧ .drop 0 ∉ after ∧ due after = [.ok second, .error broken] ∧
      (∃ waiting, (answers 0 (acts {} before) (.poll 0 :: after)).flatMap Poll.items ++ waiting =
        [.ok second, .error broken]) ∧
      answers 0 {} alone = answers 0 {} (before ++ .poll 0 :: after) := by
  intro first second broken streams before after alone
  have fresh : (acts {} before).stream? 0 = some .detached := rfl
  have kept : .drop 0 ∉ after := by simp [after]
  obtain ⟨⟨waiting, yields, -⟩, -, -, same⟩ := streams_yield_their_registration before after 0 fresh kept
  exact ⟨fresh, kept, rfl, ⟨waiting, yields⟩, same alone rfl⟩

end Fanout

end Subscriber
