import Subscriber.Proofs.Closing

/-! Streams of a session that is over. What waited for a stream is still there for it, with the reason behind it, and a
stream that comes too late sees the reason alone; then they end. -/

namespace Subscriber

namespace Fanout

/-- What the first polls of a stream come to if so much waits for it and nothing more is given to it. -/
def yields : List Item → Nat → List (Poll Item)
  | _, 0 => []
  | [], polls + 1 => .ended :: yields [] polls
  | item :: items, polls + 1 => .ready item :: yields items polls

theorem yields_succ (items : List Item) (polls : Nat) :
    yields items (polls + 1) = yields items 1 ++ yields (items.drop 1) polls := by
  cases items <;> rfl

private theorem yields_add (items : List Item) (first second : Nat) :
    yields items (first + second) = yields items first ++ yields (items.drop first) second := by
  induction first generalizing items with
  | zero => rw [Nat.zero_add, yields, List.drop_zero, List.nil_append]
  | succ first ih =>
    rw [Nat.add_right_comm, yields_succ, ih, yields_succ items first, List.append_assoc, List.drop_drop, Nat.add_comm 1]

theorem Place.poll_stays (cancelled : Bool) {place : Place} (there : place ≠ .absent) : (place.poll cancelled).2 ≠ .absent := by
  cases place with
  | absent => exact absurd rfl there
  | fresh =>
    unfold Place.poll
    cases cancelled <;> (intro same; cases same)
  | hearing messages => cases messages <;> (intro same; cases same)
  | released messages last => cases messages <;> cases last <;> (intro same; cases same)

namespace Outlook

/-- What is left to a stream of a fan-out that has been cancelled; to one that has not been opened, too. -/
def Leaves (stream : Nat) (outlook : Outlook) (items : List Item) : Prop :=
  outlook.cancelled = true ∧
    match outlook.place with
    | .absent => outlook.opened ≤ stream → items = [.error .cancelled]
    | .fresh => stream < outlook.opened ∧ items = [.error .cancelled]
    | .hearing _ => False
    | .released messages last => stream < outlook.opened ∧ items = (Place.released messages last).items

section
variable {stream : Nat} {outlook : Outlook} {items : List Item}

private theorem Leaves.same {after : Outlook} (leaves : outlook.Leaves stream items) (cancelled : after.cancelled = true)
    (opened : after.opened = outlook.opened) (place : after.place = outlook.place) : after.Leaves stream items := by
  obtain ⟨-, left⟩ := leaves
  unfold Leaves
  rw [opened, place]
  exact ⟨cancelled, left⟩

private theorem Leaves.act (leaves : outlook.Leaves stream items) {event : Event} (other : event ≠ .poll stream) :
    (outlook.act stream event).Leaves stream items := by
  obtain ⟨cancelled, left⟩ := leaves
  have silent : outlook.place.finish = outlook.place ∧ ∀ item, outlook.place.give item = outlook.place := by
    cases place : outlook.place with
    | hearing messages =>
      rw [place] at left
      exact left.elim
    | _ => exact ⟨rfl, fun item => by cases item <;> rfl⟩
  cases event with
  | openStream =>
    refine ⟨cancelled, ?_⟩
    cases place : outlook.place with
    | absent =>
      rw [place] at left
      by_cases own : outlook.opened = stream
      · simp only [Outlook.act, if_pos own]
        exact ⟨own ▸ Nat.lt_succ_self _, left (Nat.le_of_eq own)⟩
      · simp only [Outlook.act, if_neg own, place]
        exact fun later => left (Nat.le_of_succ_le later)
    | hearing messages =>
      rw [place] at left
      exact left.elim
    | fresh =>
      rw [place] at left
      simp only [Outlook.act, if_neg (Nat.ne_of_gt left.1), place]
      exact ⟨Nat.lt_succ_of_lt left.1, left.2⟩
    | released messages last =>
      rw [place] at left
      simp only [Outlook.act, if_neg (Nat.ne_of_gt left.1), place]
      exact ⟨Nat.lt_succ_of_lt left.1, left.2⟩
  | poll foreign =>
    have different : ¬ foreign = stream := fun same => other (same ▸ rfl)
    simp only [Outlook.act, if_neg different]
    exact ⟨cancelled, left⟩
  | drop foreign =>
    unfold Outlook.act
    dsimp only
    split
    · refine ⟨cancelled, fun unopened => ?_⟩
      -- A stream that is there has been opened.
      cases place : outlook.place with
      | absent =>
        rw [place] at left
        exact left unopened
      | hearing messages =>
        rw [place] at left
        exact left.elim
      | fresh =>
        rw [place] at left
        exact absurd left.1 (Nat.not_lt_of_le unopened)
      | released messages last =>
        rw [place] at left
        exact absurd left.1 (Nat.not_lt_of_le unopened)
    · exact ⟨cancelled, left⟩
  | publish item => exact Leaves.same ⟨cancelled, left⟩ cancelled rfl (silent.2 item)
  | finish => exact Leaves.same ⟨cancelled, left⟩ cancelled rfl silent.1
  | late generation found => exact ⟨cancelled, left⟩
  | cancel => exact Leaves.same ⟨cancelled, left⟩ rfl rfl (silent.2 _)

private theorem Leaves.poll (leaves : outlook.Leaves stream items) (there : outlook.place ≠ .absent) :
    [(outlook.place.poll outlook.cancelled).1] = yields items 1 ∧
      (outlook.act stream (.poll stream)).Leaves stream (items.drop 1) := by
  obtain ⟨cancelled, left⟩ := leaves
  have polled : outlook.act stream (.poll stream) =
      { outlook with place := (outlook.place.poll outlook.cancelled).2 } := if_pos rfl
  rw [polled, cancelled]
  unfold Leaves
  dsimp only
  cases place : outlook.place with
  | absent => exact absurd place there
  | hearing messages =>
    rw [place] at left
    exact left.elim
  | fresh =>
    rw [place] at left
    obtain ⟨opened, rfl⟩ := left
    exact ⟨rfl, rfl, opened, rfl⟩
  | released messages last =>
    rw [place] at left
    obtain ⟨opened, rfl⟩ := left
    cases messages with
    | cons message messages => exact ⟨rfl, rfl, opened, rfl⟩
    | nil => cases last <;> exact ⟨rfl, rfl, opened, rfl⟩

end

end Outlook

def Left (stream : Nat) (items : List Item) (fanout : Fanout) : Prop :=
  ∃ outlook, Shows stream fanout outlook ∧ outlook.Leaves stream items

def Present (stream : Nat) (fanout : Fanout) : Prop := ∃ outlook, Shows stream fanout outlook ∧ outlook.place ≠ .absent

section
variable {stream : Nat} {fanout : Fanout} {items : List Item}

theorem Left.act (left : Left stream items fanout) {event : Event} (other : event ≠ .poll stream) :
    Left stream items (fanout.act event) := by
  obtain ⟨outlook, shows, leaves⟩ := left
  exact ⟨_, shows.act event, leaves.act other⟩

theorem Stands.present {place : Place} (stands : Stands stream fanout place) :
    fanout.stream? stream ≠ none ↔ place ≠ .absent := by
  cases stands with
  | absent gone => exact ⟨fun present => absurd gone present, fun there => absurd rfl there⟩
  | fresh detached =>
    have there : fanout.stream? stream ≠ none := by
      rw [detached]
      exact Option.some_ne_none _
    exact ⟨fun _ same => (by cases same), fun _ => there⟩
  | hearing attends queue => exact ⟨fun _ same => (by cases same), fun _ => (attends_joined attends).present⟩
  | released joined silent queue => exact ⟨fun _ same => (by cases same), fun _ => joined.present⟩

theorem Present.iff (shown : ∃ outlook, Shows stream fanout outlook) : Present stream fanout ↔ fanout.stream? stream ≠ none := by
  constructor
  · rintro ⟨outlook, shows, there⟩
    exact shows.stands.present.mpr there
  · intro present
    obtain ⟨outlook, shows⟩ := shown
    exact ⟨outlook, shows, shows.stands.present.mp present⟩

private theorem Present.act (present : Present stream fanout) {event : Event} (kept : event ≠ .drop stream) :
    Present stream (fanout.act event) := by
  obtain ⟨outlook, shows, there⟩ := present
  refine ⟨_, shows.act event, ?_⟩
  have gives (item : Item) : outlook.place.give item ≠ .absent := by
    cases place : outlook.place with
    | absent => exact absurd place there
    | _ => cases item <;> (intro same; cases same)
  cases event with
  | openStream =>
    unfold Outlook.act
    dsimp only
    split
    · exact fun same => by cases same
    · exact there
  | poll other =>
    unfold Outlook.act
    dsimp only
    split
    · exact Place.poll_stays _ there
    · exact there
  | drop other =>
    have different : ¬ other = stream := fun same => kept (same ▸ rfl)
    simp only [Outlook.act, if_neg different]
    exact there
  | publish item => exact gives item
  | finish =>
    cases place : outlook.place with
    | absent => exact absurd place there
    | _ =>
      simp only [Outlook.act, place]
      exact fun same => by cases same
  | late generation found => exact there
  | cancel => exact gives _

end

end Fanout

namespace Session
open Fanout (Left Present yields yields_succ)

section
variable {stream : Nat} {items : List Item} {session : Session}

theorem left_poll (left : Left stream items session.fanout) (present : session.fanout.stream? stream ≠ none) :
    [(session.poll stream).1] = yields items 1 ∧ Left stream (items.drop 1) (session.poll stream).2.fanout ∧
      (session.poll stream).2.fanout.stream? stream ≠ none := by
  obtain ⟨outlook, shows, leaves⟩ := left
  have there := shows.stands.present.mp present
  obtain ⟨answer, less⟩ := leaves.poll there
  rw [(poll_eq session stream).1, (poll_eq session stream).2, shows.poll.1]
  exact ⟨answer, ⟨_, shows.act (.poll stream), less⟩, shows.poll.2.present.mpr (Fanout.Place.poll_stays _ there)⟩

private theorem left_drainOnto (earlier : List Item) (more : Nat) (left : Left stream items session.fanout)
    (present : session.fanout.stream? stream ≠ none) :
    ∃ drained : List Item, (session.drainOnto earlier more stream).1 = earlier.reverse ++ drained ∧
      drained.map .ready ++ [(session.drainOnto earlier more stream).2.1] = yields items (drained.length + 1) ∧
      Left stream (items.drop (drained.length + 1)) (session.drainOnto earlier more stream).2.2.fanout := by
  obtain ⟨answer, less, still⟩ := left_poll left present
  induction more generalizing earlier items session with
  | zero => exact ⟨[], (List.append_nil _).symm, answer, less⟩
  | succ more ih =>
    unfold drainOnto
    split
    next item after found =>
      rw [found] at answer less still
      obtain ⟨first, rest, going⟩ := left_poll less still
      obtain ⟨drained, taken, answers, later⟩ := ih (item :: earlier) less still first rest going
      refine ⟨item :: drained, ?_, ?_, ?_⟩
      · rw [taken, List.reverse_cons, List.append_assoc, List.singleton_append]
      · rw [List.map_cons, List.cons_append, answers, List.length_cons, yields_succ items, ← answer, List.singleton_append]
      · rw [List.drop_drop, Nat.add_comm 1] at later
        exact later
    next found =>
      rw [found] at answer less
      exact ⟨[], (List.append_nil _).symm, answer, less⟩

end

end Session

namespace Activity
open Fanout (Left Present yields)

def Reply.polls : Reply → List (Poll Item)
  | .item polled => [polled]
  | .items drained last => drained.map .ready ++ [last]
  | .nothing | .known _ | .stream _ | .noStream => []

section
variable {τ : Type} [Transport τ]

def moveAnswers (stream : Nat) (activity : Activity τ) : Move τ → List (Poll Item)
  | .step (.poll other) => if other = stream then (activity.begin (.poll other)).1.polls else []
  | .step (.drain other) => if other = stream then (activity.begin (.drain other)).1.polls else []
  | _ => []

def answers (stream : Nat) : Activity τ → List (Move τ) → List (Poll Item)
  | _, [] => []
  | activity, move :: later => activity.moveAnswers stream move ++ answers stream (activity.move move) later

section
variable {stream : Nat} {items : List Item} {a : Activity τ}

private theorem lasting_left (stream : Nat) (items : List Item) : Session.Stable fun session => Left stream items session.fanout :=
  Session.stable_acts fun _ event shared left => left.act fun same => by rw [same] at shared; exact shared

private theorem begin_poll_left (left : Left stream items a.session.fanout) :
    (a.begin (.poll stream)).1.polls = yields items (a.begin (.poll stream)).1.polls.length ∧
      Left stream (items.drop (a.begin (.poll stream)).1.polls.length) (a.begin (.poll stream)).2.session.fanout := by
  cases found : a.session.fanout.stream? stream with
  | none =>
    rw [begin_poll_none found]
    exact ⟨rfl, left⟩
  | some attachment =>
    have present : a.session.fanout.stream? stream ≠ none := by
      rw [found]
      exact Option.some_ne_none attachment
    obtain ⟨answer, less, -⟩ := Session.left_poll left present
    rw [begin_poll_some found, adjustPump_session]
    exact ⟨answer, less⟩

private theorem begin_drain_left (left : Left stream items a.session.fanout) :
    (a.begin (.drain stream)).1.polls = yields items (a.begin (.drain stream)).1.polls.length ∧
      Left stream (items.drop (a.begin (.drain stream)).1.polls.length) (a.begin (.drain stream)).2.session.fanout := by
  cases found : a.session.fanout.stream? stream with
  | none =>
    rw [begin_drain_none found]
    exact ⟨rfl, left⟩
  | some attachment =>
    have present : a.session.fanout.stream? stream ≠ none := by
      rw [found]
      exact Option.some_ne_none attachment
    obtain ⟨drained, taken, answer, less⟩ := Session.left_drainOnto [] (a.session.fanout.backlog stream) left present
    have all : (a.session.drain stream).1 = drained := taken
    rw [begin_drain_some found, adjustPump_session, Reply.polls, all, List.length_append, List.length_map]
    exact ⟨answer, less⟩

private theorem move_left (left : Left stream items a.session.fanout) (move : Move τ) :
    a.moveAnswers stream move = yields items (a.moveAnswers stream move).length ∧
      Left stream (items.drop (a.moveAnswers stream move).length) (a.move move).session.fanout := by
  cases move with
  | turn task => exact ⟨rfl, turn_stable (lasting_left stream items) a task left⟩
  | step step =>
    change _ ∧ Left stream _ (a.begin step).2.session.fanout
    cases step with
    | poll other =>
      by_cases own : other = stream
      · subst own
        simp only [moveAnswers, if_true]
        exact begin_poll_left left
      · have none : a.moveAnswers stream (.step (.poll other)) = [] := if_neg own
        rw [none]
        refine ⟨rfl, ?_⟩
        rcases begin_poll_session a other with same | polled
        · rw [same]
          exact left
        · rw [polled, (Session.poll_eq a.session other).2]
          exact left.act fun same => own (Fanout.Event.poll.inj same)
    | drain other =>
      by_cases own : other = stream
      · subst own
        simp only [moveAnswers, if_true]
        exact begin_drain_left left
      · have none : a.moveAnswers stream (.step (.drain other)) = [] := if_neg own
        rw [none]
        refine ⟨rfl, ?_⟩
        rcases begin_drain_session a other with same | drained
        · rw [same]
          exact left
        · rw [drained]
          have polled (fanout : Fanout) (kept : Left stream items fanout) : Left stream items (fanout.poll other).2 :=
            kept.act fun same => own (Fanout.Event.poll.inj same)
          exact Session.drainOnto_keeps polled [] _ a.session left
    | drop other =>
      refine ⟨rfl, ?_⟩
      have other : Fanout.Event.drop other ≠ .poll stream := fun same => by cases same
      rw [begin_drop_session, Session.fanout_drop]
      exact left.act other
    | _ => exact ⟨rfl, begin_stable (lasting_left stream items) a _ trivial left⟩

/-- However long it is polled, the stream yields what is left to it and then the end. -/
theorem answers_left (left : Left stream items a.session.fanout) (list : List (Move τ)) :
    answers stream a list = yields items (answers stream a list).length := by
  induction list generalizing a items with
  | nil => rfl
  | cons move list ih =>
    obtain ⟨first, less⟩ := move_left left move
    have later := ih less
    rw [answers, List.length_append, Fanout.yields_add, ← first, ← later]

private theorem move_present (present : Present stream a.session.fanout) {move : Move τ} (kept : move ≠ .step (.drop stream)) :
    Present stream (a.move move).session.fanout := by
  have stable : Session.Stable fun session => Present stream session.fanout :=
    Session.stable_acts fun _ event shared there => there.act fun same => by rw [same] at shared; exact shared
  have polled (fanout : Fanout) (other : Nat) (there : Present stream fanout) : Present stream (fanout.poll other).2 := by
    have harmless : Fanout.Event.poll other ≠ .drop stream := fun same => by cases same
    exact there.act harmless
  cases move with
  | turn task => exact turn_stable stable a task present
  | step step =>
    change Present stream (a.begin step).2.session.fanout
    cases step with
    | poll other =>
      rcases begin_poll_session a other with same | moved
      · rw [same]
        exact present
      · rw [moved, (Session.poll_eq a.session other).2]
        exact polled _ other present
    | drain other =>
      rcases begin_drain_session a other with same | moved
      · rw [same]
        exact present
      · rw [moved]
        exact Session.drainOnto_keeps (fun fanout => polled fanout other) [] _ a.session present
    | drop other =>
      have foreign : Fanout.Event.drop other ≠ .drop stream := fun same => kept (by rw [Fanout.Event.drop.inj same])
      rw [begin_drop_session, Session.fanout_drop]
      exact present.act foreign
    | _ => exact begin_stable stable a _ trivial present

theorem moves_present (present : Present stream a.session.fanout) (list : List (Move τ))
    (kept : .step (.drop stream) ∉ list) : Present stream (a.moves list).session.fanout := by
  induction list generalizing a with
  | nil => exact present
  | cons move list ih =>
    have first : move ≠ .step (.drop stream) := fun same => kept (same ▸ List.mem_cons_self)
    exact ih (move_present present first) fun member => kept (List.mem_cons_of_mem _ member)

omit [Transport τ] in
theorem lasting_shown (stream : Nat) :
    Session.Lasting fun session => ∃ outlook, Fanout.Shows stream session.fanout outlook := by
  have acts (fanout : Fanout) (event : Fanout.Event) (shown : ∃ outlook, Fanout.Shows stream fanout outlook) :
      ∃ outlook, Fanout.Shows stream (fanout.act event) outlook := by
    obtain ⟨outlook, shows⟩ := shown
    exact ⟨_, shows.act event⟩
  exact @Session.lasting_acts (fun fanout => ∃ outlook, Fanout.Shows stream fanout outlook) acts

/-- Every stream of every session stands somewhere. -/
theorem moves_show (stream : Nat) (transport : τ) (list : List (Move τ)) :
    ∃ outlook, Fanout.Shows stream (moves { transport } list).session.fanout outlook :=
  moves_lasting (lasting_shown stream) { transport } list ⟨_, Fanout.Shows.start stream⟩

end

end

end Activity

end Subscriber
