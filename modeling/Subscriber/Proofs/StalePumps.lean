import Mathlib.Data.List.Induction
import Subscriber.Proofs.Rosters

/-! Registrations that are over. A pump that was stopped is no longer heard, whatever it still does, and a stream that
attached under an earlier registration can leave without disturbing the one at work, so that each stream is given the
items of its own registration and of no other. -/

namespace Subscriber

namespace Fanout

def Turn.yields (stream : Nat) (fanout : Fanout) : Turn → List Item
  | .poll other => if other = stream then (fanout.poll stream).1.items else []
  | _ => []

def yielded (stream : Nat) : Fanout → List Turn → List Item
  | _, [] => []
  | fanout, next :: later => next.yields stream fanout ++ yielded stream (fanout.turn next) later

/-- The fan-out at the first moment at which a stream is among the consumers. -/
def entrance? (stream : Nat) : Fanout → List Turn → Option Fanout
  | _, [] => none
  | fanout, next :: later =>
    if (fanout.turn next).attends stream then some (fanout.turn next) else entrance? stream (fanout.turn next) later

/-- The registration under which a stream attached, by the generation of its pump. -/
def registration (list : List Turn) (stream : Nat) : Option Nat := (entrance? stream {} list).bind pump

def Turn.item? (registration : Option Nat) : Turn → Option Item
  | .publish generation item => if registration = some generation then some item else none
  | .cancel => some (.error .cancelled)
  | _ => none

def Steady (before after : Fanout) : Prop := after = { before with streams := after.streams }

theorem yielded_concat (stream : Nat) (list : List Turn) (next : Turn) (fanout : Fanout) :
    yielded stream fanout (list ++ [next]) = yielded stream fanout list ++ next.yields stream (fanout.turns list) := by
  induction list generalizing fanout with
  | nil => exact List.append_nil _
  | cons first list ih =>
    rw [List.cons_append, yielded, ih, yielded, List.append_assoc]
    rfl

theorem entrance?_concat (stream : Nat) (list : List Turn) (next : Turn) (fanout : Fanout) :
    entrance? stream fanout (list ++ [next]) = (entrance? stream fanout list).or
      (if ((fanout.turns list).turn next).attends stream then some ((fanout.turns list).turn next) else none) := by
  induction list generalizing fanout with
  | nil => rfl
  | cons first list ih =>
    rw [List.cons_append, entrance?, entrance?]
    split
    · rfl
    · exact ih _

section

variable {fanout : Fanout} {stream : Nat}

theorem detach_unlisted {consumer : Nat} (unlisted : consumer ∉ fanout.consumers) : fanout.detach consumer = fanout :=
  if_neg (mt List.contains_iff_mem.mp unlisted)

/-- A stream that is given nothing any more is on no list that it could leave. -/
theorem unlisted_of_silent (silent : fanout.attends stream = false) {consumer : Nat}
    (owns : fanout.consumer? stream = some consumer) : consumer ∉ fanout.consumers := by
  intro listed
  rw [attends_iff.mpr ⟨consumer, owns, listed⟩] at silent
  cases silent

theorem leave_silent (silent : fanout.attends stream = false) {consumer : Nat}
    (owns : fanout.consumer? stream = some consumer) (attachment : Option Attachment) :
    Steady fanout ((fanout.setStream stream attachment).detach consumer) := by
  have unlisted : consumer ∉ (fanout.setStream stream attachment).consumers := unlisted_of_silent silent owns
  rw [detach_unlisted unlisted]
  rfl

private theorem poll_silent (silent : fanout.attends stream = false) (joined : fanout.stream? stream ≠ some .detached) :
    Steady fanout (fanout.poll stream).2 := by
  unfold poll
  split
  · rfl
  · rfl
  next fresh => exact absurd fresh joined
  next consumer present =>
    split
    · rfl
    · exact leave_silent silent (by rw [consumer?, present]; rfl) _
  · rfl
  next consumer interruption queued present => exact leave_silent silent (by rw [consumer?, present]; rfl) _

private theorem drop_silent (silent : fanout.attends stream = false) : Steady fanout (fanout.drop stream) := by
  unfold drop
  split
  next consumer queued present => exact leave_silent silent (by rw [consumer?, present]; rfl) _
  · rfl

private theorem turn_succeeds (fanout : Fanout) (next : Turn) : Succeeds fanout (fanout.turn next) := by
  rw [turn_eq_act]
  exact act_succeeds fanout _

theorem turns_succeeds (list : List Turn) (fanout : Fanout) : Succeeds fanout (fanout.turns list) := by
  induction list generalizing fanout with
  | nil => exact .refl fanout
  | cons next list ih => exact (turn_succeeds fanout next).trans (ih _)

/-- A pump that has been at work and is not any more never is again. -/
theorem stale_for_ever {generation : Nat} (known : generation ≤ fanout.generation)
    (stale : fanout.pump ≠ some generation) (later : List Turn) : (fanout.turns later).pump ≠ some generation := by
  intro again
  rcases (turns_succeeds later fanout).pump generation again with same | ⟨newer, -⟩
  · exact stale same
  · omega

theorem turns_shows (stream : Nat) (list : List Turn) : ∃ outlook, Shows stream (turns {} list) outlook := by
  induction list using List.reverseRecOn with
  | nil => exact ⟨{}, .start stream⟩
  | append_singleton list next ih =>
    obtain ⟨outlook, shows⟩ := ih
    rw [turns_concat, turn_eq_act]
    exact ⟨_, shows.act _⟩

theorem outline_turn (fanout : Fanout) (next : Turn) : (fanout.turn next).outline =
    match next with
    | .openStream => (fanout.streams.length + 1, fanout.cancelled)
    | .cancel => (fanout.streams.length, true)
    | _ => fanout.outline := by
  cases next with
  | openStream => simp [turn, openStream, outline]
  | poll stream => exact outline_poll fanout stream
  | drop stream => exact outline_drop fanout stream
  | publish generation item =>
    by_cases current : fanout.pump = some generation
    · cases item with
      | ok message => exact (congrArg outline (publish_ok current message)).trans (outline_deliver ..)
      | error interruption =>
        exact (congrArg outline (publish_error current interruption)).trans (outline_deliver fanout (.error interruption))
    · exact congrArg outline (publish_stale current item)
  | finish generation =>
    by_cases current : fanout.pump = some generation
    · exact (congrArg outline (finish_current current)).trans rfl
    · exact congrArg outline (finish_stale current)
  | cancel => exact congrArg (fun outline => (outline.1, true)) (outline_deliver fanout (.error .cancelled))

private theorem length_turn (fanout : Fanout) (next : Turn) : fanout.streams.length ≤ (fanout.turn next).streams.length := by
  have length := congrArg Prod.fst (outline_turn fanout next)
  change (fanout.turn next).streams.length = _ at length
  rw [length]
  cases next with
  | openStream => exact Nat.le_succ _
  | _ => exact Nat.le_refl _

/-- There are no more items behind a cancel, and only behind one. -/
theorem cancelled_turns (list : List Turn) : (turns {} list).cancelled = true ↔ .cancel ∈ list := by
  induction list using List.reverseRecOn with
  | nil => exact iff_of_false nofun nofun
  | append_singleton list next ih =>
    have flag := congrArg Prod.snd (outline_turn (turns {} list) next)
    change ((turns {} list).turn next).cancelled = _ at flag
    rw [turns_concat, flag, List.mem_append, List.mem_singleton, ← ih]
    cases next with
    | cancel => exact iff_of_true rfl (.inr rfl)
    | _ => exact (or_iff_left nofun).symm

/-- What a turn comes to for one stream, with what it yields. -/
inductive Notices (stream : Nat) (before : Fanout) (next : Turn) : List Item → Fanout → Prop where
  | spared {after : Fanout} (spares : Spares stream before after) : Notices stream before next [] after
  | opens {after : Fanout} (unopened : before.streams.length ≤ stream) (fresh : after.stream? stream = some .detached) :
    Notices stream before next [] after
  | enters {items : List Item} {after : Fanout} (fresh : before.stream? stream = some .detached)
      (enters : Enters stream before items after) : Notices stream before next items after
  | draws {items : List Item} {after : Fanout} (joined : before.Joined stream) (draws : Draws stream items before after) :
    Notices stream before next items after
  | leaves {after : Fanout} (gone : after.stream? stream = none) : Notices stream before next [] after
  | given {item : Item} {after : Fanout} (attends : before.attends stream = true)
      (heard : next.item? before.pump = some item) (joined : after.Joined stream)
      (queue : after.queue stream = before.queue stream ++ [item])
      (stays : after.attends stream = true → after.pump = before.pump) : Notices stream before next [] after
  | released {after : Fanout} (same : after.stream? stream = before.stream? stream)
      (silent : after.attends stream = false) : Notices stream before next [] after

theorem attends_emptied {after : Fanout} (nobody : after.consumers = []) : after.attends stream = false := by
  apply Bool.eq_false_iff.mpr
  intro attends
  obtain ⟨consumer, -, listed⟩ := attends_iff.mp attends
  rw [nobody] at listed
  cases listed

theorem interrupt_notices {after : Fanout} {next : Turn} {interruption : Interruption}
    (streams : after.streams = (fanout.interrupt interruption).streams) (nobody : after.consumers = [])
    (heard : fanout.attends stream = true → next.item? fanout.pump = some (.error interruption)) :
    Notices stream fanout next [] after := by
  have same : after.stream? stream = (fanout.interrupt interruption).stream? stream := by rw [stream?, streams]; rfl
  have silent : after.attends stream = false := attends_emptied nobody
  cases attends : fanout.attends stream with
  | true =>
    have queue : after.queue stream = fanout.queue stream ++ [.error interruption] := by
      rw [Fanout.queue, same]
      exact queue_interrupt attends interruption
    obtain ⟨attachment, present, moved⟩ := interrupt_joined attends interruption
    refine .given attends (heard attends) ⟨attachment, same.trans present, moved⟩ queue fun still => ?_
    cases silent.symm.trans still
  | false => exact .released (same.trans (interrupt_spares attends interruption).same) silent

private theorem poll_notices (orderly : fanout.Orderly stream) :
    Notices stream fanout (.poll stream) (fanout.poll stream).1.items (fanout.poll stream).2 := by
  cases present : fanout.stream? stream with
  | none =>
    have ended : fanout.poll stream = (.ended, fanout) := by
      unfold poll
      rw [present]
    rw [ended]
    exact .spared (.refl stream fanout)
  | some attachment =>
    by_cases fresh : attachment = .detached
    · exact .enters (fresh ▸ present) (poll_enters (fresh ▸ present))
    · have joined : fanout.Joined stream := ⟨attachment, present, fresh⟩
      exact .draws joined (poll_draws joined orderly)

private theorem publish_notices (fanout : Fanout) (stream generation : Nat) (item : Item) :
    Notices stream fanout (.publish generation item) [] (fanout.publish generation item) := by
  by_cases current : fanout.pump = some generation
  · have heard : (Turn.publish generation item).item? fanout.pump = some item := if_pos current
    cases item with
    | ok message =>
      rw [publish_ok current]
      cases attends : fanout.attends stream with
      | true =>
        have still : (fanout.deliver (.ok message)).attends stream = true := (attends_deliver fanout _ stream).trans attends
        exact .given attends heard (attends_joined still) (queue_deliver attends _) fun _ => rfl
      | false => exact .spared (deliver_spares attends _)
    | error interruption =>
      rw [publish_error current]
      exact interrupt_notices rfl rfl fun _ => heard
  · rw [publish_stale current]
    exact .spared (.refl stream fanout)

theorem turn_notices (list : List Turn) (next : Turn) (stream : Nat) :
    let fanout := turns {} list
    Notices stream fanout next (next.yields stream fanout) (fanout.turn next) := by
  intro fanout
  obtain ⟨outlook, shows⟩ := turns_shows stream list
  have sound : fanout.Sound := shows.sound
  cases next with
  | openStream =>
    by_cases new : stream = fanout.streams.length
    · exact .opens (Nat.le_of_eq new.symm) (new ▸ stream?_openStream_self fanout)
    · exact .spared (openStream_spares new)
  | poll other =>
    by_cases own : other = stream
    · subst own
      rw [Turn.yields, if_pos rfl]
      exact poll_notices shows.stands.orderly
    · rw [Turn.yields, if_neg own]
      exact .spared (poll_spares sound (Ne.symm own))
  | drop other =>
    by_cases own : other = stream
    · exact .leaves (own ▸ drop_leaves fanout other)
    · exact .spared (drop_spares sound (Ne.symm own))
  | publish generation item => exact publish_notices fanout stream generation item
  | finish generation =>
    by_cases current : fanout.pump = some generation
    · rw [turn, finish_current current]
      exact .released rfl (attends_emptied rfl)
    · rw [turn, finish_stale current]
      exact .spared (.refl stream fanout)
  | cancel => exact interrupt_notices rfl rfl fun _ => rfl

namespace Notices

variable {before after : Fanout} {next : Turn} {items : List Item}

private theorem fresh (notices : Notices stream before next items after) (longer : before.streams.length ≤ after.streams.length)
    (unjoined : after.stream? stream = some .detached ∨ after.streams.length ≤ stream) :
    (before.stream? stream = some .detached ∨ before.streams.length ≤ stream) ∧ items = [] ∧
      after.attends stream = false := by
  have apart : ¬ after.Joined stream := by
    rintro ⟨attachment, present, moved⟩
    rcases unjoined with fresh | unopened
    · exact moved (Option.some.inj (present.symm.trans fresh))
    · simp only [stream?, List.getElem?_eq_none unopened, Option.join_none] at present
      cases present
  have silent : after.attends stream = false := Bool.eq_false_iff.mpr (mt attends_joined apart)
  have earlier : after.stream? stream = before.stream? stream →
      before.stream? stream = some .detached ∨ before.streams.length ≤ stream := fun same =>
    unjoined.imp same.symm.trans (Nat.le_trans longer)
  cases notices with
  | spared spares => exact ⟨earlier spares.same, rfl, silent⟩
  | opens unopened => exact ⟨.inr unopened, rfl, silent⟩
  | enters fresh enters =>
    cases enters with
    | attaches going => exact absurd (attends_joined (attach_own fresh).1) apart
    | refused cancelled joined => exact absurd joined apart
  | draws joined draws => exact absurd draws.joined apart
  | leaves gone =>
    rcases unjoined with fresh | unopened
    · cases gone.symm.trans fresh
    · exact ⟨.inr (Nat.le_trans longer unopened), rfl, silent⟩
  | given attends heard joined => exact absurd joined apart
  | released same => exact ⟨earlier same, rfl, silent⟩

theorem attending (notices : Notices stream before next items after) (attends : after.attends stream = true) :
    (before.attends stream = true ∧ after.pump = before.pump) ∨ before.stream? stream = some .detached := by
  cases notices with
  | spared spares =>
    have earlier := spares.attends.symm.trans attends
    exact .inl ⟨earlier, spares.pump earlier⟩
  | opens unopened fresh => exact absurd fresh (attends_joined attends).attached
  | enters fresh => exact .inr fresh
  | draws joined draws =>
    have earlier := draws.attends.symm.trans attends
    exact .inl ⟨earlier, draws.pump earlier⟩
  | leaves gone => exact absurd gone (attends_joined attends).present
  | given earlier heard joined queue stays => exact .inl ⟨earlier, stays attends⟩
  | released same silent => cases silent.symm.trans attends

/-- What a stream has been given was there before, or it is what the pump of its registration has for it now. -/
theorem items_sublist (notices : Notices stream before next items after)
    (joined : before.stream? stream ≠ some .detached) :
    (items ++ after.queue stream).Sublist (before.queue stream ++
      if before.attends stream then (next.item? before.pump).toList else []) := by
  have earlier {queue : List Item} (same : queue = before.queue stream) : queue.Sublist (before.queue stream ++
      if before.attends stream then (next.item? before.pump).toList else []) :=
    same ▸ List.sublist_append_left _ _
  cases notices with
  | spared spares => exact earlier spares.queue
  | opens unopened fresh =>
    rw [queue, fresh]
    exact List.nil_sublist _
  | enters fresh => exact absurd fresh joined
  | draws joined draws => exact earlier draws.queue.symm
  | leaves gone =>
    rw [queue, gone]
    exact List.nil_sublist _
  | given attends heard joined queue =>
    rw [queue, if_pos attends, heard]
    exact List.Sublist.refl _
  | released same => exact earlier (by rw [queue, queue, same]; rfl)

private theorem items_entering (notices : Notices stream before next items after)
    (fresh : before.stream? stream = some .detached) :
    items ++ after.queue stream = [] ∨ before.cancelled = true ∧ items ++ after.queue stream = [.error .cancelled] := by
  have empty : before.queue stream = [] := by
    rw [queue, fresh]
    rfl
  cases notices with
  | spared spares => exact .inl (spares.queue.trans empty)
  | opens unopened fresh =>
    refine .inl ?_
    rw [queue, fresh]
    rfl
  | enters fresh enters =>
    cases enters with
    | attaches going => exact .inl (attach_own fresh).2
    | refused cancelled joined queue =>
      rw [queue]
      exact .inr ⟨cancelled, rfl⟩
  | draws joined draws => exact absurd fresh joined.attached
  | leaves gone =>
    refine .inl ?_
    rw [queue, gone]
    rfl
  | given attends => exact absurd fresh (attends_joined attends).attached
  | released same =>
    refine .inl ?_
    rw [List.nil_append, queue, same]
    exact empty

end Notices

end

/-- How a stream stands to its registration. -/
structure Watched (list : List Turn) (stream : Nat) : Prop where
  unjoined : (turns {} list).stream? stream = some .detached ∨ (turns {} list).streams.length ≤ stream →
    entrance? stream {} list = none ∧ yielded stream {} list = []
  attending : (turns {} list).attends stream = true → registration list stream = (turns {} list).pump
  items : (yielded stream {} list ++ (turns {} list).queue stream).Sublist
    (list.filterMap (Turn.item? (registration list stream)))

namespace Watched

variable {list : List Turn} {stream : Nat}

private theorem entered (watched : Watched list stream) (attends : (turns {} list).attends stream = true) :
    entrance? stream {} list ≠ none := by
  intro never
  obtain ⟨outlook, shows⟩ := turns_shows stream list
  obtain ⟨generation, running⟩ := shows.sound.pump attends
  have unregistered := watched.attending attends
  rw [registration, never, running] at unregistered
  cases unregistered

private theorem concat_unjoined (watched : Watched list stream) (next : Turn)
    (unjoined : (turns {} (list ++ [next])).stream? stream = some .detached ∨
      (turns {} (list ++ [next])).streams.length ≤ stream) :
    entrance? stream {} (list ++ [next]) = none ∧ yielded stream {} (list ++ [next]) = [] := by
  rw [turns_concat] at unjoined
  obtain ⟨earlier, nothing, silent⟩ := (turn_notices list next stream).fresh (length_turn _ next) unjoined
  obtain ⟨never, none⟩ := watched.unjoined earlier
  rw [entrance?_concat, yielded_concat, never, none, nothing, silent]
  exact ⟨rfl, rfl⟩

/-- The registration of a stream is settled with its first poll. -/
theorem registration_concat (watched : Watched list stream) (next : Turn)
    (joined : (turns {} list).stream? stream ≠ some .detached) :
    registration (list ++ [next]) stream = registration list stream := by
  rw [registration, registration, entrance?_concat]
  cases entered : entrance? stream {} list with
  | some entry => rfl
  | none =>
    have silent : ((turns {} list).turn next).attends stream = false := by
      apply Bool.eq_false_iff.mpr
      intro attends
      rcases (turn_notices list next stream).attending attends with ⟨before, -⟩ | fresh
      · exact watched.entered before entered
      · exact joined fresh
    rw [silent]
    rfl

private theorem concat_attending (watched : Watched list stream) (next : Turn)
    (attends : (turns {} (list ++ [next])).attends stream = true) :
    registration (list ++ [next]) stream = (turns {} (list ++ [next])).pump := by
  rw [turns_concat] at attends ⊢
  by_cases fresh : (turns {} list).stream? stream = some .detached
  · rw [registration, entrance?_concat, (watched.unjoined (.inl fresh)).1, if_pos attends]
    rfl
  · rcases (turn_notices list next stream).attending attends with ⟨before, same⟩ | entering
    · rw [watched.registration_concat next fresh, watched.attending before, same]
    · exact absurd entering fresh

private theorem concat_items (watched : Watched list stream) (next : Turn) :
    (yielded stream {} (list ++ [next]) ++ (turns {} (list ++ [next])).queue stream).Sublist
      ((list ++ [next]).filterMap (Turn.item? (registration (list ++ [next]) stream))) := by
  have notices := turn_notices list next stream
  rw [turns_concat, yielded_concat, List.append_assoc, List.filterMap_append]
  by_cases fresh : (turns {} list).stream? stream = some .detached
  · rw [(watched.unjoined (.inl fresh)).2, List.nil_append]
    rcases notices.items_entering fresh with nothing | ⟨cancelled, refusal⟩
    · rw [nothing]
      exact List.nil_sublist _
    · rw [refusal]
      have told : .error .cancelled ∈ list.filterMap (Turn.item? (registration (list ++ [next]) stream)) :=
        List.mem_filterMap.mpr ⟨.cancel, (cancelled_turns list).mp cancelled, rfl⟩
      exact List.singleton_sublist.mpr (List.mem_append_left _ told)
  · rw [watched.registration_concat next fresh]
    refine ((notices.items_sublist fresh).append_left _).trans ?_
    rw [← List.append_assoc]
    refine watched.items.append ?_
    split
    next attends =>
      rw [← watched.attending attends]
      exact List.Sublist.refl _
    next => exact List.nil_sublist _

theorem always (list : List Turn) (stream : Nat) : Watched list stream := by
  induction list using List.reverseRecOn with
  | nil => exact ⟨fun _ => ⟨rfl, rfl⟩, nofun, List.Sublist.refl _⟩
  | append_singleton list next watched =>
    exact ⟨watched.concat_unjoined next, watched.concat_attending next, watched.concat_items next⟩

end Watched

/-- A pump that has been at work and is not any more can do nothing to the fan-out, now or later. -/
structure Unheard (fanout : Fanout) (generation : Nat) : Prop where
  publish : ∀ item, fanout.publish generation item = fanout
  finish : fanout.finish generation = fanout
  later : ∀ later, (fanout.turns later).pump ≠ some generation

/-- Whatever a stream of a registration that is over does, only its own place changes. -/
structure Undisturbed (fanout : Fanout) (stream : Nat) : Prop where
  poll : Steady fanout (fanout.poll stream).2
  drop : Steady fanout (fanout.drop stream)
  detach : ∀ consumer, fanout.consumer? stream = some consumer → fanout.detach consumer = fanout

private theorem unheard_of_stale {early late : List Turn} {generation : Nat}
    (running : (turns {} early).pump = some generation) (stale : (turns {} (early ++ late)).pump ≠ some generation) :
    Unheard (turns {} (early ++ late)) generation := by
  refine ⟨publish_stale stale, finish_stale stale, stale_for_ever ?_ stale⟩
  have known := (Tidy.start.turns early).current generation running
  rw [turns_append]
  exact known ▸ (turns_succeeds late _).generation

private theorem undisturbed_of_stale {list : List Turn} {stream generation : Nat}
    (entered : registration list stream = some generation) (stale : (turns {} list).pump ≠ some generation) :
    Undisturbed (turns {} list) stream := by
  have watched := Watched.always list stream
  have silent : (turns {} list).attends stream = false := by
    apply Bool.eq_false_iff.mpr
    intro attends
    exact stale ((watched.attending attends).symm.trans entered)
  have joined : (turns {} list).stream? stream ≠ some .detached := by
    intro fresh
    rw [registration, (watched.unjoined (.inl fresh)).1] at entered
    cases entered
  exact ⟨poll_silent silent joined, drop_silent silent, fun consumer owns => detach_unlisted (unlisted_of_silent silent owns)⟩

/-- After any turns of streams, pumps of any generation and the session: a pump is present exactly when there are
consumers, and it is that of the current generation; every consumer has a number given out before, belongs to exactly one
attached stream and is of the registration at work; behind a cancel there are neither consumers nor a pump. A pump that
is not at work any more changes nothing, nor does a stream of an earlier registration, and what a stream has been given
is, in order, part of what was published to its own registration, or the news of the cancel. -/
theorem stale_turns_change_nothing (list : List Turn) :
    let fanout := turns {} list
    (fanout.pump ≠ none ↔ fanout.consumers ≠ []) ∧
    (∀ generation, fanout.pump = some generation → generation = fanout.generation) ∧
    fanout.consumers.Nodup ∧
    (∀ consumer ∈ fanout.consumers, consumer < fanout.nextConsumer ∧
      ∃ stream, fanout.consumer? stream = some consumer ∧ registration list stream = fanout.pump ∧
        ∀ other, fanout.consumer? other = some consumer → other = stream) ∧
    (.cancel ∈ list → fanout.consumers = [] ∧ fanout.pump = none) ∧
    (∀ early late generation, list = early ++ late → (turns {} early).pump = some generation →
      fanout.pump ≠ some generation → fanout.Unheard generation) ∧
    (∀ stream generation, registration list stream = some generation → fanout.pump ≠ some generation →
      fanout.Undisturbed stream) ∧
    ∀ stream, (yielded stream {} list ++ fanout.queue stream).Sublist
      (list.filterMap (Turn.item? (registration list stream))) := by
  intro fanout
  have tidy : fanout.Tidy := Tidy.start.turns list
  refine ⟨not_congr tidy.manned, tidy.current, tidy.distinct, fun consumer listed => ?_, fun cancelled => ?_, ?_,
    fun stream generation => undisturbed_of_stale, fun stream => (Watched.always list stream).items⟩
  · obtain ⟨stream, owns⟩ := tidy.owned consumer listed
    have attends : fanout.attends stream = true := attends_iff.mpr ⟨consumer, owns, listed⟩
    exact ⟨tidy.sound.numbered stream consumer owns, stream, owns, (Watched.always list stream).attending attends,
      fun other owned => tidy.sound.apart other stream consumer owned owns⟩
  · have nobody := tidy.closed ((cancelled_turns list).mpr cancelled)
    exact ⟨nobody, tidy.manned.mpr nobody⟩
  · rintro early late generation rfl running stale
    exact unheard_of_stale running stale

/-- Streams 0 and 1 attach under the first registration, which fails behind one message; stream 2 starts the second. The
first pump comes late with a message and with its end, and stream 0 is dropped: the second registration does not notice. -/
theorem stale_turns_change_nothing_restarted :
    let told : Message := .channel [99] [49]
    let late : Message := .channel [99] [50]
    let broken : Interruption := .upstream .connectionClosed
    let early : List Turn := [.openStream, .openStream, .openStream, .poll 0, .poll 1]
    let list := early ++ [.publish 1 (.ok told), .publish 1 (.error broken), .poll 2, .publish 1 (.ok late), .finish 1,
      .poll 0, .drop 0, .publish 2 (.ok told)]
    let fanout := turns {} list
    fanout.pump = some 2 ∧ fanout.consumers = [2] ∧ registration list 1 = some 1 ∧ fanout.Unheard 1 ∧
      fanout.Undisturbed 1 ∧ yielded 0 {} list = [.ok told] ∧ fanout.queue 2 = [.ok told] := by
  intro told late broken early list fanout
  have running : (turns {} early).pump = some 1 := by decide +kernel
  have current : fanout.pump = some 2 := by decide +kernel
  have stale : fanout.pump ≠ some 1 := by
    rw [current]
    decide
  have entered : registration list 1 = some 1 := by decide +kernel
  obtain ⟨-, -, -, -, -, unheard, undisturbed, -⟩ := stale_turns_change_nothing list
  exact ⟨current, by decide +kernel, entered, unheard early _ 1 rfl running stale, undisturbed 1 1 entered stale,
    by decide +kernel, by decide +kernel⟩

end Fanout

end Subscriber
