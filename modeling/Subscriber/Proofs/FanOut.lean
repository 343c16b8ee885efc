import Subscriber.Session

/-! Streams side by side. Each of them has a consumer and a queue of its own, so that what one of them does
is nothing to the others, and whoever still listens keeps the pump at work. -/

namespace Subscriber

def Poll.items {α : Type} : Poll α → List α
  | .ready item => [item]
  | .pending | .ended => []

namespace Attachment

def consumer? : Attachment → Option Nat
  | .attached consumer _ => some consumer
  | .detached | .done => none

def queue : Attachment → List Item
  | .attached _ queued => queued
  | .detached | .done => []

end Attachment

namespace Fanout

def consumer? (fanout : Fanout) (stream : Nat) : Option Nat := (fanout.stream? stream).bind Attachment.consumer?

def queue (fanout : Fanout) (stream : Nat) : List Item := ((fanout.stream? stream).map Attachment.queue).getD []

def attends (fanout : Fanout) (stream : Nat) : Bool :=
  (fanout.consumer? stream).any fun consumer => fanout.consumers.contains consumer

/-- The stream has been polled and not been dropped. -/
def Joined (fanout : Fanout) (stream : Nat) : Prop :=
  ∃ attachment, fanout.stream? stream = some attachment ∧ attachment ≠ .detached

instance (fanout : Fanout) (stream : Nat) : Decidable (fanout.Joined stream) :=
  match found : fanout.stream? stream with
  | none => .isFalse fun ⟨_, present, _⟩ => nomatch found.symm.trans present
  | some .detached => .isFalse fun ⟨_, present, moved⟩ => moved (Option.some.inj (present.symm.trans found))
  | some (.attached consumer queued) => .isTrue ⟨.attached consumer queued, found, nofun⟩
  | some .done => .isTrue ⟨.done, found, nofun⟩

theorem attends_iff {fanout : Fanout} {stream : Nat} :
    fanout.attends stream = true ↔ ∃ consumer, fanout.consumer? stream = some consumer ∧ consumer ∈ fanout.consumers := by
  simp only [attends, Option.any_eq_true, List.contains_iff_mem]

theorem attends_joined {fanout : Fanout} {stream : Nat} (attends : fanout.attends stream = true) :
    fanout.Joined stream := by
  obtain ⟨consumer, owned, -⟩ := attends_iff.mp attends
  obtain ⟨attachment, found, held⟩ := Option.bind_eq_some_iff.mp owned
  refine ⟨attachment, found, ?_⟩
  rintro rfl
  cases held

theorem Joined.present {fanout : Fanout} {stream : Nat} (joined : fanout.Joined stream) :
    fanout.stream? stream ≠ none := by
  obtain ⟨attachment, present, -⟩ := joined
  rw [present]
  exact Option.some_ne_none attachment

theorem Joined.attached {fanout : Fanout} {stream : Nat} (joined : fanout.Joined stream) :
    fanout.stream? stream ≠ some .detached := by
  obtain ⟨attachment, present, moved⟩ := joined
  rw [present]
  intro same
  exact moved (Option.some.inj same)

/-- Consumers are told apart, and nobody waits without a pump. -/
structure Sound (fanout : Fanout) : Prop where
  numbered : ∀ stream consumer, fanout.consumer? stream = some consumer → consumer < fanout.nextConsumer
  apart : ∀ a b consumer, fanout.consumer? a = some consumer → fanout.consumer? b = some consumer → a = b
  served : fanout.consumers ≠ [] → fanout.pump ≠ none

theorem Sound.pump {fanout : Fanout} (sound : fanout.Sound) {stream : Nat} (attends : fanout.attends stream = true) :
    ∃ generation, fanout.pump = some generation := by
  obtain ⟨consumer, -, listed⟩ := attends_iff.mp attends
  exact Option.ne_none_iff_exists'.mp (sound.served (List.ne_nil_of_mem listed))

theorem stream?_setStream_ne {fanout : Fanout} {stream other : Nat} (different : stream ≠ other)
    (attachment : Option Attachment) : (fanout.setStream other attachment).stream? stream = fanout.stream? stream := by
  simp only [stream?, setStream, List.getElem?_set_ne different.symm]

theorem stream?_setStream_self {fanout : Fanout} {stream : Nat} {old : Attachment}
    (present : fanout.stream? stream = some old) (attachment : Option Attachment) :
    (fanout.setStream stream attachment).stream? stream = attachment := by
  have inside : stream < fanout.streams.length := by
    apply Nat.lt_of_not_le
    intro outside
    simp only [stream?, List.getElem?_eq_none outside] at present
    cases present
  simp only [stream?, setStream, List.getElem?_set_self inside, Option.join_some]

private theorem stream?_setStream_none {fanout : Fanout} {stream : Nat} (absent : fanout.stream? stream = none) :
    (fanout.setStream stream none).stream? stream = none := by
  by_cases inside : stream < fanout.streams.length
  · simp only [stream?, setStream, List.getElem?_set_self inside, Option.join_some]
  · have outside := Nat.le_of_not_lt inside
    simpa only [stream?, setStream, List.set_eq_of_length_le outside] using absent

private theorem consumer?_setStream {fanout : Fanout} {stream : Nat} {attachment : Option Attachment}
    (kept : ∀ consumer, attachment.bind Attachment.consumer? = some consumer → fanout.consumer? stream = some consumer)
    {other consumer : Nat} (owned : (fanout.setStream stream attachment).consumer? other = some consumer) :
    fanout.consumer? other = some consumer := by
  by_cases own : other = stream
  · subst own
    cases present : fanout.stream? other with
    | some old =>
      rw [consumer?, stream?_setStream_self present] at owned
      exact kept consumer owned
    | none =>
      by_cases inside : other < fanout.streams.length
      · apply kept consumer
        simpa only [consumer?, stream?, setStream, List.getElem?_set_self inside, Option.join_some] using owned
      · have outside := Nat.le_of_not_lt inside
        simpa only [consumer?, stream?, setStream, List.set_eq_of_length_le outside] using owned
  · rwa [consumer?, stream?_setStream_ne own] at owned

theorem Sound.setStream {fanout : Fanout} (sound : fanout.Sound) {stream : Nat} {attachment : Option Attachment}
    (kept : ∀ consumer, attachment.bind Attachment.consumer? = some consumer → fanout.consumer? stream = some consumer) :
    (fanout.setStream stream attachment).Sound :=
  ⟨fun other consumer owned => sound.numbered other consumer (consumer?_setStream kept owned),
    fun a b consumer first second =>
      sound.apart a b consumer (consumer?_setStream kept first) (consumer?_setStream kept second),
    sound.served⟩

theorem detach_eq (fanout : Fanout) (consumer : Nat) :
    ∃ consumers pump, fanout.detach consumer = { fanout with consumers, pump } ∧
      (∀ other, other ≠ consumer → (other ∈ consumers ↔ other ∈ fanout.consumers)) ∧
      (consumers ≠ [] → pump = fanout.pump) ∧ consumers ⊆ fanout.consumers ∧
      (consumer ∉ fanout.consumers → consumers = fanout.consumers ∧ pump = fanout.pump) := by
  unfold detach
  split
  next listed =>
    refine ⟨_, _, rfl, fun other different => List.mem_erase_of_ne different, ?_, List.erase_subset, ?_⟩
    · intro left
      rw [if_neg (by simpa using left)]
    · exact fun absent => absurd (List.contains_iff_mem.mp listed) absent
  · exact ⟨fanout.consumers, fanout.pump, rfl, fun _ _ => Iff.rfl, fun _ => rfl, List.Subset.refl _, fun _ => ⟨rfl, rfl⟩⟩

theorem Sound.detach {fanout : Fanout} (sound : fanout.Sound) (consumer : Nat) : (fanout.detach consumer).Sound := by
  obtain ⟨consumers, pump, detached, -, served, fewer, -⟩ := detach_eq fanout consumer
  rw [detached]
  refine ⟨sound.numbered, sound.apart, fun left => ?_⟩
  rw [show ({ fanout with consumers, pump } : Fanout).pump = fanout.pump from served left]
  obtain ⟨first, member⟩ := List.exists_mem_of_ne_nil _ left
  exact sound.served (List.ne_nil_of_mem (fewer member))

theorem attach_eq (fanout : Fanout) (stream : Nat) :
    ∃ generation pump, fanout.attach stream =
      { (fanout.setStream stream (some (.attached fanout.nextConsumer []))) with
        nextConsumer := fanout.nextConsumer + 1,
        consumers := fanout.consumers ++ [fanout.nextConsumer],
        generation, pump } ∧ pump ≠ none ∧ (fanout.pump ≠ none → pump = fanout.pump) := by
  unfold attach
  cases known : fanout.pump with
  | some generation => exact ⟨fanout.generation, some generation, by simp [setStream, known], nofun, fun _ => rfl⟩
  | none => exact ⟨fanout.generation + 1, some (fanout.generation + 1), rfl, nofun, fun running => absurd rfl running⟩

theorem Sound.attach {fanout : Fanout} (sound : fanout.Sound) {stream : Nat}
    (present : fanout.stream? stream = some .detached) : (fanout.attach stream).Sound := by
  obtain ⟨generation, pump, attached, running, -⟩ := attach_eq fanout stream
  rw [attached]
  have own : (fanout.setStream stream (some (.attached fanout.nextConsumer []))).consumer? stream =
      some fanout.nextConsumer := by
    rw [consumer?, stream?_setStream_self present]
    rfl
  have others {other : Nat} (different : other ≠ stream) :
      (fanout.setStream stream (some (.attached fanout.nextConsumer []))).consumer? other = fanout.consumer? other := by
    rw [consumer?, stream?_setStream_ne different, consumer?]
  have held {other consumer : Nat}
      (owned : (fanout.setStream stream (some (.attached fanout.nextConsumer []))).consumer? other = some consumer) :
      other = stream ∧ consumer = fanout.nextConsumer ∨
        other ≠ stream ∧ fanout.consumer? other = some consumer ∧ consumer < fanout.nextConsumer := by
    by_cases same : other = stream
    · subst same
      exact Or.inl ⟨rfl, (Option.some.inj (own.symm.trans owned)).symm⟩
    · rw [others same] at owned
      exact Or.inr ⟨same, owned, sound.numbered other consumer owned⟩
  refine ⟨fun other consumer owned => ?_, fun a b consumer first second => ?_, fun _ => running⟩
  · change consumer < fanout.nextConsumer + 1
    rcases held owned with ⟨-, rfl⟩ | ⟨-, -, older⟩
    · exact Nat.lt_succ_self _
    · exact Nat.lt_succ_of_lt older
  · rcases held first with ⟨rfl, rfl⟩ | ⟨-, mine, older⟩
    · rcases held second with ⟨rfl, -⟩ | ⟨-, -, older⟩
      · rfl
      · exact absurd older (Nat.lt_irrefl _)
    · rcases held second with ⟨-, rfl⟩ | ⟨-, yours, -⟩
      · exact absurd older (Nat.lt_irrefl _)
      · exact sound.apart a b consumer mine yours

/-- What is done to others leaves a stream as it is, and its pump at work. -/
structure Spares (stream : Nat) (before after : Fanout) : Prop where
  same : after.stream? stream = before.stream? stream
  attends : after.attends stream = before.attends stream
  pump : before.attends stream = true → after.pump = before.pump
  cancelled : before.cancelled = true → after.cancelled = true

theorem Spares.refl (stream : Nat) (fanout : Fanout) : Spares stream fanout fanout := ⟨rfl, rfl, fun _ => rfl, id⟩

theorem Spares.trans {stream : Nat} {a b c : Fanout} (first : Spares stream a b) (second : Spares stream b c) :
    Spares stream a c :=
  ⟨second.same.trans first.same, second.attends.trans first.attends,
    fun attends => (second.pump (first.attends.trans attends)).trans (first.pump attends),
    fun cancelled => second.cancelled (first.cancelled cancelled)⟩

theorem Spares.queue {stream : Nat} {before after : Fanout} (spares : Spares stream before after) :
    after.queue stream = before.queue stream := by
  rw [Fanout.queue, Fanout.queue, spares.same]

theorem Spares.joined {stream : Nat} {before after : Fanout} (spares : Spares stream before after)
    (joined : before.Joined stream) : after.Joined stream := by
  obtain ⟨attachment, present, moved⟩ := joined
  exact ⟨attachment, spares.same.trans present, moved⟩

theorem setStream_spares {stream other : Nat} (different : stream ≠ other) (fanout : Fanout)
    (attachment : Option Attachment) : Spares stream fanout (fanout.setStream other attachment) := by
  have same : (fanout.setStream other attachment).stream? stream = fanout.stream? stream :=
    stream?_setStream_ne different attachment
  refine ⟨same, ?_, fun _ => rfl, id⟩
  rw [attends, attends, consumer?, consumer?, same]
  rfl

theorem detach_spares {fanout : Fanout} {stream consumer : Nat} (foreign : fanout.consumer? stream ≠ some consumer) :
    Spares stream fanout (fanout.detach consumer) := by
  obtain ⟨consumers, pump, detached, others, served, -, -⟩ := detach_eq fanout consumer
  have same : (fanout.detach consumer).attends stream = fanout.attends stream := by
    rw [Bool.eq_iff_iff, attends_iff, attends_iff, detached]
    constructor
    all_goals
      rintro ⟨mine, owned, listed⟩
      have different : mine ≠ consumer := by
        rintro rfl
        exact foreign owned
      exact ⟨mine, owned, by simpa only [others mine different] using listed⟩
  refine ⟨by rw [detached]; rfl, same, fun attends => ?_, fun cancelled => by rw [detached]; exact cancelled⟩
  obtain ⟨mine, -, listed⟩ := attends_iff.mp (same.trans attends)
  rw [detached] at listed ⊢
  exact served (List.ne_nil_of_mem listed)

private theorem attach_spares {fanout : Fanout} (sound : fanout.Sound) {stream other : Nat} (different : stream ≠ other) :
    Spares stream fanout (fanout.attach other) := by
  obtain ⟨generation, pump, attached, -, kept⟩ := attach_eq fanout other
  have same : (fanout.attach other).stream? stream = fanout.stream? stream := by
    rw [attached]
    exact stream?_setStream_ne different _
  refine ⟨same, ?_, fun attends => ?_, fun cancelled => by rw [attached]; exact cancelled⟩
  · rw [Bool.eq_iff_iff, attends_iff, attends_iff, consumer?, consumer?, same, attached]
    constructor
    · rintro ⟨consumer, owned, listed⟩
      refine ⟨consumer, owned, ?_⟩
      rcases List.mem_append.mp listed with before | new
      · exact before
      · have older := sound.numbered stream consumer owned
        rw [List.mem_singleton.mp new] at older
        exact absurd older (Nat.lt_irrefl _)
    · rintro ⟨consumer, owned, listed⟩
      exact ⟨consumer, owned, List.mem_append_left _ listed⟩
  · obtain ⟨generation, running⟩ := sound.pump attends
    rw [attached]
    exact kept (by rw [running]; nofun)


theorem poll_sound {fanout : Fanout} (sound : fanout.Sound) (stream : Nat) : (fanout.poll stream).2.Sound := by
  have emptied : (fanout.setStream stream (some .done)).Sound := sound.setStream fun _ => nofun
  unfold poll
  split
  · exact sound
  · exact sound
  next present =>
    split
    · exact emptied
    · exact sound.attach present
  · split
    · exact sound
    · exact emptied.detach _
  next consumer message queued present =>
    refine sound.setStream fun other kept => ?_
    rw [consumer?, present]
    exact kept
  · exact emptied.detach _

theorem drop_sound {fanout : Fanout} (sound : fanout.Sound) (stream : Nat) : (fanout.drop stream).Sound := by
  have emptied : (fanout.setStream stream none).Sound := sound.setStream fun _ => nofun
  unfold drop
  split
  · exact emptied.detach _
  · exact emptied

theorem poll_spares {fanout : Fanout} (sound : fanout.Sound) {stream other : Nat} (different : stream ≠ other) :
    Spares stream fanout (fanout.poll other).2 := by
  have changed := setStream_spares different fanout
  have foreign {consumer : Nat} {queued : List Item} (present : fanout.stream? other = some (.attached consumer queued))
      (attachment : Option Attachment) : (fanout.setStream other attachment).consumer? stream ≠ some consumer := by
    intro owned
    rw [consumer?, stream?_setStream_ne different] at owned
    exact different (sound.apart stream other consumer owned (by rw [consumer?, present]; rfl))
  unfold poll
  split
  · exact .refl stream fanout
  · exact .refl stream fanout
  next present =>
    split
    · exact changed _
    · exact attach_spares sound different
  next consumer present =>
    split
    · exact .refl stream fanout
    · exact (changed _).trans (detach_spares (foreign present _))
  · exact changed _
  next consumer interruption queued present => exact (changed _).trans (detach_spares (foreign present _))

theorem drop_spares {fanout : Fanout} (sound : fanout.Sound) {stream other : Nat} (different : stream ≠ other) :
    Spares stream fanout (fanout.drop other) := by
  have changed := setStream_spares different fanout none
  unfold drop
  split
  next consumer queued present =>
    refine changed.trans (detach_spares fun owned => ?_)
    rw [consumer?, stream?_setStream_ne different] at owned
    exact different (sound.apart stream other consumer owned (by rw [consumer?, present]; rfl))
  · exact changed

theorem drop_leaves (fanout : Fanout) (stream : Nat) : (fanout.drop stream).stream? stream = none := by
  unfold drop
  split
  next consumer queued present =>
    obtain ⟨consumers, pump, detached, -⟩ := detach_eq (fanout.setStream stream none) consumer
    rw [detached]
    exact stream?_setStream_self present none
  · cases present : fanout.stream? stream with
    | none => exact stream?_setStream_none present
    | some attachment => exact stream?_setStream_self present none

/-- Whoever is still given items has not been interrupted, and nothing follows an interruption. -/
structure Orderly (fanout : Fanout) (stream : Nat) : Prop where
  going : fanout.attends stream = true → ∀ interruption, .error interruption ∉ fanout.queue stream
  last : ∀ before interruption behind, fanout.queue stream = before ++ .error interruption :: behind → behind = []

theorem error_not_mem (published : List Message) (interruption : Interruption) :
    .error interruption ∉ published.map (fun message => (Except.ok message : Item)) := by
  intro member
  obtain ⟨message, -, impossible⟩ := List.mem_map.mp member
  cases impossible

theorem orderly_attending {fanout : Fanout} {stream : Nat} {items : List Item} {published : List Message}
    (seen : items ++ fanout.queue stream = published.map .ok) : fanout.Orderly stream := by
  have going (interruption : Interruption) : .error interruption ∉ fanout.queue stream := by
    intro member
    exact error_not_mem published interruption (seen ▸ List.mem_append_right items member)
  refine ⟨fun _ => going, fun before interruption behind parts => ?_⟩
  exact absurd (parts ▸ List.mem_append_right before List.mem_cons_self) (going interruption)

theorem orderly_ended {fanout : Fanout} {stream : Nat} {items : List Item} {published : List Message}
    {ending : Interruption} (silent : fanout.attends stream = false)
    (seen : items ++ fanout.queue stream = published.map .ok ++ [.error ending]) : fanout.Orderly stream := by
  refine ⟨fun attends => ?_, fun before interruption behind parts => ?_⟩
  · rw [silent] at attends
    cases attends
  · rcases List.eq_nil_or_concat behind with nothing | ⟨init, last, more⟩
    · exact nothing
    · rw [parts, more, List.concat_eq_append, ← List.cons_append, ← List.append_assoc, ← List.append_assoc] at seen
      have front := (List.append_inj' seen rfl).1
      exact absurd (front ▸ List.mem_append_right _ List.mem_cons_self) (error_not_mem published interruption)

/-- What a stream that has joined does by polls of its own: it takes the first items of its queue. -/
structure Draws (stream : Nat) (items : List Item) (before after : Fanout) : Prop where
  joined : after.Joined stream
  queue : before.queue stream = items ++ after.queue stream
  attends : after.attends stream = before.attends stream
  pump : before.attends stream = true → after.pump = before.pump
  cancelled : after.cancelled = before.cancelled

private theorem Draws.orderly {stream : Nat} {items : List Item} {before after : Fanout} (draws : Draws stream items before after)
    (orderly : before.Orderly stream) : after.Orderly stream := by
  refine ⟨fun attends interruption member => ?_, fun first interruption behind parts => ?_⟩
  · apply orderly.going (draws.attends ▸ attends) interruption
    rw [draws.queue]
    exact List.mem_append_right _ member
  · apply orderly.last (items ++ first) interruption behind
    rw [draws.queue, parts, List.append_assoc]

private theorem Draws.trans {stream : Nat} {first second : List Item} {a b c : Fanout} (early : Draws stream first a b)
    (late : Draws stream second b c) : Draws stream (first ++ second) a c := by
  refine ⟨late.joined, ?_, late.attends.trans early.attends, fun attends => ?_, late.cancelled.trans early.cancelled⟩
  · rw [early.queue, late.queue, List.append_assoc]
  · exact (late.pump (early.attends.trans attends)).trans (early.pump attends)

private theorem Draws.nothing {stream : Nat} {fanout : Fanout} (joined : fanout.Joined stream) : Draws stream [] fanout fanout :=
  ⟨joined, rfl, rfl, fun _ => rfl, rfl⟩

private theorem ended_draws {fanout : Fanout} {stream consumer : Nat} {queued : List Item}
    (present : fanout.stream? stream = some (.attached consumer queued)) (gone : consumer ∉ fanout.consumers) :
    Draws stream queued fanout ((fanout.setStream stream (some .done)).detach consumer) := by
  obtain ⟨consumers, pump, detached, -, -, -, idle⟩ := detach_eq (fanout.setStream stream (some .done)) consumer
  obtain ⟨rfl, rfl⟩ := idle gone
  have done : ((fanout.setStream stream (some .done)).detach consumer).stream? stream = some .done := by
    rw [detached]
    exact stream?_setStream_self present _
  have unheard : fanout.attends stream = false := by
    simp [attends, consumer?, present, Attachment.consumer?, gone]
  refine ⟨⟨.done, done, nofun⟩, ?_, ?_, ?_, by rw [detached]; rfl⟩
  · rw [queue, queue, present, done]
    exact (List.append_nil _).symm
  · rw [unheard, attends, consumer?, done]
    rfl
  · rw [unheard]
    nofun

theorem poll_draws {fanout : Fanout} {stream : Nat} (joined : fanout.Joined stream) (orderly : fanout.Orderly stream) :
    Draws stream (fanout.poll stream).1.items fanout (fanout.poll stream).2 := by
  unfold poll
  split
  next absent => exact absurd absent joined.present
  · exact .nothing joined
  next fresh => exact absurd fresh joined.attached
  next consumer present =>
    split
    · exact .nothing joined
    next gone => exact ended_draws present (mt List.contains_iff_mem.mpr gone)
  next consumer message queued present =>
    have next := stream?_setStream_self present (some (.attached consumer queued))
    refine ⟨⟨_, next, nofun⟩, ?_, ?_, fun _ => rfl, rfl⟩
    · rw [queue, queue, present, next]
      rfl
    · rw [attends, attends, consumer?, consumer?, present, next]
      rfl
  next consumer interruption behind present =>
    have waits : fanout.queue stream = .error interruption :: behind := by
      rw [queue, present]
      rfl
    cases orderly.last [] interruption behind waits
    refine ended_draws present fun listed => ?_
    have attends : fanout.attends stream = true := attends_iff.mpr ⟨consumer, by rw [consumer?, present]; rfl, listed⟩
    exact orderly.going attends interruption (waits ▸ List.mem_cons_self)

theorem attach_own {fanout : Fanout} {stream : Nat} (present : fanout.stream? stream = some .detached) :
    (fanout.attach stream).attends stream = true ∧ (fanout.attach stream).queue stream = [] := by
  obtain ⟨generation, pump, attached, -, -⟩ := attach_eq fanout stream
  have joined : (fanout.attach stream).stream? stream = some (.attached fanout.nextConsumer []) := by
    rw [attached]
    exact stream?_setStream_self present _
  refine ⟨attends_iff.mpr ⟨fanout.nextConsumer, by rw [consumer?, joined]; rfl, ?_⟩, by rw [queue, joined]; rfl⟩
  rw [attached]
  exact List.mem_append_right _ List.mem_cons_self

theorem poll_detached {fanout : Fanout} {stream : Nat} (present : fanout.stream? stream = some .detached) :
    fanout.poll stream =
      if fanout.cancelled then (.ready (.error .cancelled), fanout.setStream stream (some .done))
      else (.pending, fanout.attach stream) := by
  unfold poll
  rw [present]

/-- What the first step of a stream can come to: it attaches, or hears that it has come too late. -/
inductive Enters (stream : Nat) (before : Fanout) : List Item → Fanout → Prop where
  | attaches (going : before.cancelled = false) : Enters stream before [] (before.attach stream)
  | refused {after} (cancelled : before.cancelled = true) (joined : after.Joined stream) (queue : after.queue stream = [])
      (attends : after.attends stream = false) (still : after.cancelled = true) :
    Enters stream before [.error .cancelled] after

theorem poll_enters {fanout : Fanout} {stream : Nat} (present : fanout.stream? stream = some .detached) :
    Enters stream fanout (fanout.poll stream).1.items (fanout.poll stream).2 := by
  rw [poll_detached present]
  have done := stream?_setStream_self present (some .done)
  split
  next cancelled =>
    refine .refused cancelled ⟨.done, done, nofun⟩ ?_ ?_ cancelled
    · rw [queue, done]
      rfl
    · rw [attends, consumer?, done]
      rfl
  next going => exact .attaches (Bool.eq_false_iff.mpr going)

theorem stream?_openStream {fanout : Fanout} {stream : Nat} (other : stream ≠ fanout.streams.length) :
    fanout.openStream.2.stream? stream = fanout.stream? stream := by
  have same : (fanout.streams ++ [some .detached])[stream]? = fanout.streams[stream]? := by
    rcases Nat.lt_or_gt_of_ne other with inside | outside
    · rw [List.getElem?_append_left inside]
    · rw [List.getElem?_eq_none (by simp; omega), List.getElem?_eq_none (by omega)]
  exact congrArg Option.join same

theorem stream?_openStream_self (fanout : Fanout) :
    fanout.openStream.2.stream? fanout.streams.length = some .detached := by
  simp [stream?, openStream]

theorem consumer?_openStream (fanout : Fanout) (stream : Nat) :
    fanout.openStream.2.consumer? stream = fanout.consumer? stream := by
  by_cases new : stream = fanout.streams.length
  · subst new
    have absent : fanout.stream? fanout.streams.length = none := by simp [stream?]
    rw [consumer?, consumer?, stream?_openStream_self, absent]
    rfl
  · rw [consumer?, consumer?, stream?_openStream new]

theorem openStream_spares {fanout : Fanout} {stream : Nat} (other : stream ≠ fanout.streams.length) :
    Spares stream fanout fanout.openStream.2 := by
  refine ⟨stream?_openStream other, ?_, fun _ => rfl, id⟩
  rw [attends, attends, consumer?_openStream]
  rfl

theorem openStream_sound {fanout : Fanout} (sound : fanout.Sound) : fanout.openStream.2.Sound :=
  ⟨fun stream consumer owned => sound.numbered stream consumer (consumer?_openStream fanout stream ▸ owned),
    fun a b consumer first second => sound.apart a b consumer (consumer?_openStream fanout a ▸ first)
      (consumer?_openStream fanout b ▸ second), sound.served⟩

theorem stream?_deliver (fanout : Fanout) (item : Item) (stream : Nat) :
    (fanout.deliver item).stream? stream = (fanout.stream? stream).map fun
      | .attached consumer queued =>
        .attached consumer (if fanout.consumers.contains consumer then queued ++ [item] else queued)
      | other => other := by
  unfold deliver stream?
  rw [List.getElem?_map]
  cases fanout.streams[stream]? with
  | none => rfl
  | some slot =>
    cases slot with
    | none => rfl
    | some attachment =>
      cases attachment with
      | attached consumer queued =>
        simp only [Option.map_some, Option.join_some]
        split <;> rfl
      | _ => rfl

theorem consumer?_deliver (fanout : Fanout) (item : Item) (stream : Nat) :
    (fanout.deliver item).consumer? stream = fanout.consumer? stream := by
  rw [consumer?, consumer?, stream?_deliver]
  cases fanout.stream? stream with
  | none => rfl
  | some attachment => cases attachment <;> rfl

theorem attends_deliver (fanout : Fanout) (item : Item) (stream : Nat) :
    (fanout.deliver item).attends stream = fanout.attends stream := by
  rw [attends, attends, consumer?_deliver]
  rfl

theorem queue_deliver {fanout : Fanout} {stream : Nat} (attends : fanout.attends stream = true) (item : Item) :
    (fanout.deliver item).queue stream = fanout.queue stream ++ [item] := by
  obtain ⟨consumer, owned, listed⟩ := attends_iff.mp attends
  obtain ⟨attachment, present, held⟩ := Option.bind_eq_some_iff.mp owned
  cases attachment with
  | attached holder queued =>
    cases held
    rw [queue, queue, stream?_deliver, present]
    simp [Attachment.queue, listed]
  | _ => cases held

theorem deliver_spares {fanout : Fanout} {stream : Nat} (silent : fanout.attends stream = false) (item : Item) :
    Spares stream fanout (fanout.deliver item) := by
  refine ⟨?_, attends_deliver fanout item stream, fun _ => rfl, id⟩
  rw [stream?_deliver]
  cases present : fanout.stream? stream with
  | none => rfl
  | some attachment =>
    cases attachment with
    | attached consumer queued =>
      rw [attends, consumer?, present] at silent
      have unlisted : fanout.consumers.contains consumer = false := silent
      simp only [Option.map_some, unlisted, Bool.false_eq_true, if_false]
    | _ => rfl

theorem Sound.deliver {fanout : Fanout} (sound : fanout.Sound) (item : Item) : (fanout.deliver item).Sound :=
  ⟨fun stream consumer owned => sound.numbered stream consumer (consumer?_deliver fanout item stream ▸ owned),
    fun a b consumer first second => sound.apart a b consumer (consumer?_deliver fanout item a ▸ first)
      (consumer?_deliver fanout item b ▸ second), sound.served⟩

def deliverAll (fanout : Fanout) (messages : List Message) : Fanout :=
  messages.foldl (fun current message => current.deliver (.ok message)) fanout

theorem pump_deliverAll (messages : List Message) (fanout : Fanout) : (fanout.deliverAll messages).pump = fanout.pump := by
  induction messages generalizing fanout with
  | nil => rfl
  | cons message messages ih => exact ih _

theorem attends_deliverAll (messages : List Message) (fanout : Fanout) (stream : Nat) :
    (fanout.deliverAll messages).attends stream = fanout.attends stream := by
  induction messages generalizing fanout with
  | nil => rfl
  | cons message messages ih => exact (ih _).trans (attends_deliver fanout _ stream)

theorem queue_deliverAll (messages : List Message) {fanout : Fanout} {stream : Nat}
    (attends : fanout.attends stream = true) :
    (fanout.deliverAll messages).queue stream = fanout.queue stream ++ messages.map .ok := by
  induction messages generalizing fanout with
  | nil => exact (List.append_nil _).symm
  | cons message messages ih =>
    have given := ih ((attends_deliver fanout (.ok message) stream).trans attends)
    rw [queue_deliver attends, List.append_assoc] at given
    exact given

theorem deliverAll_spares (messages : List Message) {fanout : Fanout} {stream : Nat}
    (silent : fanout.attends stream = false) : Spares stream fanout (fanout.deliverAll messages) := by
  induction messages generalizing fanout with
  | nil => exact .refl stream fanout
  | cons message messages ih =>
    exact (deliver_spares silent _).trans (ih ((attends_deliver fanout _ stream).trans silent))

theorem Sound.deliverAll (messages : List Message) {fanout : Fanout} (sound : fanout.Sound) :
    (fanout.deliverAll messages).Sound := by
  induction messages generalizing fanout with
  | nil => exact sound
  | cons message messages ih => exact ih (sound.deliver _)

def interrupt (fanout : Fanout) (interruption : Interruption) : Fanout :=
  { fanout.deliver (.error interruption) with consumers := [], pump := none }

theorem Sound.interrupt {fanout : Fanout} (sound : fanout.Sound) (interruption : Interruption) :
    (fanout.interrupt interruption).Sound :=
  ⟨(sound.deliver (.error interruption)).numbered, (sound.deliver (.error interruption)).apart, fun left => absurd rfl left⟩

theorem attends_interrupt (fanout : Fanout) (interruption : Interruption) (stream : Nat) :
    (fanout.interrupt interruption).attends stream = false := by
  apply Bool.eq_false_iff.mpr
  intro attends
  obtain ⟨consumer, -, listed⟩ := attends_iff.mp attends
  cases listed

theorem interrupt_spares {fanout : Fanout} {stream : Nat} (silent : fanout.attends stream = false)
    (interruption : Interruption) : Spares stream fanout (fanout.interrupt interruption) := by
  have delivered := deliver_spares silent (.error interruption)
  refine ⟨delivered.same, ?_, fun attends => ?_, delivered.cancelled⟩
  · rw [attends_interrupt, silent]
  · rw [silent] at attends
    cases attends

theorem queue_interrupt {fanout : Fanout} {stream : Nat} (attends : fanout.attends stream = true)
    (interruption : Interruption) :
    (fanout.interrupt interruption).queue stream = fanout.queue stream ++ [.error interruption] :=
  queue_deliver attends (.error interruption)

theorem interrupt_joined {fanout : Fanout} {stream : Nat} (attends : fanout.attends stream = true)
    (interruption : Interruption) : (fanout.interrupt interruption).Joined stream := by
  have joined : (fanout.deliver (.error interruption)).Joined stream :=
    attends_joined ((attends_deliver fanout _ stream).trans attends)
  exact joined

theorem publish_ok {fanout : Fanout} {generation : Nat} (current : fanout.pump = some generation) (message : Message) :
    fanout.publish generation (.ok message) = fanout.deliver (.ok message) := if_pos current

theorem publish_error {fanout : Fanout} {generation : Nat} (current : fanout.pump = some generation)
    (interruption : Interruption) :
    fanout.publish generation (.error interruption) = fanout.interrupt interruption := if_pos current

end Fanout

namespace Session
open Fanout (Spares Draws)

theorem poll_eq (session : Session) (stream : Nat) : (session.poll stream).1 = (session.fanout.poll stream).1 ∧
    (session.poll stream).2.fanout = (session.fanout.poll stream).2 := by
  unfold poll
  dsimp only
  split <;> exact ⟨rfl, rfl⟩

theorem fanout_drop (session : Session) (stream : Nat) : (session.drop stream).fanout = session.fanout.drop stream := by
  unfold drop
  dsimp only
  split <;> rfl

theorem fanout_publish (session : Session) (generation : Nat) (item : Item) :
    (session.publish generation item).fanout = session.fanout.publish generation item := by
  unfold publish
  cases item with
  | ok message => rfl
  | error interruption => dsimp only; split <;> rfl

/-- Whatever every poll of a stream keeps is kept by polling it until it waits or has ended. -/
theorem drainOnto_keeps {kept : Fanout → Prop} {stream : Nat} (polled : ∀ fanout, kept fanout → kept (fanout.poll stream).2)
    (items : List Item) (more : Nat) (session : Session) (before : kept session.fanout) :
    kept (session.drainOnto items more stream).2.2.fanout := by
  have next : kept (session.poll stream).2.fanout := (poll_eq session stream).2 ▸ polled _ before
  induction more generalizing items session with
  | zero => exact next
  | succ more ih =>
    unfold drainOnto
    split
    next found =>
      rw [found] at next
      exact ih _ _ next ((poll_eq _ stream).2 ▸ polled _ next)
    next found =>
      rw [found] at next
      exact next

theorem drainOnto_draws {stream : Nat} (items : List Item) (more : Nat) (session : Session)
    (joined : session.fanout.Joined stream) (orderly : session.fanout.Orderly stream) :
    ∃ drawn, (session.drainOnto items more stream).1 ++ (session.drainOnto items more stream).2.1.items =
        items.reverse ++ drawn ∧
      Draws stream drawn session.fanout (session.drainOnto items more stream).2.2.fanout := by
  have draws := Fanout.poll_draws joined orderly
  rw [← (poll_eq session stream).1, ← (poll_eq session stream).2] at draws
  induction more generalizing items session with
  | zero => exact ⟨_, rfl, draws⟩
  | succ more ih =>
    unfold drainOnto
    split
    next item after found =>
      rw [found] at draws
      have again := Fanout.poll_draws draws.joined (draws.orderly orderly)
      rw [← (poll_eq after stream).1, ← (poll_eq after stream).2] at again
      obtain ⟨drawn, yielded, later⟩ := ih (item :: items) after draws.joined (draws.orderly orderly) again
      exact ⟨item :: drawn, by simpa using yielded, draws.trans later⟩
    next found =>
      rw [found] at draws
      exact ⟨_, rfl, draws⟩

theorem drain_enters {session : Session} {stream : Nat} (present : session.fanout.stream? stream = some .detached) :
    Fanout.Enters stream session.fanout ((session.drain stream).1 ++ (session.drain stream).2.1.items)
      (session.drain stream).2.2.fanout := by
  have once : session.fanout.backlog stream = 1 := by
    rw [Fanout.backlog, present]
  have entered := Fanout.poll_enters present
  rw [← (poll_eq session stream).1, ← (poll_eq session stream).2] at entered
  unfold drain
  rw [once, drainOnto]
  split
  next item after found =>
    rw [found] at entered
    cases entered with
    | refused cancelled joined queue attends still =>
      have orderly : after.fanout.Orderly stream := by
        refine ⟨fun going => ?_, fun before interruption behind parts => ?_⟩
        · rw [attends] at going
          cases going
        · rw [queue] at parts
          simp at parts
      obtain ⟨drawn, yielded, draws⟩ := drainOnto_draws [.error .cancelled] 0 after joined orderly
      obtain ⟨rfl, rest⟩ := List.append_eq_nil_iff.mp (draws.queue.symm.trans queue)
      rw [yielded]
      exact .refused cancelled draws.joined rest (draws.attends.trans attends) (draws.cancelled.trans still)
  next last after other found =>
    rw [found] at entered
    exact entered

end Session

end Subscriber
