import Subscriber.Proofs.Registrations
import Subscriber.Proofs.StreamLives

/-! Who is on the list of a fan-out. Whatever streams and pumps do, pumps that were stopped long ago among them, every
consumer on the list belongs to one attached stream, and there is a pump exactly for as long as there is a consumer. -/

namespace Subscriber

namespace Fanout

/-- What can be done to a fan-out by its streams, by the pump of any generation, at work or not, and by its session. -/
inductive Turn where
  | openStream
  | poll (stream : Nat)
  | drop (stream : Nat)
  | publish (generation : Nat) (item : Item)
  | finish (generation : Nat)
  | cancel

def turn (fanout : Fanout) : Turn → Fanout
  | .openStream => fanout.openStream.2
  | .poll stream => (fanout.poll stream).2
  | .drop stream => fanout.drop stream
  | .publish generation item => fanout.publish generation item
  | .finish generation => fanout.finish generation
  | .cancel => fanout.cancel

def turns (fanout : Fanout) (list : List Turn) : Fanout := list.foldl turn fanout

theorem turns_concat (fanout : Fanout) (list : List Turn) (next : Turn) :
    fanout.turns (list ++ [next]) = (fanout.turns list).turn next := by
  rw [turns, List.foldl_append]
  rfl

theorem turns_append (fanout : Fanout) (early late : List Turn) :
    fanout.turns (early ++ late) = (fanout.turns early).turns late := List.foldl_append

theorem publish_stale {fanout : Fanout} {generation : Nat} (stale : fanout.pump ≠ some generation) (item : Item) :
    fanout.publish generation item = fanout := if_neg stale

theorem finish_stale {fanout : Fanout} {generation : Nat} (stale : fanout.pump ≠ some generation) :
    fanout.finish generation = fanout := if_neg stale

theorem finish_current {fanout : Fanout} {generation : Nat} (current : fanout.pump = some generation) :
    fanout.finish generation = { fanout with consumers := [], pump := none } := if_pos current

def Turn.event (fanout : Fanout) : Turn → Event
  | .openStream => .openStream
  | .poll stream => .poll stream
  | .drop stream => .drop stream
  | .publish generation item => if fanout.pump = some generation then .publish item else .late generation (some item)
  | .finish generation => if fanout.pump = some generation then .finish else .late generation none
  | .cancel => .cancel

theorem turn_eq_act (fanout : Fanout) (next : Turn) : fanout.turn next = fanout.act (next.event fanout) := by
  cases next with
  | publish generation item =>
    by_cases current : fanout.pump = some generation
    · rw [turn, Turn.event, if_pos current, act, current]
    · rw [turn, Turn.event, if_neg current, act_late, publish_stale current]
  | finish generation =>
    by_cases current : fanout.pump = some generation
    · rw [turn, Turn.event, if_pos current, act, current]
    · rw [turn, Turn.event, if_neg current, act_late, finish_stale current]
  | _ => rfl

/-- The list of consumers is in order. -/
structure Tidy (fanout : Fanout) : Prop where
  sound : fanout.Sound
  manned : fanout.Manned
  current : ∀ generation, fanout.pump = some generation → generation = fanout.generation
  distinct : fanout.consumers.Nodup
  owned : ∀ consumer ∈ fanout.consumers, ∃ stream, fanout.consumer? stream = some consumer
  closed : fanout.cancelled = true → fanout.consumers = []

namespace Tidy

variable {fanout : Fanout}

theorem start : Tidy {} :=
  ⟨⟨nofun, nofun, fun left => absurd rfl left⟩, iff_of_true rfl rfl, nofun, List.nodup_nil, nofun, fun _ => rfl⟩

private theorem emptied {after : Fanout} (sound : after.Sound) (stopped : after.pump = none) (nobody : after.consumers = []) :
    after.Tidy := by
  refine ⟨sound, iff_of_true stopped nobody, fun generation running => ?_, ?_, fun consumer listed => ?_, fun _ => nobody⟩
  · cases stopped.symm.trans running
  · rw [nobody]
    exact List.nodup_nil
  · rw [nobody] at listed
    cases listed

/-- A stream that is on the list keeps its number; the others may change as they like. -/
theorem setStream (tidy : fanout.Tidy) {stream : Nat} {attachment : Option Attachment}
    (kept : ∀ consumer, attachment.bind Attachment.consumer? = some consumer → fanout.consumer? stream = some consumer)
    (stays : ∀ consumer ∈ fanout.consumers, fanout.consumer? stream = some consumer →
      attachment.bind Attachment.consumer? = some consumer) :
    (fanout.setStream stream attachment).Tidy := by
  refine ⟨tidy.sound.setStream kept, tidy.manned, tidy.current, tidy.distinct, fun consumer listed => ?_, tidy.closed⟩
  obtain ⟨owner, owns⟩ := tidy.owned consumer listed
  refine ⟨owner, ?_⟩
  by_cases own : owner = stream
  · subst own
    obtain ⟨old, present, -⟩ := Option.bind_eq_some_iff.mp owns
    rw [consumer?, stream?_setStream_self present]
    exact stays consumer listed owns
  · rw [consumer?, stream?_setStream_ne own]
    exact owns

theorem leave (tidy : fanout.Tidy) {stream consumer : Nat} (owns : fanout.consumer? stream = some consumer)
    {attachment : Option Attachment} (none : attachment.bind Attachment.consumer? = none) :
    ((fanout.setStream stream attachment).detach consumer).Tidy := by
  obtain ⟨consumers, pump, detached, -, served, fewer, -⟩ := detach_eq (fanout.setStream stream attachment) consumer
  have sound : ((fanout.setStream stream attachment).detach consumer).Sound :=
    (tidy.sound.setStream fun other held => nomatch none.symm.trans held).detach consumer
  have manned : ((fanout.setStream stream attachment).detach consumer).Manned := (tidy.manned.setStream ..).detach consumer
  have erased : ((fanout.setStream stream attachment).detach consumer).consumers = fanout.consumers.erase consumer := by
    unfold detach
    split
    · rfl
    next unlisted =>
      have absent : consumer ∉ fanout.consumers := fun listed => unlisted (List.contains_iff_mem.mpr listed)
      exact (List.erase_of_not_mem absent).symm
  refine ⟨sound, manned, fun generation running => ?_, ?_, fun other listed => ?_, fun cancelled => ?_⟩
  · have staffed : consumers ≠ [] := by
      rintro rfl
      rw [detached] at manned running
      cases (manned.mpr rfl).symm.trans running
    rw [detached] at running ⊢
    exact tidy.current generation ((served staffed).symm.trans running)
  · rw [erased]
    exact tidy.distinct.erase consumer
  · rw [erased] at listed
    obtain ⟨different, before⟩ := (tidy.distinct.mem_erase_iff).mp listed
    obtain ⟨owner, owned⟩ := tidy.owned other before
    have elsewhere : owner ≠ stream := by
      rintro rfl
      exact different (Option.some.inj (owned.symm.trans owns))
    have kept : (fanout.setStream stream attachment).consumer? owner = some other := by
      rw [consumer?, stream?_setStream_ne elsewhere]
      exact owned
    refine ⟨owner, ?_⟩
    rw [detached]
    exact kept
  · have still : fanout.cancelled = true := by
      rw [detached] at cancelled
      exact cancelled
    rw [erased, tidy.closed still]
    rfl

private theorem attach (tidy : fanout.Tidy) {stream : Nat} (fresh : fanout.stream? stream = some .detached)
    (going : fanout.cancelled = false) : (fanout.attach stream).Tidy := by
  obtain ⟨generation, pump, attached, -, -⟩ := attach_eq fanout stream
  have current : ∀ generation, (fanout.attach stream).pump = some generation →
      generation = (fanout.attach stream).generation := by
    intro generation same
    unfold Fanout.attach at same ⊢
    cases running : fanout.pump with
    | some known =>
      rw [running] at same
      cases same
      exact tidy.current generation running
    | none =>
      rw [running] at same
      cases same
      rfl
  have joins : (fanout.attach stream).consumer? stream = some fanout.nextConsumer := by
    rw [attached, consumer?]
    change ((fanout.setStream stream _).stream? stream).bind _ = _
    rw [stream?_setStream_self fresh]
    rfl
  have others {owner : Nat} (different : owner ≠ stream) :
      (fanout.attach stream).consumer? owner = fanout.consumer? owner := by
    rw [attached, consumer?]
    change ((fanout.setStream stream _).stream? owner).bind _ = _
    rw [stream?_setStream_ne different]
    rfl
  have listed : (fanout.attach stream).consumers = fanout.consumers ++ [fanout.nextConsumer] := by rw [attached]
  refine ⟨tidy.sound.attach fresh, attach_manned fanout stream, current, ?_, fun consumer member => ?_, fun cancelled => ?_⟩
  · rw [listed]
    refine List.nodup_append.mpr ⟨tidy.distinct, List.nodup_singleton _, fun consumer member other new => ?_⟩
    obtain ⟨owner, owns⟩ := tidy.owned consumer member
    have older := tidy.sound.numbered owner consumer owns
    rw [List.mem_singleton.mp new]
    omega
  · rw [listed] at member
    rcases List.mem_append.mp member with before | new
    · obtain ⟨owner, owns⟩ := tidy.owned consumer before
      have different : owner ≠ stream := by
        rintro rfl
        rw [consumer?, fresh] at owns
        cases owns
      exact ⟨owner, (others different).trans owns⟩
    · rw [List.mem_singleton.mp new]
      exact ⟨stream, joins⟩
  · rw [attached] at cancelled
    cases going.symm.trans cancelled

private theorem deliver (tidy : fanout.Tidy) (item : Item) : (fanout.deliver item).Tidy := by
  refine ⟨tidy.sound.deliver item, tidy.manned, tidy.current, tidy.distinct, fun consumer listed => ?_, tidy.closed⟩
  obtain ⟨owner, owns⟩ := tidy.owned consumer listed
  exact ⟨owner, (consumer?_deliver fanout item owner).trans owns⟩

private theorem openStream (tidy : fanout.Tidy) : fanout.openStream.2.Tidy := by
  refine ⟨openStream_sound tidy.sound, tidy.manned, tidy.current, tidy.distinct, fun consumer listed => ?_, tidy.closed⟩
  obtain ⟨owner, owns⟩ := tidy.owned consumer listed
  exact ⟨owner, (consumer?_openStream fanout owner).trans owns⟩

private theorem poll (tidy : fanout.Tidy) (stream : Nat) : (fanout.poll stream).2.Tidy := by
  unfold Fanout.poll
  split
  · exact tidy
  · exact tidy
  next fresh =>
    split
    · refine tidy.setStream (fun _ => nofun) fun consumer _ owns => ?_
      rw [consumer?, fresh] at owns
      cases owns
    next going => exact tidy.attach fresh (Bool.eq_false_iff.mpr going)
  next consumer present =>
    split
    · exact tidy
    · exact tidy.leave (by rw [consumer?, present]; rfl) rfl
  next consumer message queued present =>
    have owns : fanout.consumer? stream = some consumer := by
      rw [consumer?, present]
      rfl
    exact tidy.setStream (fun other same => same ▸ owns) fun other _ owned => owned ▸ owns.symm
  next consumer interruption queued present => exact tidy.leave (by rw [consumer?, present]; rfl) rfl

private theorem drop (tidy : fanout.Tidy) (stream : Nat) : (fanout.drop stream).Tidy := by
  unfold Fanout.drop
  split
  next consumer queued present => exact tidy.leave (by rw [consumer?, present]; rfl) rfl
  next unattached =>
    refine tidy.setStream (fun consumer owns => absurd owns.symm (Option.some_ne_none consumer)) fun consumer _ owns => ?_
    obtain ⟨attachment, present, held⟩ := Option.bind_eq_some_iff.mp owns
    cases attachment with
    | attached other queued => exact absurd present (unattached other queued)
    | _ => cases held

private theorem turn (tidy : fanout.Tidy) (next : Turn) : (fanout.turn next).Tidy := by
  cases next with
  | openStream => exact tidy.openStream
  | poll stream => exact tidy.poll stream
  | drop stream => exact tidy.drop stream
  | publish generation item =>
    by_cases current : fanout.pump = some generation
    · cases item with
      | ok message =>
        rw [Fanout.turn, publish_ok current]
        exact tidy.deliver (.ok message)
      | error interruption =>
        rw [Fanout.turn, publish_error current]
        exact emptied (tidy.sound.interrupt interruption) rfl rfl
    · rwa [Fanout.turn, publish_stale current]
  | finish generation =>
    by_cases current : fanout.pump = some generation
    · rw [Fanout.turn, finish_current current]
      exact emptied ⟨tidy.sound.numbered, tidy.sound.apart, fun left => absurd rfl left⟩ rfl rfl
    · rwa [Fanout.turn, finish_stale current]
  | cancel => exact emptied (tidy.sound.act .cancel) rfl rfl

theorem turns (list : List Turn) (tidy : fanout.Tidy) : (fanout.turns list).Tidy := by
  induction list generalizing fanout with
  | nil => exact tidy
  | cons next list ih => exact ih (tidy.turn next)

end Tidy

end Fanout

end Subscriber
