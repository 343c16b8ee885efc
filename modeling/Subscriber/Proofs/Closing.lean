import Subscriber.Proofs.Asides
import Subscriber.Proofs.Deeds
import Subscriber.Proofs.Outlook
import Subscriber.Proofs.SessionAgreement

/-! Cancelled sessions. From the first step of a cancellation on nothing is added any more, and behind the last one
nothing is left that anything could be taken from. -/

namespace Subscriber

namespace Fanout

def Event.Shared : Event → Prop
  | .poll _ | .drop _ => False
  | _ => True

/-- Nobody is given anything any more, nor will be. -/
structure Silent (fanout : Fanout) : Prop where
  cancelled : fanout.cancelled = true
  alone : fanout.consumers = []
  idle : fanout.pump = none

section
variable {fanout : Fanout}

theorem Silent.setStream (silent : fanout.Silent) (stream : Nat) (attachment : Option Attachment) :
    (fanout.setStream stream attachment).Silent := ⟨silent.cancelled, silent.alone, silent.idle⟩

theorem Silent.detach (silent : fanout.Silent) (consumer : Nat) : fanout.detach consumer = fanout := by
  refine if_neg ?_
  rw [silent.alone]
  exact Bool.false_ne_true

private theorem Silent.poll (silent : fanout.Silent) (stream : Nat) : (fanout.poll stream).2.Silent := by
  have emptied (attachment : Option Attachment) (consumer : Nat) :
      ((fanout.setStream stream attachment).detach consumer).Silent := by
    rw [(silent.setStream stream attachment).detach]
    exact silent.setStream stream attachment
  unfold Fanout.poll
  split
  · exact silent
  · exact silent
  · rw [if_pos silent.cancelled]
    exact silent.setStream _ _
  · split
    · exact silent
    · exact emptied _ _
  · exact silent.setStream _ _
  · exact emptied _ _

private theorem Silent.drop (silent : fanout.Silent) (stream : Nat) : (fanout.drop stream).Silent := by
  unfold Fanout.drop
  split
  · rw [(silent.setStream stream none).detach]
    exact silent.setStream stream none
  · exact silent.setStream stream none

private theorem Silent.act (silent : fanout.Silent) (event : Event) : (fanout.act event).Silent := by
  cases event with
  | openStream => exact ⟨silent.cancelled, silent.alone, silent.idle⟩
  | poll stream => exact silent.poll stream
  | drop stream => exact silent.drop stream
  | publish item =>
    unfold Fanout.act
    rw [silent.idle]
    exact silent
  | finish =>
    unfold Fanout.act
    rw [silent.idle]
    exact silent
  | late generation found => rwa [act_late]
  | cancel => exact ⟨rfl, rfl, rfl⟩

end

end Fanout

def Deed.answers (deeds : List Deed) : Nat :=
  deeds.countP fun
    | .hears .. => true
    | .starts _ | .asks .. => false

private theorem Deed.answers_append (deeds : List Deed) (verb : Verb) (targets : List Bytes) (heard : Session)
    (answer : Except Error Unit) :
    Deed.answers (deeds ++ [.asks verb targets, .hears heard answer]) = Deed.answers deeds + 1 := by
  unfold Deed.answers
  rw [List.countP_append]
  rfl

namespace Session
open Fanout (Silent Quits)

section
variable {holds other : Session → Prop}

theorem Lasting.const (fact : Prop) : Lasting fun _ => fact :=
  ⟨⟨⟨fun _ _ => id, fun _ _ _ => id⟩, fun _ => id, fun _ _ _ => id, fun _ _ => id, fun _ _ => id⟩, fun _ _ => id,
    fun _ _ => id⟩

theorem Lasting.and (first : Lasting holds) (second : Lasting other) : Lasting fun session => holds session ∧ other session where
  start session operation both := ⟨first.start session operation both.1, second.start session operation both.2⟩
  resume session phase answer both := ⟨first.resume session phase answer both.1, second.resume session phase answer both.2⟩
  openStream session both := ⟨first.openStream session both.1, second.openStream session both.2⟩
  drop session stream both := ⟨first.drop session stream both.1, second.drop session stream both.2⟩
  publish session generation item both :=
    ⟨first.publish session generation item both.1, second.publish session generation item both.2⟩
  finish session generation both := ⟨first.finish session generation both.1, second.finish session generation both.2⟩
  note session notice both := ⟨first.note session notice both.1, second.note session notice both.2⟩
  poll session stream both := ⟨first.poll session stream both.1, second.poll session stream both.2⟩

end

section
variable {kept : Fanout → Prop}

theorem passive_acts (acts : ∀ fanout event, event.Shared → event ≠ .cancel → kept fanout → kept (fanout.act event)) :
    Passive fun session => kept session.fanout := by
  refine ⟨?_, ?_, ?_, fun _ _ => id⟩
  · exact fun session held => acts session.fanout .openStream trivial nofun held
  · intro session generation item held
    rw [fanout_publish]
    by_cases current : session.fanout.pump = some generation
    · have acted := acts session.fanout (.publish item) trivial nofun held
      rw [Fanout.act, current] at acted
      exact acted
    · have still : session.fanout.publish generation item = session.fanout := if_neg current
      rw [still]
      exact held
  · intro session generation held
    have finished : (session.finish generation).fanout = session.fanout.finish generation := by
      unfold Session.finish
      dsimp only
      split <;> rfl
    rw [finished]
    by_cases current : session.fanout.pump = some generation
    · have acted := acts session.fanout .finish trivial (fun same => by cases same) held
      rw [Fanout.act, current] at acted
      exact acted
    · have still : session.fanout.finish generation = session.fanout := if_neg current
      rw [still]
      exact held

theorem stable_acts (acts : ∀ fanout event, event.Shared → kept fanout → kept (fanout.act event)) :
    Stable fun session => kept session.fanout := by
  have quits {before after : Fanout} (quits : Quits before after) (held : kept before) : kept after := by
    rcases quits with rfl | rfl
    · exact held
    · exact acts before .cancel trivial held
  have passive := passive_acts fun fanout event shared _ => acts fanout event shared
  refine ⟨⟨?_, ?_⟩, passive.openStream, passive.publish, passive.finish, passive.note⟩
  · exact fun session operation held => quits (start_quits session operation) held
  · exact fun session phase answer held => quits (resume_quits session phase answer) held

/-- The streams of a session go through the histories of a fan-out. -/
theorem lasting_acts (acts : ∀ fanout event, kept fanout → kept (fanout.act event)) :
    Lasting fun session => kept session.fanout := by
  refine ⟨stable_acts fun fanout event _ => acts fanout event, fun session stream held => ?_, fun session stream held => ?_⟩
  · rw [(poll_eq session stream).2]
    exact acts session.fanout (.poll stream) held
  · rw [fanout_drop]
    exact acts session.fanout (.drop stream) held

end

/-- What calls make of a session that has been cancelled. -/
inductive Ebbs (session : Session) : Session → Prop where
  | still : Ebbs session session
  | noted {after} (ebbs : Ebbs session after) (notice : Notice) : Ebbs session (after.note notice)
  | erased {after} (ebbs : Ebbs session after) (kind : Message.Kind) (names : List Bytes) (sweeping : Bool) :
    Ebbs session (after.update kind false names sweeping)
  | emptied {after} (ebbs : Ebbs session after) (first : Bool) (channels patterns : Except Error Unit) :
    Ebbs session (after.finishCancel first channels patterns).2

section
variable {session after : Session}

theorem Ebbs.cancelPatterns (ebbs : Ebbs session after) (first : Bool) (channels : Except Error Unit) :
    Ebbs session (after.cancelPatterns first channels).2 := by
  unfold Session.cancelPatterns
  split
  · exact ebbs.emptied first channels (.ok ())
  · exact ebbs

private theorem start_ebbs (cancelled : session.cancelled = true) (operation : Operation) :
    Ebbs session (session.start operation).2 := by
  have again : ({ session with cancelled := true } : Session) = session := by rw [← cancelled]
  unfold start
  cases operation with
  | add kind targets =>
    dsimp only
    rw [if_pos cancelled]
    exact .still
  | remove kind targets =>
    dsimp only
    rw [if_pos cancelled]
    exact .still
  | removeAll kind =>
    dsimp only [remove]
    split <;> exact .still
  | cancel =>
    dsimp only
    rw [again]
    split
    · exact Ebbs.still.cancelPatterns _ _
    · exact .still

private theorem resume_ebbs (cancelled : session.cancelled = true) (phase : Phase) (answer : Except Error Unit) :
    Ebbs session (session.resume phase answer).2 := by
  have heard : Ebbs session (session.hear phase answer) := by
    cases answer with
    | ok => exact .still
    | error error => exact .noted .still _
  unfold resume
  dsimp only
  split
  · rw [if_pos ((cancelled_hear session _ _).trans cancelled)]
    exact heard
  · exact heard
  · exact heard
  · exact heard.erased _ _ _
  · exact heard
  · exact (heard.erased _ _ _).cancelPatterns _ _
  · exact heard.cancelPatterns _ _
  · exact (heard.erased _ _ _).emptied _ _ _
  · exact heard.emptied _ _ _

end

/-- What is known of the record of a cancelled session stays true if removals and the end of a cancellation keep it. -/
theorem lasting_record {holds : Session → Prop} (cancelled : ∀ session, holds session → session.cancelled = true)
    (same : ∀ before after, SameRecord before after → holds before → holds after)
    (erased : ∀ session kind names sweeping, holds session → holds (session.update kind false names sweeping))
    (emptied : ∀ session first channels patterns, holds session →
      holds (session.finishCancel first channels patterns).2) : Lasting holds := by
  have ebbed {before after : Session} (ebbs : Ebbs before after) (held : holds before) : holds after := by
    induction ebbs with
    | still => exact held
    | @noted last ebbs notice ih => exact same last (last.note notice) ⟨rfl, rfl, rfl, rfl⟩ ih
    | erased ebbs kind names sweeping ih => exact erased _ kind names sweeping ih
    | emptied ebbs first channels patterns ih => exact emptied _ first channels patterns ih
  refine ⟨⟨⟨?_, ?_⟩, ?_, ?_, ?_, ?_⟩, ?_, ?_⟩
  · exact fun session operation held => ebbed (start_ebbs (cancelled session held) operation) held
  · exact fun session phase answer held => ebbed (resume_ebbs (cancelled session held) phase answer) held
  · exact fun session held => same session _ ⟨rfl, rfl, rfl, rfl⟩ held
  · exact fun session generation item held => same session _ (publish_sameRecord session generation item) held
  · exact fun session generation held => same session _ (finish_sameRecord session generation) held
  · exact fun session notice held => same session _ ⟨rfl, rfl, rfl, rfl⟩ held
  · exact fun session stream held => same session _ (poll_sameRecord session stream) held
  · exact fun session stream held => same session _ (drop_sameRecord session stream) held

section
variable {session : Session}

theorem finishCancel_record (session : Session) (first : Bool) (channels patterns : Except Error Unit) :
    (session.finishCancel first channels patterns).2.channels = {} ∧
      (session.finishCancel first channels patterns).2.patterns = {} ∧
      (session.finishCancel first channels patterns).2.cancelled = session.cancelled ∧
      (session.finishCancel first channels patterns).2.changes = session.changes ∧
      (session.finishCancel first channels patterns).2.fanout = session.fanout.cancel := by
  cases first <;> exact ⟨rfl, rfl, rfl, rfl, rfl⟩

theorem lasting_cancelled : Lasting fun session => session.cancelled = true := by
  refine lasting_record (fun _ => id) (fun before after same held => same.cancelled.trans held) ?_ ?_
  · exact fun session kind names sweeping held => (cancelled_update ..).trans held
  · exact fun session first channels patterns held => (finishCancel_record session first channels patterns).2.2.1.trans held

structure Emptied (session : Session) : Prop where
  cancelled : session.cancelled = true
  channels : session.channels = {}
  patterns : session.patterns = {}

private theorem lasting_emptied : Lasting Emptied := by
  refine lasting_record (fun _ held => held.cancelled) ?_ ?_ ?_
  · exact fun before after same held =>
      ⟨same.cancelled.trans held.cancelled, same.channels.trans held.channels, same.patterns.trans held.patterns⟩
  · intro session kind names sweeping held
    have none (other : Message.Kind) : session.tracked other = {} := by
      cases other
      · exact held.channels
      · exact held.patterns
    have nothing (other : Message.Kind) : (session.update kind false names sweeping).tracked other = {} := by
      refine Targets.eq_empty fun name member => ?_
      rw [tracked_update, none other] at member
      split at member
      · exact List.not_mem_nil ((Targets.mem_eraseAll List.nodup_nil).mp member).2
      · exact List.not_mem_nil member
    exact ⟨(cancelled_update ..).trans held.cancelled, nothing .channel, nothing .pattern⟩
  · intro session first channels patterns held
    obtain ⟨none, nothing, cancelled, -, -⟩ := finishCancel_record session first channels patterns
    exact ⟨cancelled.trans held.cancelled, none, nothing⟩

/-- The session is over, and so are its streams but for what waits for them. -/
structure Closed (session : Session) : Prop extends Emptied session where
  silent : session.fanout.Silent

theorem lasting_closed : Lasting Closed := by
  have silent : Lasting fun session => session.fanout.Silent := lasting_acts fun _ event silent => silent.act event
  have both := lasting_emptied.and silent
  have same : Closed = fun session => Emptied session ∧ session.fanout.Silent :=
    funext fun session => propext ⟨fun closed => ⟨closed.toEmptied, closed.silent⟩, fun both => ⟨both.1, both.2⟩⟩
  exact same ▸ both

theorem finishCancel_closed (cancelled : session.cancelled = true) (first : Bool) (channels patterns : Except Error Unit) :
    Closed (session.finishCancel first channels patterns).2 := by
  obtain ⟨none, nothing, same, -, ended⟩ := finishCancel_record session first channels patterns
  refine ⟨⟨same.trans cancelled, none, nothing⟩, ?_⟩
  rw [ended]
  exact ⟨rfl, rfl, rfl⟩

/-- A cancelled session whose listener has not been told of any addition since it had been told so much. -/
structure Quiet (told : List Change) (session : Session) : Prop where
  cancelled : session.cancelled = true
  changes : ∃ more, session.changes = told ++ more ∧ ∀ change ∈ more, change.added = false

theorem lasting_quiet (told : List Change) : Lasting (Quiet told) := by
  refine lasting_record (fun _ held => held.cancelled) ?_ ?_ ?_
  · intro before after same held
    obtain ⟨more, known, quiet⟩ := held.changes
    exact ⟨same.cancelled.trans held.cancelled, more, same.changes.trans known, quiet⟩
  · intro session kind names sweeping held
    obtain ⟨more, known, quiet⟩ := held.changes
    let removals := ((session.tracked kind).change Targets.erase names).1.map fun entry =>
      { kind, added := false, name := entry.1, count := entry.2, sweeping : Change }
    have told : (session.update kind false names sweeping).changes = session.changes ++ removals := by
      cases kind <;> rfl
    refine ⟨(cancelled_update ..).trans held.cancelled, more ++ removals, ?_, fun change member => ?_⟩
    · rw [told, known, List.append_assoc]
    · rcases List.mem_append.mp member with old | new
      · exact quiet change old
      · obtain ⟨entry, -, rfl⟩ := List.mem_map.mp new
        rfl
  · intro session first channels patterns held
    obtain ⟨-, -, same, unchanged, -⟩ := finishCancel_record session first channels patterns
    obtain ⟨more, known, quiet⟩ := held.changes
    exact ⟨same.trans held.cancelled, more, unchanged.trans known, quiet⟩

end

/-- Takes away all names of one kind, or nothing if there are none. It starts from one session and leads to another,
with an outcome. -/
inductive Sweeps (kind : Message.Kind) (found : Session) : List Deed → Session → Except Error Unit → Prop where
  | nothing (none : (found.tracked kind).sorted = []) : Sweeps kind found [] found (.ok ())
  | asks (heard : Session) (answer : Except Error Unit) (tracked : (found.tracked kind).sorted ≠ []) :
    Sweeps kind found [.asks (.removing kind) (found.tracked kind).sorted, .hears heard answer] heard answer

def outcome (channels patterns : Except Error Unit) : Except Error Unit :=
  match channels with
  | .error error => .error error
  | .ok () => patterns

/-- All that a cancellation does: the channels are swept, then, whatever came of that, the patterns. -/
inductive Swept : List Deed → Except Error Unit → Prop where
  | intro {found between after : Session} {first second : List Deed} {channels patterns : Except Error Unit}
      (channelsSwept : Sweeps .channel found first between channels)
      (patternsSwept : Sweeps .pattern between second after patterns) :
    Swept (.starts found :: (first ++ second)) (outcome channels patterns)

def Cancels (deeds : List Deed) : Progress → Session → Prop
  | .asking (.clearingChannels targets _), session =>
    (∃ found : Session, deeds = [.starts found] ∧ targets = (found.tracked .channel).sorted ∧ targets ≠ []) ∧
      session.cancelled = true
  | .asking (.clearingPatterns targets _ channels), session =>
    (∃ found between first, deeds = .starts found :: first ∧ Sweeps .channel found first between channels ∧
      targets = (between.tracked .pattern).sorted ∧ targets ≠ []) ∧ session.cancelled = true
  | .finished result, session => Swept deeds result ∧ Closed session
  | .asking _, _ => False

theorem lasting_cancels (deeds : List Deed) (progress : Progress) : Lasting (Cancels deeds progress) := by
  cases progress with
  | finished result => exact (Lasting.const _).and lasting_closed
  | asking phase =>
    cases phase with
    | clearingChannels targets first => exact (Lasting.const _).and lasting_cancelled
    | clearingPatterns targets first channels => exact (Lasting.const _).and lasting_cancelled
    | _ => exact Lasting.const False

section
variable {session found between : Session} {first : List Deed} {channels : Except Error Unit}

private theorem cancelPatterns_cancels (cancelled : session.cancelled = true) (swept : Sweeps .channel found first between channels)
    (same : session.patterns = between.patterns) (early : Bool) :
    Cancels (.starts found :: first) (session.cancelPatterns early channels).1 (session.cancelPatterns early channels).2 := by
  have tracked : session.patterns.sorted = (between.tracked .pattern).sorted := congrArg Targets.sorted same
  unfold cancelPatterns
  split
  next none =>
    have last : Sweeps .pattern between [] between (.ok ()) := .nothing (tracked.symm.trans none)
    have whole := Swept.intro swept last
    rw [List.append_nil] at whole
    exact ⟨whole, finishCancel_closed cancelled early channels (.ok ())⟩
  next targets some => exact ⟨⟨found, between, first, rfl, swept, tracked, some⟩, cancelled⟩

private theorem finishCancel_cancels {second : List Deed} {after : Session} {patterns : Except Error Unit}
    (cancelled : session.cancelled = true) (channelsSwept : Sweeps .channel found first between channels)
    (patternsSwept : Sweeps .pattern between second after patterns) (early : Bool) :
    Cancels (.starts found :: (first ++ second)) (session.finishCancel early channels patterns).1
      (session.finishCancel early channels patterns).2 :=
  ⟨.intro channelsSwept patternsSwept, finishCancel_closed cancelled early channels patterns⟩

end

theorem path_cancels : Path .cancel (fun _ => True) Cancels := by
  refine ⟨fun session _ => ?_, fun deeds phase session answer asked => ?_⟩
  · unfold start
    dsimp only
    split
    next none =>
      have swept : Sweeps .channel session [] session (.ok ()) := .nothing none
      have cancelled : ({ session with cancelled := true } : Session).cancelled = true := rfl
      exact cancelPatterns_cancels cancelled swept rfl _
    next some => exact ⟨⟨session, rfl, rfl, some⟩, rfl⟩
  · cases phase with
    | clearingChannels targets early =>
      obtain ⟨⟨found, rfl, rfl, some⟩, cancelled⟩ := asked
      have swept : Sweeps .channel found _ session answer := .asks session answer some
      cases answer with
      | ok => exact cancelPatterns_cancels ((cancelled_update ..).trans cancelled) swept rfl early
      | error error =>
        have heard :=
          (cancelled_hear session (.clearingChannels (found.tracked .channel).sorted early) (.error error)).trans cancelled
        exact cancelPatterns_cancels heard swept rfl early
    | clearingPatterns targets early channels =>
      obtain ⟨⟨found, between, first, rfl, channelsSwept, rfl, some⟩, cancelled⟩ := asked
      have patternsSwept : Sweeps .pattern between _ session answer := .asks session answer some
      cases answer with
      | ok => exact finishCancel_cancels ((cancelled_update ..).trans cancelled) channelsSwept patternsSwept early
      | error error =>
        have heard :=
          (cancelled_hear session (.clearingPatterns (between.tracked .pattern).sorted early channels) (.error error)).trans
            cancelled
        exact finishCancel_cancels heard channelsSwept patternsSwept early
    | _ => exact asked.elim

inductive Refused (kind : Message.Kind) (targets : List Bytes) (deeds : List Deed) : Except Error Unit → Prop where
  | cancelled : Refused kind targets deeds (.error .cancelled)
  /-- The connection itself failed the request. -/
  | failed {earlier : List Deed} {heard : Session} {error : Error}
      (split : deeds = earlier ++ [.asks (.adding kind) targets, .hears heard (.error error)]) :
    Refused kind targets deeds (.error error)

/-- How far an addition has come. It is answered twice at most. -/
def Adds (kind : Message.Kind) (targets : List Bytes) (deeds : List Deed) : Progress → Session → Prop
  | .asking phase, _ =>
    (phase = .adding kind targets ∨ phase = .undoing kind targets) ∧ Deed.answers deeds + phase.rank ≤ 2
  | .finished _, _ => True

theorem lasting_adds (kind : Message.Kind) (targets : List Bytes) (deeds : List Deed) (progress : Progress) :
    Lasting (Adds kind targets deeds progress) := by
  cases progress <;> exact Lasting.const _

theorem path_adds (kind : Message.Kind) (targets : List Bytes) :
    Path (.add kind targets) (fun _ => True) (Adds kind targets) := by
  refine ⟨fun session _ => ?_, fun deeds phase session answer asked => ?_⟩
  · unfold start
    dsimp only
    split
    · trivial
    · split
      · trivial
      · exact ⟨.inl rfl, Nat.le_refl 2⟩
  · obtain ⟨rfl | rfl, few⟩ := asked
    · cases answer with
      | ok =>
        have answered := Deed.answers_append deeds (Phase.adding kind targets).verb targets session (.ok ())
        simp only [resume]
        split
        · exact ⟨.inr rfl, answered ▸ few⟩
        · trivial
      | error error => trivial
    · trivial

/-- How far an addition has come in a session that has been cancelled. -/
def Refuses (kind : Message.Kind) (targets : List Bytes) (deeds : List Deed) : Progress → Session → Prop
  | .asking phase, session =>
    (phase = .adding kind targets ∨ phase = .undoing kind targets) ∧ session.cancelled = true
  | .finished result, _ => Refused kind targets deeds result

theorem lasting_refuses (kind : Message.Kind) (targets : List Bytes) (deeds : List Deed) (progress : Progress) :
    Lasting (Refuses kind targets deeds progress) := by
  cases progress with
  | finished result => exact Lasting.const _
  | asking phase => exact (Lasting.const _).and lasting_cancelled

theorem path_refuses (kind : Message.Kind) (targets : List Bytes) :
    Path (.add kind targets) (fun session => session.cancelled = true) (Refuses kind targets) := by
  refine ⟨fun session cancelled => ?_, fun deeds phase session answer asked => ?_⟩
  · have refused : session.start (.add kind targets) = (.finished (.error .cancelled), session) := if_pos cancelled
    rw [refused]
    exact .cancelled
  · obtain ⟨rfl | rfl, cancelled⟩ := asked
    · cases answer with
      | ok =>
        simp only [resume]
        rw [if_pos ((cancelled_hear ..).trans cancelled)]
        exact ⟨.inr rfl, cancelled⟩
      | error error => exact .failed rfl
    · exact .cancelled

end Session

end Subscriber
