import Subscriber.Change
import Subscriber.Fanout
import Subscriber.Notice
import Subscriber.Targets

/-! Sessions. A session keeps the channels and patterns it has subscribed to, passes on the messages
that arrive, and can be cancelled. A call on a session is a sequence of commands to the server; the
session says which command comes next and what its answer changes. Sets and listeners change only
when an answer has come. -/

namespace Subscriber

inductive Operation where
  | add (kind : Message.Kind) (targets : List Bytes)
  | remove (kind : Message.Kind) (targets : List Bytes)
  | removeAll (kind : Message.Kind)
  | cancel

/-- What a call has asked of the server and what it will do with the answer. -/
inductive Phase where
  | adding (kind : Message.Kind) (targets : List Bytes)
  /-- Taking back what was added although the session had been cancelled. -/
  | undoing (kind : Message.Kind) (targets : List Bytes)
  | removing (kind : Message.Kind) (targets : List Bytes) (sweeping : Bool)
  /-- The channels of a session being cancelled; `first` if it was not cancelled before. -/
  | clearingChannels (targets : List Bytes) (first : Bool)
  | clearingPatterns (targets : List Bytes) (first : Bool) (channels : Except Error Unit)

namespace Phase

def verb : Phase → Verb
  | .adding kind _ => .adding kind
  | .undoing kind _ | .removing kind _ _ => .removing kind
  | .clearingChannels _ _ => .unsubscribe
  | .clearingPatterns _ _ _ => .punsubscribe

def targets : Phase → List Bytes
  | .adding _ targets | .undoing _ targets | .removing _ targets _ | .clearingChannels targets _
  | .clearingPatterns targets _ _ => targets

/-- How many commands a call may send from here on. -/
def rank : Phase → Nat
  | .adding _ _ | .clearingChannels _ _ => 2
  | .undoing _ _ | .removing _ _ _ | .clearingPatterns _ _ _ => 1

end Phase

inductive Progress where
  | finished (result : Except Error Unit)
  | asking (phase : Phase)

structure Session where
  channels : Targets := {}
  patterns : Targets := {}
  cancelled : Bool := false
  fanout : Fanout := {}
  changes : List Change := []
  notices : List Notice := []

namespace Session

def tracked (session : Session) : Message.Kind → Targets
  | .channel => session.channels
  | .pattern => session.patterns

def setTracked (session : Session) (kind : Message.Kind) (targets : Targets) : Session :=
  match kind with
  | .channel => { session with channels := targets }
  | .pattern => { session with patterns := targets }

def note (session : Session) (notice : Notice) : Session :=
  { session with notices := session.notices ++ [notice] }

/-- Adds or removes names one by one and tells the listener of each. -/
def update (session : Session) (kind : Message.Kind) (added : Bool) (names : List Bytes)
    (sweeping : Bool := false) : Session :=
  let step := if added then Targets.insert else Targets.erase
  let (sizes, targets) := (session.tracked kind).change step names
  let changes := sizes.map fun (name, count) => { kind, added, name, count, sweeping : Change }
  { session.setTracked kind targets with changes := session.changes ++ changes }

/-- The end of a cancellation: nothing is tracked any more and all streams end. The first failure
is the result. -/
def finishCancel (session : Session) (first : Bool) (channels patterns : Except Error Unit) :
    Progress × Session :=
  let ended := { session with channels := {}, patterns := {}, fanout := session.fanout.cancel }
  let result := match channels with
    | .error error => .error error
    | .ok () => patterns
  (.finished result, if first then ended.note .sessionCancelled else ended)

/-- The second half of a cancellation, with the outcome of the first. -/
def cancelPatterns (session : Session) (first : Bool) (channels : Except Error Unit) :
    Progress × Session :=
  match session.patterns.sorted with
  | [] => session.finishCancel first channels (.ok ())
  | targets => (.asking (.clearingPatterns targets first channels), session)

def remove (session : Session) (kind : Message.Kind) (targets : List Bytes) (sweeping : Bool) :
    Progress × Session :=
  if targets.isEmpty then (.finished (.ok ()), session)
  else (.asking (.removing kind targets sweeping), session)

/-- The first step of a call. A cancelled session adds nothing and has nothing to remove. -/
def start (session : Session) : Operation → Progress × Session
  | .add kind targets =>
    if session.cancelled then (.finished (.error .cancelled), session)
    else if targets.isEmpty then (.finished (.ok ()), session)
    else (.asking (.adding kind targets), session)
  | .remove kind targets =>
    if session.cancelled then (.finished (.ok ()), session) else session.remove kind targets false
  | .removeAll kind => session.remove kind (session.tracked kind).sorted true
  | .cancel =>
    let first := !session.cancelled
    let session := { session with cancelled := true }
    match session.channels.sorted with
    | [] => session.cancelPatterns first (.ok ())
    | targets => (.asking (.clearingChannels targets first), session)

/-- A failed command is logged wherever it occurs. -/
def hear (session : Session) (phase : Phase) : Except Error Unit → Session
  | .ok () => session
  | .error error => session.note (.requestFailed phase.verb error)

/-- The step of a call that follows the answer to its command. -/
def resume (session : Session) (phase : Phase) (answer : Except Error Unit) : Progress × Session :=
  let session := session.hear phase answer
  match phase, answer with
  | .adding kind targets, .ok () =>
    if session.cancelled then (.asking (.undoing kind targets), session)
    else (.finished (.ok ()), session.update kind true targets)
  | .adding _ _, .error error => (.finished (.error error), session)
  | .undoing _ _, _ => (.finished (.error .cancelled), session)
  | .removing kind targets sweeping, .ok () =>
    (.finished (.ok ()), session.update kind false targets sweeping)
  | .removing _ _ _, .error error => (.finished (.error error), session)
  | .clearingChannels targets first, .ok () =>
    (session.update .channel false targets true).cancelPatterns first (.ok ())
  | .clearingChannels _ first, .error error => session.cancelPatterns first (.error error)
  | .clearingPatterns targets first channels, .ok () =>
    (session.update .pattern false targets true).finishCancel first channels (.ok ())
  | .clearingPatterns _ first channels, .error error =>
    session.finishCancel first channels (.error error)

theorem cancelPatterns_rank {session after : Session} {first : Bool} {channels : Except Error Unit}
    {next : Phase} (asked : session.cancelPatterns first channels = (.asking next, after)) :
    next.rank = 1 := by
  unfold cancelPatterns at asked
  split at asked
  · simp [finishCancel] at asked
  · cases asked; rfl

/-- A call comes closer to its end with every answer. -/
theorem resume_rank {session after : Session} {phase next : Phase} {answer : Except Error Unit}
    (asked : session.resume phase answer = (.asking next, after)) : next.rank < phase.rank := by
  unfold resume at asked
  dsimp only at asked
  split at asked
  · split at asked
    · cases asked; exact Nat.lt_succ_self 1
    · simp at asked
  all_goals first
    | simp [finishCancel] at asked
    | rw [cancelPatterns_rank asked]; exact Nat.lt_succ_self 1

/-- A poll that attaches the first stream activates the delivery. -/
def poll (session : Session) (stream : Nat) : Poll Item × Session :=
  let (item, fanout) := session.fanout.poll stream
  let polled := { session with fanout }
  match session.fanout.pump, fanout.pump with
  | none, some generation => (item, polled.note (.deliveryActivated generation))
  | some generation, none => (item, polled.note (.deliveryReleased generation))
  | _, _ => (item, polled)

/-- The last stream to go releases the upstream. -/
def drop (session : Session) (stream : Nat) : Session :=
  let fanout := session.fanout.drop stream
  let dropped := { session with fanout }
  match session.fanout.pump, fanout.pump with
  | some generation, none => dropped.note (.deliveryReleased generation)
  | _, _ => dropped

def publish (session : Session) (generation : Nat) (item : Item) : Session :=
  let published := { session with fanout := session.fanout.publish generation item }
  match item with
  | .ok _ => published
  | .error _ =>
    if session.fanout.pump = some generation then
      published.note (.deliveryFailed generation session.fanout.consumers.length)
    else published

def finish (session : Session) (generation : Nat) : Session :=
  let finished := { session with fanout := session.fanout.finish generation }
  if session.fanout.pump = some generation then finished.note (.deliveryCompleted generation)
  else finished

/-- The items of a stream up to the first poll that waits or finds the end. -/
def drainOnto (items : List Item) : Nat → Session → Nat → List Item × Poll Item × Session
  | 0, session, stream =>
    let (last, session) := session.poll stream
    (items.reverse, last, session)
  | more + 1, session, stream =>
    match session.poll stream with
    | (.ready item, session) => drainOnto (item :: items) more session stream
    | (last, session) => (items.reverse, last, session)

def drain (session : Session) (stream : Nat) : List Item × Poll Item × Session :=
  session.drainOnto [] (session.fanout.backlog stream) stream

def describe (session : Session) : String :=
  "Subscription \x7b channels: " ++ session.channels.describe ++ ", patterns: " ++
    session.patterns.describe ++ ", active: " ++ toString session.fanout.isActive ++
    ", cancelled: " ++ toString session.cancelled ++ " \x7d"

end Session

end Subscriber
