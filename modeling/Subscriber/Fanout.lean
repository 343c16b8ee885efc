import Subscriber.Error
import Subscriber.Observers

/-! The fan-out of one upstream to many streams. A stream attaches when it is first polled; the
first to attach starts a pump, which reads the upstream and publishes what it finds, and the last
to leave stops it. Pumps are told apart by their generation, so that one that has been stopped can
no longer be heard. -/

namespace Subscriber

/-- What a stream yields. A stream ends behind an interruption. -/
abbrev Item := Except Interruption Message

inductive Attachment where
  | detached
  | attached (consumer : Nat) (queued : List Item)
  | done

def Attachment.name : Attachment → String
  | .detached => "detached"
  | .attached .. => "attached"
  | .done => "done"

def Attachment.describe (attachment : Attachment) : String :=
  "MessageStream \x7b state: \"" ++ attachment.name ++ "\" \x7d"

/-- The two counters have no bound here. Runs in which a fan-out sees 2 ^ 64 attachments, where counters of 64 bits
run over, are left out. -/
structure Fanout where
  nextConsumer : Nat := 0
  generation : Nat := 0
  /-- The attached streams that can still be given items. -/
  consumers : List Nat := []
  pump : Option Nat := none
  cancelled : Bool := false
  /-- By the number of the stream; a dropped stream leaves its place empty. -/
  streams : List (Option Attachment) := []

namespace Fanout

def isActive (fanout : Fanout) : Bool := fanout.pump.isSome

def stream? (fanout : Fanout) (stream : Nat) : Option Attachment := (fanout.streams[stream]?).join

def setStream (fanout : Fanout) (stream : Nat) (attachment : Option Attachment) : Fanout :=
  { fanout with streams := fanout.streams.set stream attachment }

/-- A new stream. Nothing happens until it is polled. -/
def openStream (fanout : Fanout) : Nat × Fanout :=
  (fanout.streams.length, { fanout with streams := fanout.streams ++ [some .detached] })

def attach (fanout : Fanout) (stream : Nat) : Fanout :=
  let joined := { fanout with
    nextConsumer := fanout.nextConsumer + 1,
    consumers := fanout.consumers ++ [fanout.nextConsumer] }.setStream stream
      (some (.attached fanout.nextConsumer []))
  match fanout.pump with
  | some _ => joined
  | none => { joined with generation := fanout.generation + 1, pump := some (fanout.generation + 1) }

/-- A consumer that is not known any more has nothing to leave. -/
def detach (fanout : Fanout) (consumer : Nat) : Fanout :=
  if fanout.consumers.contains consumer then
    let consumers := fanout.consumers.erase consumer
    { fanout with consumers, pump := if consumers.isEmpty then none else fanout.pump }
  else fanout

/-- The next item of a stream: what is queued first, then, if nobody can add to it any more, the
end. -/
def poll (fanout : Fanout) (stream : Nat) : Poll Item × Fanout :=
  match fanout.stream? stream with
  | none | some .done => (.ended, fanout)
  | some .detached =>
    if fanout.cancelled then (.ready (.error .cancelled), fanout.setStream stream (some .done))
    else (.pending, fanout.attach stream)
  | some (.attached consumer []) =>
    if fanout.consumers.contains consumer then (.pending, fanout)
    else (.ended, (fanout.setStream stream (some .done)).detach consumer)
  | some (.attached consumer (.ok message :: queued)) =>
    (.ready (.ok message), fanout.setStream stream (some (.attached consumer queued)))
  | some (.attached consumer (.error interruption :: _)) =>
    (.ready (.error interruption), (fanout.setStream stream (some .done)).detach consumer)

def drop (fanout : Fanout) (stream : Nat) : Fanout :=
  match fanout.stream? stream with
  | some (.attached consumer _) => (fanout.setStream stream none).detach consumer
  | _ => fanout.setStream stream none

def deliver (fanout : Fanout) (item : Item) : Fanout :=
  { fanout with
    streams := fanout.streams.map fun
      | some (.attached consumer queued) =>
        if fanout.consumers.contains consumer then some (.attached consumer (queued ++ [item]))
        else some (.attached consumer queued)
      | other => other }

/-- The pump of a generation has found an item. An interruption ends the pump and lets all its
consumers go. -/
def publish (fanout : Fanout) (generation : Nat) (item : Item) : Fanout :=
  if fanout.pump = some generation then
    match item with
    | .ok _ => fanout.deliver item
    | .error _ => { fanout.deliver item with consumers := [], pump := none }
  else fanout

def finish (fanout : Fanout) (generation : Nat) : Fanout :=
  if fanout.pump = some generation then { fanout with consumers := [], pump := none } else fanout

def cancel (fanout : Fanout) : Fanout :=
  { fanout.deliver (.error .cancelled) with cancelled := true, consumers := [], pump := none }

/-- How many polls of a stream can yield something before it waits or has ended. -/
def backlog (fanout : Fanout) (stream : Nat) : Nat :=
  match fanout.stream? stream with
  | some (.attached _ queued) => queued.length
  | some .detached => 1
  | _ => 0

end Fanout

end Subscriber
