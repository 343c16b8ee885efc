import Subscriber.Connection
import Subscriber.Notice
import Subscriber.Observers
import Subscriber.Push

/-! A publish/subscribe connection shared by many callers. Requests pass through a bounded queue to
the one place that writes, and are answered in the order in which they were written: by the number
of acknowledgements that the request asks for, or by one refusal. Messages go to the observers.
The first failure ends the connection for everyone. -/

namespace Subscriber

structure Request where
  call : Nat
  verb : Verb
  targets : List Bytes
deriving DecidableEq

/-- A written request and the number of acknowledgements it still lacks. -/
structure Pending where
  call : Nat
  verb : Verb
  remaining : Nat
deriving DecidableEq

/-- What the work of a connection brings to those who wait on it, in the order in which it happens. -/
inductive Signal (ε : Type) where
  | answer (call : Nat) (result : Except ε Unit)
  /-- A call that waited for space has entered the queue. -/
  | admitted (call : Nat)
  | observed
  | notice (notice : Notice)

inductive Writer where
  | idle
  | sending (unsent : Bytes)
  | stopped
deriving DecidableEq

structure Link where
  inbound : Inbound := {}
  outbound : Outbound := {}
  reading : Bool := true
  writer : Writer := .idle
  capacity : Nat
  queue : List Request := []
  /-- Requests that found the queue full, first come first. -/
  waiting : List Request := []
  pending : List Pending := []
  observers : Observers Fault := {}
  failure : Option Fault := none
  closed : Bool := false
  /-- What has happened since it was last collected. -/
  signals : List (Signal Fault) := []

namespace Link

/-- A queue has room for one request at least. -/
def ofConnection (connection : Connection) (queueSize : Nat) : Link :=
  { inbound := connection.inbound, outbound := connection.outbound, capacity := max queueSize 1 }

def signal (link : Link) (signal : Signal Fault) : Link :=
  { link with signals := link.signals ++ [signal] }

def note (link : Link) (notice : Notice) : Link := link.signal (.notice notice)

def answer (link : Link) (call : Nat) (result : Except Fault Unit) : Link :=
  link.signal (.answer call result)

/-- What a caller is told whose request was given up: the failure, if there was one. -/
def loss (link : Link) : Fault := link.failure.getD .closed

/-- The first failure is recorded for good. It answers every pending request, oldest first, and
then ends every observer. -/
def fail (link : Link) (fault : Fault) : Link :=
  match link.failure with
  | some _ => link
  | none =>
    let noted := { link with failure := some fault }.note (.connectionFailed fault)
    let answered := link.pending.foldl (fun current request => current.answer request.call (.error fault)) noted
    let observers := (link.observers.fail .channel fault).fail .pattern fault
    let ended := { answered with pending := [], observers }
    if link.observers.live = 0 then ended else ended.signal .observed

/-- Only the oldest request can be acknowledged, and only by its own verb. -/
def acknowledge (link : Link) (verb : Verb) : Link :=
  match link.pending with
  | [] => link.note (.unsolicitedAcknowledgement verb)
  | front :: others =>
    if front.verb ≠ verb then link.note (.acknowledgementOutOfOrder front.verb verb)
    else if front.remaining ≤ 1 then { link with pending := others }.answer front.call (.ok ())
    else { link with pending := { front with remaining := front.remaining - 1 } :: others }

/-- A refusal answers the oldest request, whatever has been acknowledged of it. -/
def refuse (link : Link) (text : String) : Link :=
  match link.pending with
  | [] => link.note (.unmatchedRefusal (.server text))
  | front :: others => { link with pending := others }.answer front.call (.error (.server text))

def receive (link : Link) : Push → Link
  | .message message =>
    let fed := { link with observers := link.observers.deliver message }
    if link.observers.liveOf message.kind = 0 then fed else fed.signal .observed
  | .malformed kind => link.note (.malformedMessage kind)
  | .pong => link.note .pong
  | .acknowledgement verb => link.acknowledge verb
  | .refusal text => link.refuse text
  | .unknown word => link.note (.unknownPush word)
  | .unnamed => link.note .unnamedPush
  | .unexpected frame => link.note (.unexpectedFrame frame)

/-- Reads everything that has arrived. A failure ends the reading for good. -/
def read (link : Link) : Link :=
  if link.reading then
    let pass := link.inbound.readAll
    let link := pass.frames.foldl (fun current frame => current.receive (.ofFrame frame))
      { link with inbound := pass.rest }
    match pass.failure with
    | none => link
    | some error => { link.fail (.ofError error) with reading := false }
  else link

/-- After a failed write nothing more is written. Calls that wait for space and then those in the
queue are given up. -/
def stopWriting (link : Link) : Link :=
  (link.waiting ++ link.queue).foldl (fun current request => current.answer request.call (.error current.loss))
    { link with writer := .stopped, queue := [], waiting := [] }

def send (link : Link) (bytes : Bytes) : Link :=
  match link.outbound.send bytes with
  | (.done, outbound) => { link with outbound, writer := .idle }
  | (.blocked unsent, outbound) => { link with outbound, writer := .sending unsent }
  | (.failed cause, outbound) => ({ link with outbound }.fail (.io cause)).stopWriting

/-- Takes the oldest request from the queue; the space goes to the call that has waited longest. On
a connection that has failed that call hears nothing before it gets its answer. -/
def dequeue (link : Link) (queue : List Request) : Link :=
  match link.waiting with
  | [] => { link with queue }
  | first :: others =>
    let moved := { link with queue := queue ++ [first], waiting := others }
    if link.failure.isSome then moved else moved.signal (.admitted first.call)

/-- A request counts as pending before its first byte is sent, so that no answer comes too early. -/
def perform (link : Link) (request : Request) : Link :=
  match link.failure with
  | some fault => link.answer request.call (.error fault)
  | none =>
    let pending := { call := request.call, verb := request.verb, remaining := request.targets.length }
    { link with pending := link.pending ++ [pending] }.send
      (request.verb.command request.targets).frame.encode

def backlog (link : Link) : Nat := link.queue.length + link.waiting.length

theorem backlog_stopWriting (link : Link) : link.stopWriting.backlog = 0 := by
  have answers (requests : List Request) (start : Link) :
      (requests.foldl (fun current request => current.answer request.call (.error current.loss))
        start).backlog = start.backlog := by
    induction requests generalizing start with
    | nil => rfl
    | cons request requests ih => exact (ih _).trans rfl
  exact (answers _ _).trans rfl

theorem backlog_send (link : Link) (bytes : Bytes) : (link.send bytes).backlog ≤ link.backlog := by
  unfold send
  split
  · exact Nat.le_refl _
  · exact Nat.le_refl _
  · rw [backlog_stopWriting]; exact Nat.zero_le _

theorem backlog_perform (link : Link) (request : Request) :
    (link.perform request).backlog ≤ link.backlog := by
  unfold perform
  split
  · exact Nat.le_refl _
  · exact backlog_send _ _

theorem backlog_dequeue {link : Link} {request : Request} {queue : List Request}
    (front : link.queue = request :: queue) : (link.dequeue queue).backlog < link.backlog := by
  unfold dequeue
  split
  next waiting => simp [backlog, front, waiting]
  next waiting => dsimp only; split <;> simp [backlog, signal, front, waiting]

def serve (link : Link) : Link :=
  match _front : link.queue with
  | [] => link
  | request :: queue =>
    if link.writer = .idle then serve ((link.dequeue queue).perform request) else link
termination_by link.backlog
decreasing_by
  exact Nat.lt_of_le_of_lt (backlog_perform _ _) (backlog_dequeue _front)

def write (link : Link) : Link :=
  match link.writer with
  | .sending unsent => (link.send unsent).serve
  | _ => link.serve

/-- A closed connection goes on writing what was requested before, and lets go of its observers
when nothing is left to write. -/
def wind (link : Link) : Link :=
  match link.closed, link.writer with
  | true, .idle | true, .stopped => { link with writer := .stopped, observers := link.observers.close }
  | _, _ => link

/-- Does everything that can be done without waiting. -/
def work (link : Link) : Link := link.read.write.wind

def meet (link : Link) : Connection.Event → Link
  | .arrive arrival => { link with inbound := link.inbound.arrive arrival }
  | .finish => { link with inbound := link.inbound.finish }
  | .accept acceptance => { link with outbound := { link.outbound with acceptance } }

def collect (link : Link) : List (Signal Fault) × Link := (link.signals, { link with signals := [] })

/-- A call with no targets needs no server. Any other waits for its answer, unless nothing is
written any more. -/
def request (link : Link) (call : Nat) (verb : Verb) (targets : List Bytes) :
    Option (Except Fault Unit) × Link :=
  if targets.isEmpty then (some (.ok ()), link)
  else if link.writer = .stopped then (some (.error link.loss), link)
  else if link.queue.length < link.capacity then
    (none, { link with queue := link.queue ++ [{ call, verb, targets }] })
  else (none, { link with waiting := link.waiting ++ [{ call, verb, targets }] })

/-- A call that is given up leaves the line of those who wait for space. Once it is in the queue
its request is sent all the same. -/
def abandon (link : Link) (call : Nat) : Link :=
  { link with waiting := link.waiting.filter (·.call != call) }

def observe (link : Link) (kind : Message.Kind) : Nat × Link :=
  let (id, observers) := match link.failure with
    | none => link.observers.register kind
    | some fault => link.observers.registerFailed kind fault
  (id, { link with observers })

/-- Nothing is read and nothing new is requested any more. -/
def close (link : Link) : Link := { link with closed := true, reading := false }

def describe (link : Link) : String :=
  "RespPubSubConnection \x7b observers: " ++ toString link.observers.live ++ " \x7d"

end Link

end Subscriber
