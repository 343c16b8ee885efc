import Subscriber.Merge
import Subscriber.Session
import Subscriber.Transport

/-! A session at work over a transport: calls in progress, the pump that carries messages from the
transport to the session, and the order in which all of them get their turn. One task runs at a
time, first come first served, for as long as it need not wait; between two steps from outside all
tasks run until none wants a turn. -/

namespace Subscriber

/-- How far a call has come. -/
inductive Stage where
  | starting (operation : Operation)
  | held (phase : Phase)
  | released (phase : Phase)
  | sent (phase : Phase)
  | answered (phase : Phase) (answer : Except Error Unit)

inductive Task where
  | call (id : Nat)
  | background
  | pump
deriving DecidableEq

/-- Reads one observer of either kind as one stream, channels on the left. -/
structure Pump where
  generation : Nat
  channels : Nat
  patterns : Nat
  /-- Whether the observer's stream has been cut off, so that it ends without a failure. -/
  channelsCut : Bool := false
  patternsCut : Bool := false
  merge : Merge := {}

/-- Holds commands back in front of the transport while it is shut. -/
structure Gate where
  shut : Bool := false
  calls : List Nat := []

structure Activity (τ : Type) where
  transport : τ
  session : Session := {}
  calls : List (Nat × Stage) := []
  gate : Gate := {}
  pump : Option Pump := none
  /-- Tasks that want a turn, none of them twice. -/
  ready : List Task := []
  finished : List (Nat × Except Error Unit) := []

namespace Activity

variable {τ : Type} [Transport τ]

def wake (activity : Activity τ) (task : Task) : Activity τ :=
  if activity.ready.contains task then activity else { activity with ready := activity.ready ++ [task] }

def stage? (activity : Activity τ) (call : Nat) : Option Stage := activity.calls.lookup call

def setStage (activity : Activity τ) (call : Nat) (stage : Stage) : Activity τ :=
  { activity with
    calls := activity.calls.map fun entry => if entry.1 = call then (call, stage) else entry }

/-- Takes a call and all that is kept for it away. -/
def forget (activity : Activity τ) (call : Nat) : Activity τ :=
  { activity with
    calls := activity.calls.filter (·.1 != call),
    ready := activity.ready.filter (· != .call call),
    gate := { activity.gate with calls := activity.gate.calls.filter (· != call) } }

def finish (activity : Activity τ) (call : Nat) (result : Except Error Unit) : Activity τ :=
  { activity.forget call with finished := activity.finished ++ [(call, result)] }

/-- Lets go of a pump that the session does not want any more. -/
def stopPump (activity : Activity τ) : Activity τ :=
  match activity.pump with
  | none => activity
  | some pump =>
    { activity with
      transport := Transport.release (Transport.release activity.transport pump.channels) pump.patterns,
      pump := none,
      ready := activity.ready.filter (· != .pump) }

def startPump (activity : Activity τ) (generation : Nat) : Activity τ :=
  let (channels, transport) := Transport.observe activity.transport .channel
  let (patterns, transport) := Transport.observe transport .pattern
  { activity with transport, pump := some { generation, channels, patterns } }.wake .pump

/-- Brings the pump in line with what the session wants. -/
def adjustPump (activity : Activity τ) : Activity τ :=
  match activity.session.fanout.pump with
  | none => activity.stopPump
  | some generation =>
    if activity.pump.any (·.generation == generation) then activity
    else activity.stopPump.startPump generation

/-- Sends the command of a call to the transport. As long as answers come at once and the gate is
open, the call goes on. -/
def submit (activity : Activity τ) (call : Nat) (phase : Phase) : Activity τ :=
  match Transport.submit activity.transport call phase.verb phase.targets with
  | (none, transport) => ({ activity with transport }.setStage call (.sent phase)).wake .background
  | (some answer, transport) =>
    match _next : activity.session.resume phase answer with
    | (.finished result, session) => { activity with transport, session }.finish call result
    | (.asking next, session) =>
      if activity.gate.shut then
        { activity with
          transport, session,
          gate := { activity.gate with calls := activity.gate.calls ++ [call] } }.setStage call (.held next)
      else submit { activity with transport, session } call next
termination_by phase.rank
decreasing_by exact Session.resume_rank _next

/-- Goes on with a call that has taken a step. -/
def proceed (activity : Activity τ) (call : Nat) : Progress → Activity τ
  | .finished result => activity.finish call result
  | .asking phase =>
    if activity.gate.shut then
      { activity with gate := { activity.gate with calls := activity.gate.calls ++ [call] } }.setStage
        call (.held phase)
    else activity.submit call phase

def runCall (activity : Activity τ) (call : Nat) : Activity τ :=
  match activity.stage? call with
  | some (.starting operation) =>
    let (progress, session) := activity.session.start operation
    ({ activity with session }.proceed call progress).adjustPump
  | some (.released phase) => (activity.submit call phase).adjustPump
  | some (.answered phase answer) =>
    let (progress, session) := activity.session.resume phase answer
    ({ activity with session }.proceed call progress).adjustPump
  | _ => activity

def hear (activity : Activity τ) : Signal Error → Activity τ
  | .answer call answer =>
    match activity.stage? call with
    | some (.sent phase) => (activity.setStage call (.answered phase answer)).wake (.call call)
    | _ => activity
  | .admitted call => if (activity.stage? call).isSome then activity.wake (.call call) else activity
  | .observed => if activity.pump.isSome then activity.wake .pump else activity
  | .notice notice => { activity with session := activity.session.note notice }

def runBackground (activity : Activity τ) : Activity τ :=
  let (signals, transport) := Transport.work activity.transport
  signals.foldl hear { activity with transport }

def askSide (pump : Pump) (side : Side) (transport : τ) : Poll (Except Error Message) × τ :=
  match side with
  | .left => if pump.channelsCut then (.ended, transport) else Transport.poll transport pump.channels
  | .right => if pump.patternsCut then (.ended, transport) else Transport.poll transport pump.patterns

/-- A pump at the end of its turn finds nothing, whatever there is. -/
def askNothing (_ : Side) (transport : τ) : Poll (Except Error Message) × τ := (.pending, transport)

def pollPump (activity : Activity τ) (pump : Pump)
    (ask : Side → τ → Poll (Except Error Message) × τ) : Poll (Except Error Message) × Activity τ :=
  let (item, merge, transport) := pump.merge.poll ask activity.transport
  (item, { activity with transport, pump := some { pump with merge } })

/-- One turn of the pump publishes so many items at most. If that was not enough, it goes to the
end of the line. -/
def runPump (activity : Activity τ) : Nat → Activity τ
  | 0 =>
    match activity.pump with
    | none => activity
    | some pump => (activity.pollPump pump askNothing).2.wake .pump
  | more + 1 =>
    match activity.pump with
    | none => activity
    | some pump =>
      match activity.pollPump pump (askSide pump) with
      | (.pending, activity) => activity
      | (.ended, activity) =>
        { activity with session := activity.session.finish pump.generation }.adjustPump
      | (.ready (.ok message), activity) =>
        runPump { activity with session := activity.session.publish pump.generation (.ok message) } more
      | (.ready (.error error), activity) =>
        { activity with
          session := activity.session.publish pump.generation (.error (.upstream error)) }.adjustPump

def pumpTurn : Nat := 128

def run (activity : Activity τ) : Task → Activity τ
  | .call call => activity.runCall call
  | .background => activity.runBackground
  | .pump => activity.runPump pumpTurn

/-- Gives turns until nobody wants one, or so many have been given. -/
def runTasks : Nat → Activity τ → Activity τ
  | 0, activity => activity
  | turns + 1, activity =>
    match activity.ready with
    | [] => activity
    | task :: ready => runTasks turns ({ activity with ready }.run task)

/-- More turns than can be wanted: a call sends three commands at most, a command takes a few
turns, and every further turn of the pump publishes something. -/
def turns (activity : Activity τ) : Nat :=
  16 * (activity.calls.length + activity.ready.length + 1) + Transport.backlog activity.transport

def settle (activity : Activity τ) : Activity τ := runTasks activity.turns activity

inductive Step (τ : Type) [Transport τ] where
  | call (id : Nat) (operation : Operation)
  | abandon (call : Nat)
  | openStream
  | poll (stream : Nat)
  /-- Polls up to the first that waits or finds the end. -/
  | drain (stream : Nat)
  | drop (stream : Nat)
  | setGate (shut : Bool)
  /-- Lets the command of a call go on that has been held back. -/
  | letThrough (call : Nat)
  /-- Lets the command go on that was held back first. -/
  | letFirstThrough
  /-- Cuts the streams of one kind that have been opened so far. -/
  | cut (kind : Message.Kind)
  | transport (event : Transport.Event τ)

inductive Reply where
  | nothing
  | known (known : Bool)
  | stream (stream : Nat)
  | noStream
  | item (item : Poll Item)
  | items (items : List Item) (last : Poll Item)

def start (activity : Activity τ) (call : Nat) (operation : Operation) : Activity τ :=
  { activity with calls := activity.calls ++ [(call, Stage.starting operation)] }.wake (.call call)

def abandon (activity : Activity τ) (call : Nat) : Bool × Activity τ :=
  match activity.stage? call with
  | none => (false, activity)
  | some _ =>
    (true, { activity.forget call with transport := Transport.abandon activity.transport call })

def letThrough (activity : Activity τ) (call : Nat) : Bool × Activity τ :=
  match activity.stage? call with
  | some (.held phase) =>
    let gate := { activity.gate with calls := activity.gate.calls.erase call }
    (true, ({ activity with gate }.setStage call (.released phase)).wake (.call call))
  | _ => (false, activity)

def cut (activity : Activity τ) (kind : Message.Kind) : Activity τ :=
  match activity.pump with
  | none => activity
  | some pump =>
    let pump := match kind with
      | .channel => { pump with channelsCut := true }
      | .pattern => { pump with patternsCut := true }
    { activity with pump := some pump }.wake .pump

def affect (activity : Activity τ) (event : Transport.Event τ) : Activity τ :=
  let (signals, transport) := Transport.meet activity.transport event
  (signals.foldl hear { activity with transport }).wake .background

/-- A step before anything that follows from it is done. -/
def begin (activity : Activity τ) : Step τ → Reply × Activity τ
  | .call id operation => (.nothing, activity.start id operation)
  | .abandon call =>
    let (known, activity) := activity.abandon call
    (.known known, activity)
  | .openStream =>
    let (stream, fanout) := activity.session.fanout.openStream
    (.stream stream, { activity with session := { activity.session with fanout } })
  | .poll stream =>
    match activity.session.fanout.stream? stream with
    | none => (.noStream, activity)
    | some _ =>
      let (item, session) := activity.session.poll stream
      (.item item, { activity with session }.adjustPump)
  | .drain stream =>
    match activity.session.fanout.stream? stream with
    | none => (.noStream, activity)
    | some _ =>
      let (items, last, session) := activity.session.drain stream
      (.items items last, { activity with session }.adjustPump)
  | .drop stream => (.nothing, { activity with session := activity.session.drop stream }.adjustPump)
  | .setGate shut => (.nothing, { activity with gate := { activity.gate with shut } })
  | .letThrough call =>
    let (known, activity) := activity.letThrough call
    (.known known, activity)
  | .letFirstThrough =>
    match activity.gate.calls with
    | [] => (.known false, activity)
    | call :: _ =>
      let (known, activity) := activity.letThrough call
      (.known known, activity)
  | .cut kind => (.nothing, activity.cut kind)
  | .transport event => (.nothing, activity.affect event)

def step (activity : Activity τ) (step : Step τ) : Reply × Activity τ :=
  let (reply, begun) := activity.begin step
  (reply, begun.settle)

end Activity

end Subscriber
