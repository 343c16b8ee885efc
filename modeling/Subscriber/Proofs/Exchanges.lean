import Subscriber.Loopback
import Subscriber.Proofs.CommandBytes
import Subscriber.Proofs.QuietLinks
import Subscriber.Proofs.TrackedNames

/-! Scripts for a session, and their two performances. In a rehearsal the session runs over a loopback that holds commands
back until they are granted; in an exchange it runs over a connection, and a server at the other end reads the commands
from the bytes and answers them when the script says so. -/

namespace Subscriber
open Activity (Reply)

/-- What happens next. A call is known by the place of its cue in the script. -/
inductive Cue where
  | call (operation : Operation)
  | receive
  | poll (stream : Nat)
  | drop (stream : Nat)
  /-- The oldest command without an answer is carried out. The counts are those in its acknowledgements. -/
  | grant (counts : Nat → Int64)
  | refuse (text : String)
  | emit (message : Message)

/-- Names that a server can acknowledge within the limit of a frame. -/
def Bytes.Acknowledgeable (name : Bytes) : Prop :=
  ∀ verb count, Frame.Within Frame.defaultLimit [(Remark.acknowledgement verb name count).frame]

theorem Bytes.acknowledgeable {name : Bytes} (small : name.length + 128 ≤ Frame.defaultLimit) : name.Acknowledgeable :=
  fun verb count => Remark.Small.within (show (Remark.acknowledgement verb name count).Small from small)

/-- What the server has to say in consequence can be written in frames that a connection reads. -/
def Cue.Legible : Cue → Prop
  | .call operation => ∀ name ∈ operation.names, name.Acknowledgeable
  | .refuse text => (Remark.refusal (Bytes.ofText text)).Legible
  | .emit message => (Remark.ofMessage message).Legible
  | .receive | .poll _ | .drop _ | .grant _ => True

/-- All that can be seen of a session after a cue. -/
structure Sight where
  reply : Reply
  finished : List (Nat × Except Error Unit)
  changes : List Change
  channels : List Bytes
  patterns : List Bytes
  active : Bool
  cancelled : Bool
  consumers : Nat

def Activity.sight {τ : Type} (activity : Activity τ) (reply : Reply) : Sight where
  reply := reply
  finished := activity.finished
  changes := activity.session.changes
  channels := activity.session.channels.sorted
  patterns := activity.session.patterns.sorted
  active := activity.session.fanout.isActive
  cancelled := activity.session.cancelled
  consumers := activity.session.fanout.consumers.length

namespace Rehearsal

def start : Activity Loopback := { transport := {}, gate := { shut := true } }

/-- A command is refused by failing the next one and then letting it through. While no command is held back there is
none to carry out or to refuse. -/
def play (number : Nat) (activity : Activity Loopback) : Cue → Reply × Activity Loopback
  | .call operation => activity.step (.call number operation)
  | .receive => activity.step .openStream
  | .poll stream => activity.step (.poll stream)
  | .drop stream => activity.step (.drop stream)
  | .grant _ => (.nothing, (activity.step .letFirstThrough).2)
  | .refuse text =>
    if activity.gate.calls.isEmpty then (.nothing, activity)
    else (.nothing, ((activity.step (.transport (Loopback.Event.refuseNext ⟨text⟩))).2.step .letFirstThrough).2)
  | .emit message => activity.step (.transport (Loopback.Event.emit message))

def performFrom (number : Nat) (activity : Activity Loopback) : List Cue → List Sight
  | [] => []
  | cue :: script =>
    let (reply, after) := play number activity cue
    after.sight reply :: performFrom (number + 1) after script

def perform (script : List Cue) : List Sight := performFrom 0 start script

end Rehearsal

/-- A session over a connection, and a server that has answered the commands in some of the bytes written to it. -/
structure Exchange where
  activity : Activity Link
  answered : Bytes := []

namespace Exchange

def start (queueSize : Nat) : Exchange := { activity := { transport := .ofConnection {} queueSize } }

def written (exchange : Exchange) : Bytes := exchange.activity.transport.outbound.accepted

def step (exchange : Exchange) (step : Activity.Step Link) : Reply × Exchange :=
  let (reply, activity) := exchange.activity.step step
  (reply, { exchange with activity })

def say (exchange : Exchange) (remarks : List Remark) : Exchange :=
  (exchange.step (.transport (Connection.Event.arrive (.piece (Remark.bytes remarks))))).2

def answer (exchange : Exchange) (verb : Verb) (targets : List Bytes) (remarks : List Remark) : Exchange :=
  { exchange.say remarks with answered := exchange.answered ++ (verb.command targets).frame.encode }

def Asked (exchange : Exchange) (verb : Verb) (targets : List Bytes) : Prop :=
  exchange.answered ++ (verb.command targets).frame.encode <+: exchange.written

/-- The oldest command is answered. There is no answer to give when everything has been answered. -/
inductive Serves (exchange : Exchange) (remarks : Verb → List Bytes → List Remark) : Exchange → Prop where
  | answers {verb : Verb} {targets : List Bytes} (asked : exchange.Asked verb targets) :
    Serves exchange remarks (exchange.answer verb targets (remarks verb targets))
  | nobody (unasked : exchange.written = exchange.answered) : Serves exchange remarks exchange

inductive Plays (number : Nat) (exchange : Exchange) : Cue → Reply → Exchange → Prop where
  | call (operation : Operation) : Plays number exchange (.call operation)
      (exchange.step (.call number operation)).1 (exchange.step (.call number operation)).2
  | receive : Plays number exchange .receive (exchange.step .openStream).1 (exchange.step .openStream).2
  | poll (stream : Nat) : Plays number exchange (.poll stream)
      (exchange.step (.poll stream)).1 (exchange.step (.poll stream)).2
  | drop (stream : Nat) : Plays number exchange (.drop stream)
      (exchange.step (.drop stream)).1 (exchange.step (.drop stream)).2
  | grant {after : Exchange} (counts : Nat → Int64)
      (serves : exchange.Serves (fun verb targets => Remark.acknowledgements verb counts targets) after) :
    Plays number exchange (.grant counts) .nothing after
  | refuse {after : Exchange} (text : String)
      (serves : exchange.Serves (fun _ _ => [.refusal (Bytes.ofText text)]) after) :
    Plays number exchange (.refuse text) .nothing after
  | emit (message : Message) :
    Plays number exchange (.emit message) .nothing (exchange.say [Remark.ofMessage message])

inductive PerformsFrom : Nat → Exchange → List Cue → List Sight → Prop where
  | ends (number : Nat) (exchange : Exchange) : PerformsFrom number exchange [] []
  | goesOn {number : Nat} {exchange after : Exchange} {cue : Cue} {script : List Cue} {reply : Reply}
      {sights : List Sight} (plays : Plays number exchange cue reply after)
      (later : PerformsFrom (number + 1) after script sights) :
    PerformsFrom number exchange (cue :: script) (after.activity.sight reply :: sights)

def Performs (queueSize : Nat) (script : List Cue) (sights : List Sight) : Prop :=
  PerformsFrom 0 (start queueSize) script sights

end Exchange

/-- A command acknowledged target by target is what a server says that keeps to the protocol. -/
theorem Server.acknowledgements_conform {commands : List Frame} {given : List (Except Fault Unit)} {verb : Verb}
    {targets : List Bytes} (next : commands[given.length]? = some (verb.command targets).frame) (aimed : targets ≠ [])
    (counts : Nat → Int64) :
    ∃ transcript, transcript.map Prod.fst = Remark.acknowledgements verb counts targets ∧
      Conforms commands { given } transcript ∧ ({ given } : Server).after transcript = { given := given ++ [.ok ()] } := by
  -- The induction is on the targets that the server has still to acknowledge.
  have rest (later : List Bytes) (some : later ≠ []) (acknowledged : Nat) (counts : Nat → Int64)
      (size : acknowledged + later.length = targets.length) :
      ∃ transcript, transcript.map Prod.fst = Remark.acknowledgements verb counts later ∧
        Conforms commands { given, acknowledged } transcript ∧
        ({ given, acknowledged } : Server).after transcript = { given := given ++ [.ok ()] } := by
    induction later generalizing acknowledged counts with
    | nil => exact absurd rfl some
    | cons target later ih =>
      rw [List.length_cons] at size
      cases later with
      | nil =>
        have last : acknowledged + 1 = targets.length := size
        exact ⟨[(.acknowledgement verb target (counts 0), { given := given ++ [.ok ()] })], rfl,
          ⟨.completes next last, trivial⟩, rfl⟩
      | cons second later =>
        have more : acknowledged + 1 < targets.length := by
          rw [List.length_cons] at size
          omega
        obtain ⟨transcript, said, conforms, after⟩ := ih (by simp) (acknowledged + 1) (fun index => counts (index + 1))
          (by rw [← size]; simp only [List.length_cons]; omega)
        refine ⟨(.acknowledgement verb target (counts 0), { given, acknowledged := acknowledged + 1 }) :: transcript, ?_,
          ⟨.acknowledges next more, conforms⟩, after⟩
        rw [List.map_cons, said, Remark.acknowledgements_cons verb counts target]
  exact rest targets aimed 0 counts (Nat.zero_add _)

end Subscriber
