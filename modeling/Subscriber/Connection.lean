import Subscriber.Connection.Inbound
import Subscriber.Connection.Outbound
import Subscriber.Frame.Encode

/-! Connections. The two sides share nothing: reading never touches what is sent. All writes share
one encoder. A write takes all bytes out of it before it sends the first, so that one that fails or
is given up leaves no bytes behind for the next one. -/

namespace Subscriber

structure Connection where
  inbound : Inbound := {}
  outbound : Outbound := {}
  /-- The buffer into which every write puts its frame. -/
  encoder : Encoder := {}
  /-- Whether reads and writes still go through one value. -/
  whole : Bool := true
  /-- Whenever something else can happen, no bytes stand in the buffer. -/
  drained : encoder.buffer = [] := by exact Encoder.buffer_new

namespace Connection

inductive Event where
  | arrive (arrival : Arrival)
  | finish
  | accept (acceptance : Acceptance)
deriving DecidableEq

def meet (connection : Connection) : Event → Connection
  | .arrive arrival => { connection with inbound := connection.inbound.arrive arrival }
  | .finish => { connection with inbound := connection.inbound.finish }
  | .accept acceptance => { connection with outbound := { connection.outbound with acceptance } }

def read (connection : Connection) : Incoming × Connection :=
  let (incoming, inbound) := connection.inbound.readFrame
  (incoming, { connection with inbound })

/-- The bytes that a write of this frame has to send: all that stands in the buffer behind it. -/
def prepare (connection : Connection) (frame : Frame) : Bytes × Connection :=
  let taken := (connection.encoder.encode frame).take
  (taken.1, { connection with encoder := taken.2, drained := Encoder.buffer_take _ })

theorem prepare_eq (connection : Connection) (frame : Frame) :
    connection.prepare frame = (frame.encode, connection) := by
  obtain ⟨_, _, ⟨buffer⟩, _, drained⟩ := connection
  cases drained
  rfl

def write (connection : Connection) (frame : Frame) : Sending × Connection :=
  let (bytes, connection) := connection.prepare frame
  let (sending, outbound) := connection.outbound.send bytes
  (sending, { connection with outbound })

theorem write_eq (connection : Connection) (frame : Frame) :
    connection.write frame =
      ((connection.outbound.send frame.encode).1,
        { connection with outbound := (connection.outbound.send frame.encode).2 }) := by
  rw [write, prepare_eq]

/-- Hands the two sides to different owners, each with all it has. -/
def split (connection : Connection) : Connection := { connection with whole := false }

/-- Halves have no description. -/
def describe? (connection : Connection) : Option String :=
  if connection.whole then some "Connection \x7b stream: Stream \x7d" else none

/-- Frames up to the first that cannot be read. -/
def readAll (connection : Connection) : Inbound.Pass := connection.inbound.readAll

end Connection

end Subscriber
