import Subscriber.Activity
import Subscriber.Address
import Subscriber.Handshake

/-! Settings from which a session is established: where the server is, who is asking and how. -/

namespace Subscriber

structure Settings where
  address : Option String := none
  handshake : Handshake := {}
  /-- How long connecting may take, in milliseconds. -/
  timeout : Option Nat := none
  queueSize : Option Nat := none
  listening : Bool := false

namespace Settings

def defaultQueueSize : Nat := 1024

def describe (settings : Settings) : String :=
  "SubscriptionBuilder \x7b address: " ++ Text.option (settings.address.map Text.quote) ++
    ", database: " ++ Text.option (settings.handshake.database.map fun database => toString database.toNat) ++
    ", client_name: " ++ Text.option (settings.handshake.clientName.map Text.quote) ++
    ", connection_timeout: " ++ Text.option (settings.timeout.map Text.duration) ++
    ", queue_size: " ++ Text.option (settings.queueSize.map toString) ++
    ", listener: " ++ toString settings.listening ++ ", .. \x7d"

/-- The server's address. It is checked before anything is connected. -/
def target (settings : Settings) : Except Error Address :=
  match settings.address with
  | none => .error (.invalidArgument "address is required")
  | some text => (Address.parse text).mapError fun problem => .invalidArgument problem.message

inductive Outcome where
  | ready (activity : Activity Link)
  | failed (error : Error)
  | pending

/-- Connects, performs the handshake and hands the connection to a new session. -/
def establish (settings : Settings) (connect : Address → Except IoError Connection) : Outcome :=
  match settings.target with
  | .error error => .failed error
  | .ok address =>
    match connect address with
    | .error cause => .failed (.io cause)
    | .ok connection =>
      match settings.handshake.run connection with
      | (.failed error, _) => .failed error
      | (.pending, _) => .pending
      | (.done, connection) =>
        .ready { transport := .ofConnection connection (settings.queueSize.getD defaultQueueSize) }

end Settings

end Subscriber
