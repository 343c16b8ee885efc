import Subscriber.Command
import Subscriber.Connection

/-! The handshake on a fresh connection: authentication, choice of database, name of the client,
as far as they are configured. Each command is sent after the reply to the one before it. -/

namespace Subscriber

structure Handshake where
  username : Option String := none
  password : Option String := none
  database : Option UInt8 := none
  clientName : Option String := none
deriving DecidableEq

namespace Handshake

structure Request where
  command : Command
  /-- A refused authentication is an error of its own, whatever the server says. -/
  authenticates : Bool := false
deriving DecidableEq

/-- A username counts only together with a password. -/
def requests (handshake : Handshake) : List Request :=
  let auth := handshake.password.map fun password =>
    { command := .auth (handshake.username.map Bytes.ofText) (Bytes.ofText password),
      authenticates := true }
  let select := handshake.database.map fun database => { command := .select database }
  let name := handshake.clientName.map fun name => { command := .setName (Bytes.ofText name) }
  auth.toList ++ select.toList ++ name.toList

inductive Outcome where
  | done
  | failed (error : Error)
  | pending
deriving DecidableEq

def Request.judge (request : Request) (reply : Frame) : Option Error :=
  match reply.reply with
  | .ok _ => none
  | .error error => some (if request.authenticates then .auth else error)

def perform : List Request → Connection → Outcome × Connection
  | [], connection => (.done, connection)
  | request :: requests, connection =>
    match connection.write request.command.frame with
    | (.failed cause, connection) => (.failed (.io cause), connection)
    | (.blocked _, connection) => (.pending, connection)
    | (.done, connection) =>
      match connection.read with
      | (.failed error, connection) => (.failed error, connection)
      | (.pending, connection) => (.pending, connection)
      | (.frame reply, connection) =>
        match request.judge reply with
        | some error => (.failed error, connection)
        | none => perform requests connection

def run (handshake : Handshake) (connection : Connection) : Outcome × Connection :=
  perform handshake.requests connection

end Handshake

end Subscriber
